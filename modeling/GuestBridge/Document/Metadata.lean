import GuestBridge.Json.Decoder
import GuestBridge.Module.Metadata

/-!
# Documents of metadata

How struct declarations, declared signatures and module metadata are written and read. Everything a
module does not mention has a default, and a function that is mentioned twice counts as mentioned
last.
-/

namespace GuestBridge

open Json (Decoder)

/-! ## Writing -/

def FieldDecl.toJson (f : FieldDecl) : Json :=
  .ofMembers [("name", .text f.name), ("type", .text f.type),
    ("offset", .number (.ofNat f.offset.toNat))]

def StructDecl.toJson (d : StructDecl) : Json :=
  .ofMembers [("name", .text d.name), ("size", .number (.ofNat d.size.toNat)),
    ("fields", .array (d.fields.map FieldDecl.toJson))]

def DeclaredSignature.toJson (s : DeclaredSignature) : Json :=
  .ofMembers [("params", .array (s.params.map .text)), ("results", .array (s.results.map .text))]

/-- The document of metadata, the functions in the order of their names. -/
def Metadata.toJson (m : Metadata) : Json :=
  .ofMembers [("version", .number (.ofNat m.version.toNat)),
    ("structs", .array (m.structs.map StructDecl.toJson)),
    ("functions", .ofMembers (m.functions.entries.map fun (name, s) => (name, s.toJson)))]

/-! ## Reading -/

namespace Decode

open Json.Decode

def fieldDecl : Decoder FieldDecl := fun depth j => do
  let r ← Json.record ["name", "type", "offset"] depth j
  let name ← r.required "name" text
  let type ← r.required "type" text
  let offset ← r.required "offset" uint32
  return ⟨name, offset, type⟩

def structDecl : Decoder StructDecl := fun depth j => do
  let r ← Json.record ["name", "size", "fields"] depth j
  let name ← r.required "name" text
  let size ← r.required "size" uint32
  let fields ← r.defaulted "fields" [] (list fieldDecl)
  return ⟨name, size, fields⟩

def declaredSignature : Decoder DeclaredSignature := fun depth j => do
  let r ← Json.record ["params", "results"] depth j
  let params ← r.defaulted "params" [] (list text)
  let results ← r.defaulted "results" [] (list text)
  return ⟨params, results⟩

def metadata : Decoder Metadata := fun depth j => do
  let r ← Json.record ["version", "structs", "functions"] depth j
  let version ← r.defaulted "version" Metadata.supportedVersion uint32
  let structs ← r.defaulted "structs" [] (list structDecl)
  let functions ← r.defaulted "functions" [] (members declaredSignature)
  return ⟨version, structs, .ofList functions⟩

end Decode

/-- The metadata in a document, from the section of the given name. A later version than the
supported one is refused. -/
def Metadata.read (name : String) (document : Bytes) : Except MetadataError Metadata :=
  match Json.decode? Decode.metadata document with
  | none => .error (.malformed name)
  | some m =>
      if Metadata.supportedVersion < m.version then
        .error (.unsupportedVersion m.version Metadata.supportedVersion)
      else .ok m

end GuestBridge
