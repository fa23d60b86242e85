import GuestBridge.Config
import GuestBridge.Json.Decoder
import GuestBridge.Layout.Descriptor
import GuestBridge.Module.Compiled

/-!
# Documents of configurations and diagnostics

A configuration document overrides the fields it has: any other field keeps its standard value. A
diagnostic has its source and message, and its position as far as it is known.
-/

namespace GuestBridge

open Json (Decoder)

/-- A null, or the document of what there is. -/
def optionToJson {α : Type} (toJson : α → Json) : Option α → Json
  | none => .null
  | some a => toJson a

def Config.toJson (c : Config) : Json :=
  .ofMembers [("initializer", optionToJson .text c.initializer),
    ("host_module", .text c.hostModule),
    ("memory_export", .text c.memoryExport),
    ("alloc_export", .text c.allocExport),
    ("metadata_section", .text c.metadataSection),
    ("fuel_per_call", optionToJson (fun f => .number (.ofNat f.toNat)) c.fuelPerCall)]

def Diagnostic.toJson (d : Diagnostic) : Json :=
  .ofMembers [("source_name", .text d.sourceName), ("message", .text d.message),
    ("line", optionToJson (fun n => .number (.ofNat n.toNat)) d.line),
    ("column", optionToJson (fun n => .number (.ofNat n.toNat)) d.column)]

namespace Decode

open Json.Decode

/-- A configuration; what is left out is standard. -/
def config : Decoder Config := fun depth j => do
  let r ← Json.record ["initializer", "host_module", "memory_export", "alloc_export",
    "metadata_section", "fuel_per_call"] depth j
  let std := Config.standard
  let initializer ← r.defaulted "initializer" std.initializer (nullable text)
  let hostModule ← r.defaulted "host_module" std.hostModule text
  let memoryExport ← r.defaulted "memory_export" std.memoryExport text
  let allocExport ← r.defaulted "alloc_export" std.allocExport text
  let metadataSection ← r.defaulted "metadata_section" std.metadataSection text
  let fuelPerCall ← r.defaulted "fuel_per_call" std.fuelPerCall (nullable uint64)
  return ⟨initializer, hostModule, memoryExport, allocExport, metadataSection, fuelPerCall⟩

def diagnostic : Decoder Diagnostic := fun depth j => do
  let r ← Json.record ["source_name", "message", "line", "column"] depth j
  let sourceName ← r.required "source_name" text
  let message ← r.required "message" text
  let line ← r.optional "line" uint32
  let column ← r.optional "column" uint32
  return ⟨sourceName, message, line, column⟩

end Decode

def Decode.typeKind : Decoder TypeKind := Json.Decode.tagged TypeKind.ofTag?

end GuestBridge
