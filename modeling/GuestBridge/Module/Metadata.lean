import GuestBridge.Call.Signature
import GuestBridge.Layout.Registry

/-!
# Module metadata

A module may carry `Metadata`: struct declarations, and for some of its functions a
`DeclaredSignature` that names types. A declared signature is resolved to kinds against a registry,
or against a staged batch on top of one (`DeclaredSignature.resolve`).
-/

namespace GuestBridge

/-- The types of the parameters and results of a function, by name. -/
structure DeclaredSignature where
  params : List String
  results : List String
  deriving DecidableEq, Repr

namespace DeclaredSignature

/-- A way to look up types by name. -/
abbrev Lookup := String → Except RegistryError TypeDescriptor

/-- The kinds of the parameters. A type without values cannot be one. -/
def resolveParams (lookup : Lookup) : List String → Except RegistryError (List Kind)
  | [] => .ok []
  | name :: rest => do
      let type ← lookup name
      match type.boundaryKind with
      | none => throw (.invalidLayout name .noParameter)
      | some kind =>
          let kinds ← resolveParams lookup rest
          return kind :: kinds

/-- The kinds of the results, leaving out types without values. -/
def resolveResults (lookup : Lookup) : List String → Except RegistryError (List Kind)
  | [] => .ok []
  | name :: rest => do
      let type ← lookup name
      let kinds ← resolveResults lookup rest
      return type.boundaryKind.toList ++ kinds

/-- The signature that the named types make. -/
def resolve (s : DeclaredSignature) (lookup : Lookup) : Except RegistryError Signature := do
  let params ← resolveParams lookup s.params
  let results ← resolveResults lookup s.results
  return ⟨params, results⟩

end DeclaredSignature

/-- What a module tells about itself. -/
structure Metadata where
  version : UInt32
  structs : List StructDecl
  functions : SortedMap String DeclaredSignature

namespace Metadata

/-- The latest version of metadata that is understood. -/
def supportedVersion : UInt32 := 1

def empty : Metadata :=
  ⟨supportedVersion, [], .empty⟩

instance : Inhabited Metadata := ⟨empty⟩

/-- The declared signature of a function. -/
def function? (m : Metadata) (name : String) : Option DeclaredSignature :=
  m.functions.get? name

end Metadata

/-- Why metadata is refused. -/
inductive MetadataError where
  | malformed (name : String)
  | unsupportedVersion (found supported : UInt32)
  | repeated (name : String)
  deriving DecidableEq, Repr

def MetadataError.message : MetadataError → String
  | malformed name => s!"metadata section `{name}` is not valid JSON"
  | unsupportedVersion found supported =>
      let found := found.toNat
      let supported := supported.toNat
      s!"metadata version {found} is newer than supported version {supported}"
  | repeated name => s!"metadata section `{name}` appears more than once"

end GuestBridge
