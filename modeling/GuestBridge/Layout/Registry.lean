import GuestBridge.Layout.Declaration
import GuestBridge.Layout.Error
import GuestBridge.SortedMap

/-!
# The registry of types

A `Registry` maps names to descriptors. It starts with the primitive types and grows by batches of
struct declarations that may name one another: `register` takes only new names, `declare` also takes
a name that is registered with exactly the declared layout. A batch is checked as a whole (`build`):
first the names, then that no declaration needs itself, then each struct after those it embeds. A
batch that fails changes nothing. `stage` checks a batch without adding it, and `commit` adds it
later, checking it again.
-/

namespace GuestBridge

/-- The registered types, by name. -/
structure Registry where
  types : SortedMap String TypeDescriptor

/-- How a declaration of a registered name is treated. -/
inductive Redeclaration where
  | refused
  | allowedIfIdentical
  deriving DecidableEq, Repr

/-! ## Building one struct -/

/-- Resolves and checks the declared fields in order: known type, new name, some bytes, no overlap
with the field before, and inside the struct. `previous` is the field before, with the offset of its
end. -/
def buildFields (decl : StructDecl) (resolve : String → Option TypeDescriptor) :
    List String → Option (String × Nat) → List FieldDecl →
      Except RegistryError (List FieldDescriptor)
  | _, _, [] => .ok []
  | seen, previous, f :: rest => do
      let invalid := RegistryError.invalidLayout decl.name
      let some type := resolve f.type | throw (.notFound f.type)
      let start := f.offset.toNat
      let bytes := type.size.toNat
      let size := decl.size.toNat
      if f.name ∈ seen then throw (invalid (.duplicateField f.name))
      if bytes = 0 then throw (invalid (.emptyField f.name type.name))
      match previous with
      | some (name, stop) =>
          if start < stop then throw (invalid (.overlap f.name start name stop))
      | none => pure ()
      if size ≤ start then throw (invalid (.outside f.name start size))
      if size < start + bytes then throw (invalid (.tooSmall size f.name start bytes))
      let fields ← buildFields decl resolve (f.name :: seen) (some (f.name, start + bytes)) rest
      return ⟨f.name, f.offset, type⟩ :: fields

/-- The descriptor of a declaration whose field types are resolved by `resolve`. -/
def buildStruct (decl : StructDecl) (resolve : String → Option TypeDescriptor) :
    Except RegistryError TypeDescriptor := do
  let fields ← buildFields decl resolve [] none decl.fields
  return .struct decl.name decl.size fields

namespace Registry

/-- The registry of the primitive types alone. -/
def primitives : Registry :=
  ⟨SortedMap.ofList (Primitive.all.map fun p => (p.name, .primitive p))⟩

instance : Inhabited Registry := ⟨primitives⟩

/-! ## Looking up -/

/-- The descriptor registered under a name. -/
def get? (r : Registry) (name : String) : Option TypeDescriptor :=
  r.types.get? name

/-- The descriptor registered under a name, or that there is none. -/
def lookup (r : Registry) (name : String) : Except RegistryError TypeDescriptor :=
  match r.get? name with
  | some d => .ok d
  | none => .error (.notFound name)

def contains (r : Registry) (name : String) : Bool :=
  r.types.contains name

def names (r : Registry) : List String :=
  r.types.keys

def size (r : Registry) : Nat :=
  r.types.size

def isEmpty (r : Registry) : Bool :=
  r.types.isEmpty

/-- The byte offset of a field of a registered type. -/
def offsetOf (r : Registry) (type field : String) : Except RegistryError UInt32 := do
  let d ← r.lookup type
  match d.offset? field with
  | some offset => return offset
  | none => throw (.fieldNotFound d.name field)

/-! ## Checking a batch -/

/-- The declarations of a batch whose names are new. Each name may be declared once, and a
registered name only where `mode` allows it. -/
def freshDecls (r : Registry) (mode : Redeclaration) :
    List String → List StructDecl → Except RegistryError (List StructDecl)
  | _, [] => .ok []
  | seen, decl :: rest => do
      if decl.name ∈ seen then throw (.duplicate decl.name)
      match r.get? decl.name with
      | none =>
          let fresh ← r.freshDecls mode (decl.name :: seen) rest
          return decl :: fresh
      | some d =>
          if mode = .allowedIfIdentical ∧ d.matchesDecl decl then
            r.freshDecls mode (decl.name :: seen) rest
          else throw (.duplicate decl.name)

/-- The descriptors of declarations given in order of dependency, on top of those built before. -/
def buildAll (r : Registry) (built : SortedMap String TypeDescriptor) :
    List StructDecl → Except RegistryError (SortedMap String TypeDescriptor)
  | [] => .ok built
  | decl :: rest => do
      let d ← buildStruct decl fun type => built.get? type <|> r.get? type
      r.buildAll (built.insert decl.name d) rest

/-- The descriptors of the new declarations of a batch. -/
def build (r : Registry) (mode : Redeclaration) (decls : List StructDecl) :
    Except RegistryError (SortedMap String TypeDescriptor) := do
  let fresh ← r.freshDecls mode [] decls
  match dependencyOrder fresh with
  | .ok order => r.buildAll .empty order
  | .error cycle => throw (.cyclic cycle.name cycle.path)

/-! ## Adding a batch -/

/-- The descriptor of a name among those that were built beside the registry, or else in it. -/
def lookupBeside (r : Registry) (built : SortedMap String TypeDescriptor) (name : String) :
    Except RegistryError TypeDescriptor :=
  match built.get? name with
  | some d => .ok d
  | none => r.lookup name

/-- Adds a batch. The answer has the descriptor of every declaration, in the order of the batch. It
is put together before anything is added. -/
def addBatch (r : Registry) (mode : Redeclaration) (decls : List StructDecl) :
    Except RegistryError (List TypeDescriptor × Registry) := do
  let built ← r.build mode decls
  let descriptors ← decls.mapM fun decl => r.lookupBeside built decl.name
  return (descriptors, ⟨r.types.insertAll built⟩)

/-- Adds a batch of new structs. -/
def register (r : Registry) (decls : List StructDecl) :
    Except RegistryError (List TypeDescriptor × Registry) :=
  r.addBatch .refused decls

/-- Adds a batch in which a struct may be declared again as it is. -/
def declare (r : Registry) (decls : List StructDecl) :
    Except RegistryError (List TypeDescriptor × Registry) :=
  r.addBatch .allowedIfIdentical decls

end Registry

/-! ## Staging -/

/-- A batch checked against a registry but not added to it: its declarations, and the descriptors of
those whose names are new. -/
structure Staged where
  decls : List StructDecl
  built : SortedMap String TypeDescriptor

namespace Staged

def empty : Staged := ⟨[], .empty⟩

/-- The descriptor of a name in the batch, or else in the registry. -/
def lookup (s : Staged) (r : Registry) (name : String) : Except RegistryError TypeDescriptor :=
  r.lookupBeside s.built name

/-- The new names of the batch, in order. -/
def fresh (s : Staged) : List String :=
  s.built.keys

end Staged

namespace Registry

/-- Checks a batch as `declare` does. -/
def stage (r : Registry) (decls : List StructDecl) : Except RegistryError Staged := do
  let built ← r.build .allowedIfIdentical decls
  return ⟨decls, built⟩

/-- Adds a staged batch, checking it against the registry as it is now. -/
def commit (r : Registry) (s : Staged) : Except RegistryError (List TypeDescriptor × Registry) :=
  r.declare s.decls

end Registry

end GuestBridge
