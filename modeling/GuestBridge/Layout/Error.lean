/-!
# Why a type is refused

The causes for which a registry refuses a declaration or a look-up, with their wording.
-/

namespace GuestBridge

/-- What is wrong with the layout of a struct. -/
inductive LayoutFault where
  | duplicateField (field : String)
  | emptyField (field type : String)
  | overlap (field : String) (offset : Nat) (previous : String) (previousEnd : Nat)
  | outside (field : String) (offset size : Nat)
  | tooSmall (size : Nat) (field : String) (offset bytes : Nat)
  | noParameter
  deriving DecidableEq, Repr

def LayoutFault.message : LayoutFault → String
  | duplicateField field => s!"duplicate field `{field}`"
  | emptyField field type => s!"field `{field}` has zero-sized type `{type}`"
  | overlap field offset previous previousEnd =>
      s!"field `{field}` at offset {offset} overlaps `{previous}` ending at {previousEnd}"
  | outside field offset size => s!"field `{field}` offset {offset} is outside size {size}"
  | tooSmall size field offset bytes =>
      s!"size {size} is too small for field `{field}` at offset {offset} ({bytes} bytes)"
  | noParameter => "has no value and cannot be a parameter"

/-- Why a registry refuses. -/
inductive RegistryError where
  | duplicate (name : String)
  | invalidLayout (name : String) (fault : LayoutFault)
  | cyclic (name : String) (path : List String)
  | notFound (name : String)
  | fieldNotFound (type field : String)
  deriving DecidableEq, Repr

def RegistryError.message : RegistryError → String
  | duplicate name => s!"type `{name}` is already registered"
  | invalidLayout name fault =>
      let reason := fault.message
      s!"invalid layout for struct `{name}`: {reason}"
  | cyclic name path =>
      let way := " -> ".intercalate path
      s!"struct `{name}` references itself: {way}"
  | notFound name => s!"unknown type `{name}`"
  | fieldNotFound type field => s!"type `{type}` has no field `{field}`"

end GuestBridge
