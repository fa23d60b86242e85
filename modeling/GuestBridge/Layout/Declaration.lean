import GuestBridge.Layout.Descriptor

/-!
# Struct declarations

A `StructDecl` asks for a struct: its fields name their types. `TypeDescriptor.matchesDecl` compares
it with the descriptor that its name leads to: a struct with the same size and fields.
`dependencyOrder` puts a batch of declarations into an order in which each comes after those its
fields name, or finds a `Cycle`: a path of declarations each of which names the next, and which ends
where it began.
-/

namespace GuestBridge

/-- A declared field, of a type given by name. -/
abbrev FieldDecl := Field String

/-- A declared struct. -/
structure StructDecl where
  name : String
  size : UInt32
  fields : List FieldDecl
  deriving DecidableEq, Repr

/-- The declaration of a described field. -/
def FieldDecl.ofDescriptor (f : FieldDescriptor) : FieldDecl :=
  ⟨f.name, f.offset, f.type.name⟩

/-- The descriptor is a struct of exactly the declared size and fields. -/
def TypeDescriptor.matchesDecl (d : TypeDescriptor) (decl : StructDecl) : Bool :=
  d.isStruct && d.size == decl.size && d.fields.map FieldDecl.ofDescriptor == decl.fields

/-! ## Order of dependency -/

/-- A path of declarations, each with a field of the type of the next, that returns to its start. -/
structure Cycle where
  name : String
  path : List String
  deriving DecidableEq, Repr

/-- The declaration of a name. -/
def findDecl (decls : List StructDecl) (name : String) : Option StructDecl :=
  decls.find? fun d => d.name = name

/-- The declarations of other names. -/
def withoutDecl (decls : List StructDecl) (name : String) : List StructDecl :=
  decls.filter fun d => d.name ≠ name

theorem length_withoutDecl_lt {decls : List StructDecl} {name : String} {d : StructDecl}
    (h : findDecl decls name = some d) : (withoutDecl decls name).length < decls.length := by
  have hd : d.name = name := by simpa using List.find?_some h
  have hmem : d ∈ decls := List.mem_of_find?_eq_some h
  refine Nat.lt_of_le_of_ne (List.length_filter_le _ _) fun he => ?_
  have := (List.length_filter_eq_length_iff.1 he) d hmem
  simp [hd] at this

mutual

/-- Adds to `order` the declaration of `name` after everything its fields need. Those on the path
from the first declaration to this one are not among `remaining`; meeting one of them closes a
cycle. -/
def visitDecl (remaining : List StructDecl) (path : List String) (order : List StructDecl)
    (name : String) : Except Cycle (List StructDecl) :=
  if order.any fun d => d.name = name then .ok order
  else if name ∈ path then .error ⟨name, path.dropWhile (· ≠ name) ++ [name]⟩
  else
    match _h : findDecl remaining name with
    | none => .ok order
    | some decl =>
        match visitFields (withoutDecl remaining name) (path ++ [name]) order decl.fields with
        | .ok order => .ok (order ++ [decl])
        | .error cycle => .error cycle
termination_by (remaining.length, 0)
decreasing_by exact Prod.Lex.left _ _ (length_withoutDecl_lt (by assumption))

/-- Adds to `order` the declarations that the fields need. -/
def visitFields (remaining : List StructDecl) (path : List String) (order : List StructDecl) :
    List FieldDecl → Except Cycle (List StructDecl)
  | [] => .ok order
  | f :: rest =>
      match visitDecl remaining path order f.type with
      | .ok order => visitFields remaining path order rest
      | .error cycle => .error cycle
termination_by fields => (remaining.length, fields.length + 1)
decreasing_by
  · exact Prod.Lex.right _ (Nat.succ_pos _)
  · exact Prod.Lex.right _ (Nat.lt_succ_self _)

end

/-- The declarations of a batch of distinct names, each after those its fields name. -/
def dependencyOrder (decls : List StructDecl) : Except Cycle (List StructDecl) :=
  decls.foldlM (fun order d => visitDecl decls [] order d.name) []

end GuestBridge
