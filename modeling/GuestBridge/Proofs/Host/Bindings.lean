import GuestBridge.Host.Bindings
import GuestBridge.Proofs.SortedMap

/-!
# Histories of bindings

The bindings of a host are made by putting in one `Binding` after another, plain and qualified ones
in any order (`HostBindings.ofHistory`).  The plain ones alone tell what a plain name is bound to,
and the qualified ones alone what an import is bound to in its module (`plain_ofHistory`,
`qualified_ofHistory`), and of each name only the last binding counts (`lastPlain`,
`lastQualified`).  What answers an import follows from these two (`resolve_ofHistory`).
-/

namespace GuestBridge

/-- A binding to be put in. -/
inductive Binding where
  | plain (name : String) (f : HostFunction)
  | qualified (name : ImportName) (f : HostFunction)

namespace Binding

/-- The name and the function of a plain binding. -/
def plain? : Binding → Option (String × HostFunction)
  | plain name f => some (name, f)
  | qualified _ _ => none

/-- The names and the function of a qualified binding. -/
def qualified? : Binding → Option (ImportName × HostFunction)
  | plain _ _ => none
  | qualified name f => some (name, f)

end Binding

/-- The function that the last plain binding of a name has. -/
def lastPlain (name : String) (history : List Binding) : Option HostFunction :=
  findEntry name (history.filterMap Binding.plain?).reverse

/-- The function that the last qualified binding of an import has. -/
def lastQualified (name : ImportName) (history : List Binding) : Option HostFunction :=
  findEntry name (history.filterMap Binding.qualified?).reverse

/-- The plain names that are bound, as often as they are. -/
def boundNames (history : List Binding) : List String :=
  (history.filterMap Binding.plain?).map Prod.fst

/-- The imports that are bound in their modules, as often as they are. -/
def boundImports (history : List Binding) : List ImportName :=
  (history.filterMap Binding.qualified?).map Prod.fst

/-- The function that a binding takes the place of when it is put in after others. -/
def Binding.replaced (history : List Binding) : Binding → Option HostFunction
  | plain name _ => lastPlain name history
  | qualified name _ => lastQualified name history

namespace HostBindings

/-- Puts in a binding. The answer has the function that was bound before. -/
def bind (b : HostBindings) : Binding → Option HostFunction × HostBindings
  | .plain name f => b.insert name f
  | .qualified name f => b.insertIn name f

/-- The bindings that are made one after another. -/
def ofHistory (history : List Binding) : HostBindings :=
  history.foldl (fun b i => (b.bind i).2) empty

variable (history : List Binding)

theorem ofHistory_append_singleton (i : Binding) :
    ofHistory (history ++ [i]) = ((ofHistory history).bind i).2 := by
  rw [ofHistory, List.foldl_append]
  rfl

/-! ## The two maps -/

theorem plain_ofHistory :
    (ofHistory history).plain = .ofList (history.filterMap Binding.plain?) := by
  induction history using List.reverseRecOn with
  | nil => rfl
  | append_singleton history i ih =>
      rw [ofHistory_append_singleton, List.filterMap_append]
      cases i with
      | plain name f =>
          have hentry : [Binding.plain name f].filterMap Binding.plain? = [(name, f)] := rfl
          rw [hentry, SortedMap.ofList_append_singleton, ← ih, bind, insert]
      | qualified name f =>
          have hentry : [Binding.qualified name f].filterMap Binding.plain? = [] := rfl
          rw [hentry, List.append_nil, ← ih, bind, insertIn]

theorem qualified_ofHistory :
    (ofHistory history).qualified = .ofList (history.filterMap Binding.qualified?) := by
  induction history using List.reverseRecOn with
  | nil => rfl
  | append_singleton history i ih =>
      rw [ofHistory_append_singleton, List.filterMap_append]
      cases i with
      | plain name f =>
          have hentry : [Binding.plain name f].filterMap Binding.qualified? = [] := rfl
          rw [hentry, List.append_nil, ← ih, bind, insert]
      | qualified name f =>
          have hentry : [Binding.qualified name f].filterMap Binding.qualified? = [(name, f)] := rfl
          rw [hentry, SortedMap.ofList_append_singleton, ← ih, bind, insertIn]

theorem get?_ofHistory (name : String) :
    (ofHistory history).get? name = lastPlain name history := by
  rw [HostBindings.get?, plain_ofHistory, SortedMap.get?_ofList, lastPlain]

theorem getIn?_ofHistory (name : ImportName) :
    (ofHistory history).getIn? name = lastQualified name history := by
  rw [getIn?, qualified_ofHistory, SortedMap.get?_ofList, lastQualified]

/-! ## Resolution -/

theorem bind_ofHistory (i : Binding) :
    (ofHistory history).bind i = (i.replaced history, ofHistory (history ++ [i])) := by
  rw [ofHistory_append_singleton]
  cases i with
  | plain name f => rw [Binding.replaced, ← get?_ofHistory, bind, insert]
  | qualified name f => rw [Binding.replaced, ← getIn?_ofHistory, bind, insertIn]

theorem size_ofHistory : (ofHistory history).size =
    (boundNames history).toFinset.card + (boundImports history).toFinset.card := by
  rw [HostBindings.size, plain_ofHistory, qualified_ofHistory, SortedMap.size_ofList,
    SortedMap.size_ofList, boundNames, boundImports]

/-- An import is answered by the last binding of its names in its module.  If there is none, the
last plain binding of its name answers it, in the module of plain bindings and in no other.  Putting
in a binding answers with the function that was bound last under the same name or names, and there
is one binding for each plain name and one for each import that was bound in its module. -/
theorem resolve_ofHistory :
    (∀ name hostModule, (ofHistory history).resolve name hostModule =
      (lastQualified name history).or
        (if name.module = hostModule then lastPlain name.name history else none)) ∧
    (∀ i, (ofHistory history).bind i = (i.replaced history, ofHistory (history ++ [i]))) ∧
    (ofHistory history).size =
      (boundNames history).toFinset.card + (boundImports history).toFinset.card := by
  refine ⟨fun name hostModule => ?_, bind_ofHistory history, size_ofHistory history⟩
  rw [resolve, getIn?_ofHistory, get?_ofHistory]
  cases lastQualified name history <;> rfl

end HostBindings

end GuestBridge
