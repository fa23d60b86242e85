import GuestBridge.SortedMap
import Mathlib.Data.Finset.Card
import Mathlib.Data.List.Induction

/-!
# Looking up in built maps

What `SortedMap.insertAll` and `SortedMap.ofList` hold, told by look-ups.  In the map of a list the
last entry of a key counts (`get?_ofList`), and there are as many entries as there are different
keys (`size_ofList`).
-/

namespace GuestBridge

namespace SortedMap

variable {κ α : Type} [LT κ] [DecidableEq κ] [DecidableLT κ] [StrictOrder κ]

omit [DecidableLT κ] [StrictOrder κ] in
theorem mem_keys_iff {m : SortedMap κ α} {key : κ} : key ∈ m.keys ↔ (m.get? key).isSome := by
  rw [get?, findEntry_isSome_iff, keys, List.mem_map]

/-- Of entries in key order, put in one after the other, each is seen under its key. -/
theorem get?_foldl_insert {l : List (κ × α)} (hl : l.Pairwise fun x y => x.1 < y.1)
    (m : SortedMap κ α) (key : κ) :
    (l.foldl (fun m x => m.insert x.1 x.2) m).get? key = (findEntry key l).or (m.get? key) := by
  induction l generalizing m with
  | nil => rfl
  | cons x rest ih =>
      obtain ⟨k, a⟩ := x
      rw [List.pairwise_cons] at hl
      rw [List.foldl_cons, ih hl.2, get?_insert]
      by_cases hk : k = key
      · have hnone : findEntry key rest = none :=
          findEntry_eq_none_iff.2 fun x hx he => StrictOrder.irrefl _ (hk ▸ he ▸ hl.1 x hx)
        simp [findEntry, hk, hnone]
      · simp [findEntry, hk]

/-- A map is made again of its entries. -/
theorem ofList_entries (m : SortedMap κ α) : ofList m.entries = m :=
  ext_get? fun key => by rw [ofList, get?_foldl_insert m.sorted, get?_empty, Option.or_none, get?]

/-- The entries put in count before those that were there. -/
theorem get?_insertAll (m other : SortedMap κ α) (key : κ) :
    (m.insertAll other).get? key = (other.get? key).or (m.get? key) :=
  get?_foldl_insert other.sorted m key

theorem ofList_append_singleton (l : List (κ × α)) (x : κ × α) :
    ofList (l ++ [x]) = (ofList l).insert x.1 x.2 := by
  rw [ofList, List.foldl_append]
  rfl

/-- In the map of a list the last entry of a key counts. -/
theorem get?_ofList (l : List (κ × α)) (key : κ) :
    (ofList l).get? key = findEntry key l.reverse := by
  induction l using List.reverseRecOn with
  | nil => rfl
  | append_singleton l x ih =>
      rw [ofList_append_singleton, get?_insert, ih, List.reverse_concat]
      rfl

/-- What is seen in the map of a list stands in the list. -/
theorem mem_of_get?_ofList {l : List (κ × α)} {key : κ} {a : α}
    (h : (ofList l).get? key = some a) : (key, a) ∈ l := by
  rw [get?_ofList] at h
  exact List.mem_reverse.1 (mem_of_findEntry h)

omit [DecidableEq κ] [DecidableLT κ] in
theorem nodup_keys (m : SortedMap κ α) : m.keys.Nodup := by
  refine List.pairwise_map.2 (m.sorted.imp fun hlt heq => ?_)
  exact StrictOrder.irrefl _ (heq ▸ hlt)

theorem mem_keys_ofList {l : List (κ × α)} {key : κ} :
    key ∈ (ofList l).keys ↔ key ∈ l.map Prod.fst := by
  rw [mem_keys_iff, get?_ofList, findEntry_isSome_iff, List.mem_map]
  simp only [List.mem_reverse]

/-- The map of a list has an entry for each of the different keys. -/
theorem size_ofList (l : List (κ × α)) : (ofList l).size = (l.map Prod.fst).toFinset.card := by
  have hkeys : (ofList l).keys.toFinset = (l.map Prod.fst).toFinset := by
    ext key
    rw [List.mem_toFinset, List.mem_toFinset, mem_keys_ofList]
  rw [← hkeys, List.toFinset_card_of_nodup (nodup_keys _), keys, List.length_map, size]

end SortedMap

end GuestBridge
