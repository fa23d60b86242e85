/-!
# Maps in key order

A `SortedMap` keeps its entries in increasing order of their keys, one entry a key, so that two maps
with the same content are equal (`SortedMap.ext_get?`) and its listing is its order. The effect of
an insertion is told by `get?_insert`.
-/

namespace GuestBridge

/-- The order of the keys is strict and total. -/
class StrictOrder (κ : Type) [LT κ] : Prop where
  irrefl : ∀ a : κ, ¬ a < a
  trans : ∀ {a b c : κ}, a < b → b < c → a < c
  eq_of_not_lt : ∀ {a b : κ}, ¬ a < b → ¬ b < a → a = b

instance : StrictOrder String where
  irrefl := String.lt_irrefl
  trans := String.lt_trans
  eq_of_not_lt hab hba := String.le_antisymm (String.not_lt.1 hba) (String.not_lt.1 hab)

/-! ## Lists of entries -/

section Lookup

variable {κ α : Type} [DecidableEq κ]

/-- The value under `key` in a list of entries. -/
def findEntry (key : κ) : List (κ × α) → Option α
  | [] => none
  | (k, a) :: rest => if k = key then some a else findEntry key rest

theorem mem_of_findEntry {key : κ} {a : α} {l : List (κ × α)} (h : findEntry key l = some a) :
    (key, a) ∈ l := by
  induction l with
  | nil => simp [findEntry] at h
  | cons x rest ih =>
      obtain ⟨k, b⟩ := x
      by_cases hk : k = key
      · simp only [findEntry, hk, if_true, Option.some.injEq] at h
        simp [hk, h]
      · simp only [findEntry, hk, if_false] at h
        exact List.mem_cons_of_mem _ (ih h)

theorem findEntry_eq_none_iff {key : κ} {l : List (κ × α)} :
    findEntry key l = none ↔ ∀ x ∈ l, x.1 ≠ key := by
  induction l with
  | nil => simp [findEntry]
  | cons x rest ih =>
      obtain ⟨k, b⟩ := x
      by_cases hk : k = key <;> simp [findEntry, hk, ih]

end Lookup

/-! ## The maps -/

/-- A finite map whose entries stand in increasing order of their keys. -/
structure SortedMap (κ : Type) [LT κ] (α : Type) where
  entries : List (κ × α)
  sorted : entries.Pairwise fun x y => x.1 < y.1

namespace SortedMap

variable {κ α : Type} [LT κ]

def empty : SortedMap κ α :=
  ⟨[], List.Pairwise.nil⟩

instance : EmptyCollection (SortedMap κ α) := ⟨empty⟩

instance : Inhabited (SortedMap κ α) := ⟨empty⟩

def keys (m : SortedMap κ α) : List κ :=
  m.entries.map Prod.fst

def size (m : SortedMap κ α) : Nat :=
  m.entries.length

def isEmpty (m : SortedMap κ α) : Bool :=
  m.entries.isEmpty

section Lookup

variable [DecidableEq κ]

/-- The value under `key`. -/
def get? (m : SortedMap κ α) (key : κ) : Option α :=
  findEntry key m.entries

def contains (m : SortedMap κ α) (key : κ) : Bool :=
  (m.get? key).isSome

@[simp]
theorem get?_empty (key : κ) : (empty : SortedMap κ α).get? key = none := rfl

end Lookup

section Insert

variable [DecidableEq κ] [DecidableLT κ]

/-- The entries with `a` put under `key` at its place. -/
def insertEntry (key : κ) (a : α) : List (κ × α) → List (κ × α)
  | [] => [(key, a)]
  | (k, b) :: rest =>
      if key < k then (key, a) :: (k, b) :: rest
      else if k = key then (key, a) :: rest
      else (k, b) :: insertEntry key a rest

theorem mem_insertEntry {key : κ} {a : α} {l : List (κ × α)} {x : κ × α}
    (h : x ∈ insertEntry key a l) : x = (key, a) ∨ x ∈ l := by
  induction l with
  | nil => simpa [insertEntry] using h
  | cons y rest ih =>
      obtain ⟨k, b⟩ := y
      unfold insertEntry at h
      split at h
      · simpa using h
      · split at h
        · rcases List.mem_cons.1 h with h | h
          · exact .inl h
          · exact .inr (List.mem_cons_of_mem _ h)
        · rcases List.mem_cons.1 h with h | h
          · exact .inr (by simp [h])
          · rcases ih h with h | h
            · exact .inl h
            · exact .inr (List.mem_cons_of_mem _ h)

theorem sorted_insertEntry [StrictOrder κ] (key : κ) (a : α) {l : List (κ × α)}
    (h : l.Pairwise fun x y => x.1 < y.1) :
    (insertEntry key a l).Pairwise fun x y => x.1 < y.1 := by
  induction l with
  | nil => simp [insertEntry]
  | cons y rest ih =>
      obtain ⟨k, b⟩ := y
      rw [List.pairwise_cons] at h
      unfold insertEntry
      split
      · rename_i hlt
        refine List.pairwise_cons.2 ⟨fun x hx => ?_, List.pairwise_cons.2 h⟩
        rcases List.mem_cons.1 hx with rfl | hx
        · exact hlt
        · exact StrictOrder.trans hlt (h.1 x hx)
      · split
        · rename_i hk
          exact List.pairwise_cons.2 ⟨fun x hx => hk ▸ h.1 x hx, h.2⟩
        · rename_i hlt hne
          refine List.pairwise_cons.2 ⟨fun x hx => ?_, ih h.2⟩
          rcases mem_insertEntry hx with rfl | hx
          · exact Decidable.by_contra fun hn => hne (StrictOrder.eq_of_not_lt hn hlt)
          · exact h.1 x hx

/-- The map with `a` under `key`, whatever was there before. -/
def insert [StrictOrder κ] (m : SortedMap κ α) (key : κ) (a : α) : SortedMap κ α :=
  ⟨insertEntry key a m.entries, sorted_insertEntry key a m.sorted⟩

/-- The map of a list of entries; of two with one key the later counts. -/
def ofList [StrictOrder κ] (l : List (κ × α)) : SortedMap κ α :=
  l.foldl (fun m x => m.insert x.1 x.2) empty

/-- The map with every entry of `other` put in. -/
def insertAll [StrictOrder κ] (m other : SortedMap κ α) : SortedMap κ α :=
  other.entries.foldl (fun m x => m.insert x.1 x.2) m

/-- An insertion is seen under its own key and nowhere else. -/
theorem get?_insert [StrictOrder κ] (m : SortedMap κ α) (key other : κ) (a : α) :
    (m.insert key a).get? other = if key = other then some a else m.get? other := by
  obtain ⟨l, hl⟩ := m
  simp only [get?, insert]
  induction l with
  | nil => simp [insertEntry, findEntry]
  | cons y rest ih =>
      obtain ⟨k, b⟩ := y
      rw [List.pairwise_cons] at hl
      unfold insertEntry
      split
      · simp [findEntry]
      · split
        · rename_i hk
          by_cases ho : key = other <;> simp [findEntry, hk, ho]
        · rename_i hne
          by_cases hk : k = other
          · have : key ≠ other := fun h => hne (hk.trans h.symm)
            simp [findEntry, hk, this]
          · simp [findEntry, hk, ih hl.2]

end Insert

/-! ## Equality -/

omit [LT κ] in
theorem findEntry_isSome_iff [DecidableEq κ] {key : κ} {l : List (κ × α)} :
    (findEntry key l).isSome ↔ ∃ x ∈ l, x.1 = key := by
  induction l with
  | nil => simp [findEntry]
  | cons x rest ih =>
      obtain ⟨k, b⟩ := x
      by_cases hk : k = key <;> simp [findEntry, hk, ih]

/-- Sorted entries with the same look-ups are the same entries. -/
theorem entries_ext [DecidableEq κ] [StrictOrder κ] {l₁ l₂ : List (κ × α)}
    (h₁ : l₁.Pairwise fun x y => x.1 < y.1) (h₂ : l₂.Pairwise fun x y => x.1 < y.1)
    (h : ∀ key, findEntry key l₁ = findEntry key l₂) : l₁ = l₂ := by
  induction l₁ generalizing l₂ with
  | nil =>
      cases l₂ with
      | nil => rfl
      | cons y r₂ => simpa [findEntry] using h y.1
  | cons x r₁ ih =>
      cases l₂ with
      | nil => simpa [findEntry] using h x.1
      | cons y r₂ =>
          obtain ⟨k₁, a₁⟩ := x
          obtain ⟨k₂, a₂⟩ := y
          rw [List.pairwise_cons] at h₁ h₂
          have not_lt : ∀ {k : κ} {a : α} {r : List (κ × α)}, (∀ z ∈ r, k < z.1) →
              ∀ {k'}, (findEntry k' ((k, a) :: r)).isSome → ¬ k' < k := by
            intro k a r hr k' hs hlt
            obtain ⟨z, hz, rfl⟩ := findEntry_isSome_iff.1 hs
            rcases List.mem_cons.1 hz with rfl | hz
            · exact StrictOrder.irrefl _ hlt
            · exact StrictOrder.irrefl _ (StrictOrder.trans hlt (hr z hz))
          have hk : k₁ = k₂ := by
            refine StrictOrder.eq_of_not_lt (not_lt h₂.1 (a := a₂) ?_) (not_lt h₁.1 (a := a₁) ?_)
            · rw [← h k₁]; simp [findEntry]
            · rw [h k₂]; simp [findEntry]
          subst hk
          have ha : a₁ = a₂ := by simpa [findEntry] using h k₁
          subst ha
          refine congrArg _ (ih h₁.2 h₂.2 fun key => ?_)
          by_cases hkey : k₁ = key
          · subst hkey
            rw [findEntry_eq_none_iff.2 fun z hz he => StrictOrder.irrefl _ (he ▸ h₁.1 z hz),
              findEntry_eq_none_iff.2 fun z hz he => StrictOrder.irrefl _ (he ▸ h₂.1 z hz)]
          · simpa [findEntry, hkey] using h key

/-- Maps with the same look-ups are equal. -/
theorem ext_get? [DecidableEq κ] [StrictOrder κ] {m₁ m₂ : SortedMap κ α}
    (h : ∀ key, m₁.get? key = m₂.get? key) : m₁ = m₂ := by
  obtain ⟨l₁, h₁⟩ := m₁
  obtain ⟨l₂, h₂⟩ := m₂
  obtain rfl : l₁ = l₂ := entries_ext h₁ h₂ h
  rfl

end SortedMap

end GuestBridge
