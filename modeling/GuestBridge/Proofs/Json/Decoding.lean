import GuestBridge.Proofs.Json.Writing

/-!
# Documents that hold data

`Json.Holds d levels j a` says that the document `j` holds `a` for the decoder `d`: it is sound
wherever it may nest `levels` deep, and it is read as `a` there.  What holds the parts of a
structure is put together with the lemmas here, and a document that holds something is read back
from its text (`Holds.decode?_write`).

Of the members of an object only those that are fields count (`record_ofMembers`).
-/

namespace GuestBridge

namespace Json

variable {α β : Type}

/-- The document holds the data, and nests no deeper than so many levels. -/
structure Holds (d : Decoder α) (levels : Nat) (j : Json) (a : α) : Prop where
  sound : ∀ depth, levels ≤ depth → j.isSound depth = true
  decoded : ∀ depth, levels ≤ depth → d depth j = some a

theorem Holds.mono {d : Decoder α} {levels levels' : Nat} {j : Json} {a : α}
    (h : Holds d levels j a) (hle : levels ≤ levels') : Holds d levels' j a :=
  ⟨fun depth hdepth => h.sound depth (hle.trans hdepth),
    fun depth hdepth => h.decoded depth (hle.trans hdepth)⟩

/-- What a document holds is read back from its text. -/
theorem Holds.decode?_write {d : Decoder α} {levels : Nat} {j : Json} {a : α}
    (h : Holds d levels j a) (hlevels : levels ≤ maxDepth) :
    decode? d (Text.encode j.write) = some a := by
  rw [decode?, read?_write (h.sound maxDepth hlevels), Option.bind_some]
  exact h.decoded maxDepth hlevels

/-! ## Single values -/

theorem holds_text (s : String) : Holds Decode.text 0 (.text s) s :=
  ⟨fun depth _ => by simp [text, isSound], fun _ _ => rfl⟩

theorem integer?_ofNat {n : Nat} (h : n < UInt64.size) : (Numeral.ofNat n).integer? = some n := by
  simp [Numeral.integer?, Numeral.ofNat, h]

theorem integer?_ofInt {i : Int} (hlow : -0x8000000000000000 ≤ i) (hhigh : i < UInt64.size) :
    (Numeral.ofInt i).integer? = some i := by
  by_cases hi : i < 0
  · have hrange : ¬ (i.natAbs = 0 ∨ 0x8000000000000000 < i.natAbs) := by omega
    have hneg : -(i.natAbs : Int) = i := by omega
    simp only [Numeral.integer?, Numeral.ofInt, hi, hrange, hneg, decide_true, if_true, if_false,
      ne_eq, not_true, or_self]
  · have hrange : i.natAbs < UInt64.size := by omega
    have habs : (i.natAbs : Int) = i := by omega
    simp [Numeral.integer?, Numeral.ofInt, hi, hrange, habs]

/-- An integer within the bounds of a decoder and of 64 bits. -/
theorem holds_integer {low high i : Int} {n : Numeral} (hn : n.integer? = some i) (hlow : low ≤ i)
    (hhigh : i ≤ high) : Holds (Decode.integer low high) 0 (.number n) i :=
  ⟨fun depth _ => by simp [isSound, hn], fun depth _ => by simp [Decode.integer, hn, hlow, hhigh]⟩

theorem Holds.map {d : Decoder α} {levels : Nat} {j : Json} {a : α} (h : Holds d levels j a)
    (f : α → β) : Holds (fun depth j => (d depth j).map f) levels j (f a) :=
  ⟨h.sound, fun depth hdepth => by rw [h.decoded depth hdepth, Option.map_some]⟩

theorem holds_uint32 (n : UInt32) : Holds Decode.uint32 0 (.number (.ofNat n.toNat)) n := by
  have hlt := n.toNat_lt
  have hsize : UInt64.size = 0x10000000000000000 := rfl
  have hinteger : Holds (Decode.integer 0 0xFFFFFFFF) 0 (.number (.ofNat n.toNat)) n.toNat :=
    holds_integer (integer?_ofNat (by omega)) (by omega) (by omega)
  have h := hinteger.map fun i => UInt32.ofNat i.toNat
  rwa [Int.toNat_natCast, UInt32.ofNat_toNat] at h

theorem holds_uint64 (n : UInt64) : Holds Decode.uint64 0 (.number (.ofNat n.toNat)) n := by
  have hlt := n.toNat_lt
  have hinteger :
      Holds (Decode.integer 0 0xFFFFFFFFFFFFFFFF) 0 (.number (.ofNat n.toNat)) n.toNat :=
    holds_integer (integer?_ofNat hlt) (by omega) (by omega)
  have h := hinteger.map fun i => UInt64.ofNat i.toNat
  rwa [Int.toNat_natCast, UInt64.ofNat_toNat] at h

theorem holds_int32 (n : Int32) : Holds Decode.int32 0 (.number (.ofInt n.toInt)) n := by
  have hlow := n.minValue_le_toInt
  have hhigh := n.toInt_le
  have hmin : Int32.minValue.toInt = -0x80000000 := rfl
  have hmax : Int32.maxValue.toInt = 0x7FFFFFFF := rfl
  have hsize : UInt64.size = 0x10000000000000000 := rfl
  have h := (holds_integer (integer?_ofInt (i := n.toInt) (by omega) (by omega)) hlow hhigh).map
    Int32.ofInt
  rwa [Int32.ofInt_toInt] at h

theorem holds_int64 (n : Int64) : Holds Decode.int64 0 (.number (.ofInt n.toInt)) n := by
  have hlow := n.minValue_le_toInt
  have hhigh := n.toInt_le
  have hmin : Int64.minValue.toInt = -0x8000000000000000 := rfl
  have hmax : Int64.maxValue.toInt = 0x7FFFFFFFFFFFFFFF := rfl
  have hsize : UInt64.size = 0x10000000000000000 := rfl
  have h := (holds_integer (integer?_ofInt (i := n.toInt) (by omega) (by omega)) hlow hhigh).map
    Int64.ofInt
  rwa [Int64.ofInt_toInt] at h

/-! ## Arrays and maps -/

theorem areSound_eq_true_iff {depth : Nat} {items : List Json} :
    areSound depth items = true ↔ ∀ j ∈ items, j.isSound depth = true := by
  induction items with
  | nil => simp [areSound]
  | cons j items ih => simp [areSound, ih]

theorem areSoundMembers_eq_true_iff {depth : Nat} {members : List (String × Json)} :
    areSoundMembers depth (members.map fun m => (some m.1, m.2)) = true ↔
      ∀ m ∈ members, m.2.isSound depth = true := by
  induction members with
  | nil => simp [areSoundMembers]
  | cons m members ih => simp [areSoundMembers, ih]

/-- A document that takes a level of its own. -/
theorem Holds.of_succ {d : Decoder α} {levels : Nat} {j : Json} {a : α}
    (sound : ∀ depth, levels ≤ depth → j.isSound (depth + 1) = true)
    (decoded : ∀ depth, levels ≤ depth → d (depth + 1) j = some a) :
    Holds d (levels + 1) j a where
  sound
    | 0, h => absurd h (Nat.not_succ_le_zero levels)
    | depth + 1, h => sound depth (Nat.le_of_succ_le_succ h)
  decoded
    | 0, h => absurd h (Nat.not_succ_le_zero levels)
    | depth + 1, h => decoded depth (Nat.le_of_succ_le_succ h)

theorem mapM_map_eq_some {f : α → Option β} {g : β → α} {l : List β}
    (h : ∀ b ∈ l, f (g b) = some b) : (l.map g).mapM f = some l := by
  induction l with
  | nil => rfl
  | cons b l ih =>
      rw [List.forall_mem_cons] at h
      rw [List.map_cons, List.mapM_cons, h.1, ih h.2]
      rfl

theorem holds_list {d : Decoder α} {levels : Nat} {toJson : α → Json} {l : List α}
    (h : ∀ a ∈ l, Holds d levels (toJson a) a) :
    Holds (Decode.list d) (levels + 1) (.array (l.map toJson)) l := by
  refine .of_succ (fun depth hdepth => areSound_eq_true_iff.2 fun j hj => ?_) fun depth hdepth =>
    mapM_map_eq_some fun a ha => (h a ha).decoded depth hdepth
  obtain ⟨a, ha, rfl⟩ := List.mem_map.1 hj
  exact (h a ha).sound depth hdepth

theorem holds_pair {d₁ : Decoder α} {d₂ : Decoder β} {levels : Nat} {j₁ j₂ : Json} {a : α} {b : β}
    (h₁ : Holds d₁ levels j₁ a) (h₂ : Holds d₂ levels j₂ b) :
    Holds (Decode.pair d₁ d₂) (levels + 1) (.array [j₁, j₂]) (a, b) :=
  .of_succ (fun depth hdepth => by
      simp [isSound, areSound, h₁.sound depth hdepth, h₂.sound depth hdepth])
    fun depth hdepth => by
      simp [Decode.pair, h₁.decoded depth hdepth, h₂.decoded depth hdepth]

theorem holds_members {d : Decoder α} {levels : Nat} {toJson : α → Json} {l : List (String × α)}
    (h : ∀ m ∈ l, Holds d levels (toJson m.2) m.2) :
    Holds (Decode.members d) (levels + 1) (.ofMembers (l.map fun m => (m.1, toJson m.2))) l := by
  refine .of_succ (fun depth hdepth => areSoundMembers_eq_true_iff.2 fun m hm => ?_)
    fun depth hdepth => ?_
  · obtain ⟨a, ha, rfl⟩ := List.mem_map.1 hm
    exact (h a ha).sound depth hdepth
  · rw [ofMembers, List.map_map]
    exact mapM_map_eq_some fun m hm => by simp [(h m hm).decoded depth hdepth]

/-! ## Structures -/

theorem fieldMembers_map {names : List String} {members : List (String × Json)}
    (h : ((members.filter fun m => m.1 ∈ names).map Prod.fst).Nodup) :
    fieldMembers names (members.map fun m => (some m.1, m.2)) =
      some (members.filter fun m => m.1 ∈ names) := by
  induction members with
  | nil => rfl
  | cons m members ih =>
      by_cases hm : m.1 ∈ names
      · rw [List.filter_cons_of_pos (by simpa using hm), List.map_cons, List.nodup_cons] at h
        have hnew : ((members.filter fun m => m.1 ∈ names).any fun f => f.1 = m.1) = false := by
          rw [List.any_eq_false]
          intro f hf he
          exact h.1 (List.mem_map.2 ⟨f, hf, by simpa using he⟩)
        rw [List.filter_cons_of_pos (by simpa using hm), List.map_cons, fieldMembers, ih h.2]
        simp [hm, hnew]
      · rw [List.filter_cons_of_neg (by simpa using hm)] at h ⊢
        rw [List.map_cons, fieldMembers, ih h]
        simp [hm]

/-- A structure written as an object has the members that are fields, wherever they stand and
whatever stands between them. -/
theorem record_ofMembers {names : List String} {members : List (String × Json)}
    (h : ((members.filter fun m => m.1 ∈ names).map Prod.fst).Nodup) (depth : Nat) :
    record names (depth + 1) (ofMembers members) =
      some ⟨depth, false, members.filter fun m => m.1 ∈ names⟩ := by
  rw [ofMembers, record, fieldMembers_map h, Option.map_some]

/-- A structure written as the object of its fields holds what is built from them. -/
theorem holds_record {names : List String} {fields : List (String × Json)}
    {build : Record → Option α} {levels : Nat} {a : α} (hnames : fields.map Prod.fst = names)
    (hnodup : names.Nodup)
    (hsound : ∀ f ∈ fields, ∀ depth, levels ≤ depth → f.2.isSound depth = true)
    (hbuild : ∀ depth, levels ≤ depth → build ⟨depth, false, fields⟩ = some a) :
    Holds (fun depth j => record names depth j >>= build) (levels + 1) (ofMembers fields) a := by
  have hfilter : (fields.filter fun m => m.1 ∈ names) = fields :=
    List.filter_eq_self.2 fun m hm => by
      rw [← hnames]
      simpa using ⟨m.2, hm⟩
  refine .of_succ (fun depth hdepth => areSoundMembers_eq_true_iff.2 fun f hf =>
    hsound f hf depth hdepth) fun depth hdepth => ?_
  rw [record_ofMembers (by rwa [hfilter, hnames]), hfilter]
  exact hbuild depth hdepth

namespace Record

theorem get?_of_mem {r : Record} {name : String} {j : Json} (hnodup : (r.found.map Prod.fst).Nodup)
    (hmem : (name, j) ∈ r.found) : r.get? name = some j := by
  obtain ⟨depth, positional, found⟩ := r
  dsimp only at hnodup hmem
  rw [get?]
  dsimp only
  induction found with
  | nil => cases hmem
  | cons f found ih =>
      rw [List.map_cons, List.nodup_cons] at hnodup
      rw [List.find?_cons]
      split
      · next hname =>
        have hkey : name = f.1 := Eq.symm (by simpa using hname)
        rcases List.mem_cons.1 hmem with rfl | hmem
        · rfl
        · exact absurd (List.mem_map.2 ⟨_, hmem, hkey⟩) hnodup.1
      · next hname =>
        rcases List.mem_cons.1 hmem with rfl | hmem
        · simp at hname
        · exact ih hnodup.2 hmem

theorem get?_eq_none {r : Record} {name : String} (h : ∀ f ∈ r.found, f.1 ≠ name) :
    r.get? name = none := by
  rw [get?, Option.map_eq_none_iff, List.find?_eq_none]
  exact fun f hf => by simpa using h f hf

theorem defaulted_of_get? {r : Record} {name : String} {d : Decoder α} {default : α} {j : Json}
    {a : α} (hget : r.get? name = some j) (h : d r.depth j = some a) :
    r.defaulted name default d = some a := by
  rw [defaulted, hget]
  exact h

theorem defaulted_of_missing {r : Record} {name : String} {d : Decoder α} {default : α}
    (hget : r.get? name = none) : r.defaulted name default d = some default := by
  rw [defaulted, hget]

end Record

end Json

end GuestBridge
