import GuestBridge.Proofs.Call.Texts
import GuestBridge.Proofs.Sandbox.Memory
import GuestBridge.Proofs.Text.Utf8

/-!
# The round trip of values

`GuestMemory.Faithful` says of guest memory that bytes which are placed are read at every later
point.  Over such memory the words of a value, with any words after them, are lifted to that value
again (`liftValue_lowerValue`), and so are those of a list of values (`liftValues_lowerValues`).
The memory of an arena is faithful while its addresses fit a word (`Arena.faithful_memory`).
-/

namespace GuestBridge

variable {μ : Type} {mem : GuestMemory μ}

/-- From `s₀` on, guest memory keeps what is placed in it: requests lead on by `R`, and bytes that
are placed are read from every state after that. -/
structure GuestMemory.Faithful (mem : GuestMemory μ) (R : μ → μ → Prop) (s₀ : μ) : Prop where
  leads : mem.Leads R
  read_alloc : ∀ {s s' bytes address}, R s₀ s → bytes.length < UInt32.size →
    (mem.alloc bytes).from s = (.ok address, s') →
    (mem.read address (UInt32.ofNat bytes.length)).AnswersFrom R s' bytes

section RoundTrip

variable {R : μ → μ → Prop} [IsPreorder μ R] {s₀ s s' : μ}

/-- A text that is placed is read from its address. -/
theorem readText_alloc (h : mem.Faithful R s₀) (hs : R s₀ s) {text : String} {address : UInt32}
    (hempty : ¬ (Text.encode text).isEmpty = true)
    (hshort : (Text.encode text).length < UInt32.size)
    (halloc : (mem.alloc (Text.encode text)).from s = (.ok address, s')) :
    (readText mem address (UInt32.ofNat (Text.encode text).length)).AnswersFrom R s' text := by
  have hne : UInt32.ofNat (Text.encode text).length ≠ 0 := by
    intro hzero
    have hnat := congrArg UInt32.toNat hzero
    rw [UInt32.toNat_ofNat_of_lt' hshort, UInt32.toNat_zero, List.length_eq_zero_iff] at hnat
    exact hempty (List.isEmpty_iff.2 hnat)
  rw [readText_eq, if_neg hne]
  refine (h.read_alloc hs hshort halloc).bind (h.leads.read _ _) ?_
  rw [Text.decodeLossy_encode]
  exact Fallible.answersFrom_pure _ _

/-- The words of a value are lifted to it again, and the words after them are left. -/
theorem liftValue_lowerValue (h : mem.Faithful R s₀) (hs : R s₀ s) {v : Value} {words : List Word}
    (hlower : (lowerValue mem v).from s = (.ok words, s')) (rest : List Word) :
    (liftValue mem v.kind (words ++ rest)).AnswersFrom R s' (v, rest) := by
  cases v with
  | string text =>
      have hshort := fits_of_lowerValue hlower text rfl
      rw [lowerValue_string, if_neg (Nat.not_le.2 hshort)] at hlower
      split_ifs at hlower with hempty
      · cases hlower
        obtain rfl := Text.encode_eq_nil_iff.1 (List.isEmpty_iff.1 hempty)
        exact Fallible.answersFrom_pure _ _
      · obtain ⟨address, s₁, halloc, hlower⟩ := Fallible.bind_from_ok_iff.1 hlower
        cases hlower
        have hread := readText_alloc h hs hempty hshort halloc
        exact hread.bind (readText_leads h.leads _ _) (Fallible.answersFrom_pure _ _)
  | _ =>
      cases hlower
      exact Fallible.answersFrom_pure _ _

theorem liftEach_lowerValues (h : mem.Faithful R s₀) (hs : R s₀ s) {vs : List Value}
    {words : List Word} (hlower : (lowerValues mem vs).from s = (.ok words, s')) :
    (liftEach mem (vs.map Value.kind) words).AnswersFrom R s' vs := by
  induction vs generalizing s words with
  | nil => exact Fallible.answersFrom_pure _ _
  | cons v rest ih =>
      rw [lowerValues] at hlower
      obtain ⟨ws, s₁, hv, hlower⟩ := Fallible.bind_from_ok_iff.1 hlower
      obtain ⟨more, s₂, hrest, hlower⟩ := Fallible.bind_from_ok_iff.1 hlower
      cases hlower
      have hs₁ : R s s₁ := (lowerValue_leads h.leads v).of_from hv
      have hs' : R s₁ s' := (lowerValues_leads h.leads rest).of_from hrest
      have hfirst := (liftValue_lowerValue h hs hv more).later hs'
      have hothers := ih (IsTrans.trans _ _ _ hs hs₁) hrest
      rw [List.map_cons, liftEach_cons]
      refine hfirst.bind (liftValue_leads h.leads _ _) ?_
      exact hothers.bind (liftEach_leads h.leads _ _) (Fallible.answersFrom_pure _ _)

/-- What is asked for on behalf of values that are lowered: a place for each text that is not empty,
in order.  The words are made of the addresses. -/
theorem lowerValues_traced {vs : List Value} {words : List Word}
    (hlower : (lowerValues mem vs).from s = (.ok words, s')) :
    ∃ trace addresses, (lowerValues mem.traced vs).from ⟨s, []⟩ = (.ok words, ⟨s', trace⟩) ∧
      Trace.Asks SandboxCall.alloc (placedTexts vs) trace (.ok addresses) ∧
      words = wordsAt vs addresses := by
  have hfits := fits_of_lowerValues hlower
  rw [lowerValues_eq hfits] at hlower
  obtain ⟨addresses, s₁, hplaced, hlower⟩ := Fallible.bind_from_ok_iff.1 hlower
  cases hlower
  obtain ⟨answers, s₂, trace, hplain, htraced, hasks⟩ := mapM_perform mem.alloc
    (fun bytes => (mem.alloc bytes).reply) (fun _ _ => rfl) SandboxCall.alloc (placedTexts vs)
    ⟨s, []⟩
  obtain ⟨rfl, rfl⟩ := Prod.mk.inj (hplaced.symm.trans hplain)
  refine ⟨trace, addresses, ?_, hasks, rfl⟩
  rw [lowerValues_eq hfits]
  exact Fallible.bind_from_ok_iff.2 ⟨addresses, _, htraced, rfl⟩

/-- Values that were lowered into faithful memory are lifted from their words again at every later
point.  The words are of the types of their kinds; the memory was asked for a place for each text
that is not empty, in order, and an empty text is two words of zero for which nothing is asked. -/
theorem liftValues_lowerValues (h : mem.Faithful R s) {vs : List Value} {words : List Word}
    (hlower : (lowerValues mem vs).from s = (.ok words, s')) :
    words.map Word.type = wireTypes (vs.map Value.kind) ∧
    (∀ later, R s' later → ((liftValues mem (vs.map Value.kind) words).from later).1 = .ok vs) ∧
    (∃ trace addresses, (lowerValues mem.traced vs).from ⟨s, []⟩ = (.ok words, ⟨s', trace⟩) ∧
      Trace.Asks SandboxCall.alloc (placedTexts vs) trace (.ok addresses) ∧
      words = wordsAt vs addresses) ∧
    lowerValue mem (.string "") = pure [.i32 0, .i32 0] := by
  have htypes := lowerValues_types hlower
  refine ⟨htypes, fun later hlater => ?_, lowerValues_traced hlower, ?_⟩
  · have hcount : words.length = (wireTypes (vs.map Value.kind)).length := by
      rw [← htypes, List.length_map]
    rw [liftValues_eq, if_neg (Decidable.not_not.2 hcount)]
    exact liftEach_lowerValues h (refl s) hlower later hlater
  · rw [lowerValue_string]
    rfl

end RoundTrip

/-! ## Arenas -/

/-- The memory of an arena whose addresses fit a word keeps what is placed in it. -/
theorem Arena.faithful_memory {a₀ : Arena} (hsize : a₀.bytes.length < UInt32.size) :
    memory.Faithful Extends a₀ := by
  refine ⟨⟨fun part => extends_alloc part, fun address length => extends_read address length⟩, ?_⟩
  intro a a' part address ha _ halloc a'' ha'
  obtain ⟨hanswer, rfl⟩ := Prod.mk.inj halloc
  exact congrArg Prod.fst (read_of_alloc (ha.length_eq ▸ hsize) hanswer ha')

/-- Values at the ends of their ranges, an empty text, a NaN that is not the usual one, the negative
zero, and a text of one to four bytes a character. -/
def edgeValues : List Value :=
  [.u32 0xFFFFFFFF, .string "", .f32 ⟨0x7FA00001⟩, .u64 0xFFFFFFFFFFFFFFFF, .string "hé€😀",
    .f64 ⟨0x8000000000000000⟩, .i32 (-1)]

/-- The words of these values where the text is at the first address of the arena. -/
def edgeWords : List Word :=
  [.i32 (-1), .i32 0, .i32 0, .f32 ⟨0x7FA00001⟩, .i64 (-1), .i32 8, .i32 10,
    .f64 ⟨0x8000000000000000⟩, .i32 (-1)]

/-- They are lifted again after more bytes were handed out. -/
theorem liftValues_lowerValues_edges :
    ∃ a, (lowerValues Arena.memory edgeValues).from (.zeroed 8 64 []) = (.ok edgeWords, a) ∧
      ((liftValues Arena.memory (edgeValues.map Value.kind) edgeWords).from
        (a.alloc [1, 2, 3]).2).1 = .ok edgeValues := by
  let a := ((lowerValues Arena.memory edgeValues).from (.zeroed 8 64 [])).2
  have hlower : (lowerValues Arena.memory edgeValues).from (.zeroed 8 64 []) =
      (.ok edgeWords, a) := by
    rfl
  have hsize : (Arena.zeroed 8 64 []).bytes.length < UInt32.size := by
    decide
  obtain ⟨-, hlift, -⟩ := liftValues_lowerValues (Arena.faithful_memory hsize) hlower
  exact ⟨a, hlower, hlift _ (Arena.extends_alloc [1, 2, 3] a)⟩

end GuestBridge
