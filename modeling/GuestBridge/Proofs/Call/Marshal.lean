import GuestBridge.Call.Marshal
import GuestBridge.Proofs.Fallible
import Mathlib.Tactic.SplitIfs

/-!
# The words of values

Lowering answers with words of the types that the kinds of the values tell (`lowerValues_types`),
and lifting answers with values of exactly the kinds asked for, and only when the words are of their
types (`liftValues_types`).  Neither asks anything of a guest but to place bytes and to read them:
what holds of these two and passes to compositions holds of both (`lowerValues_composes`,
`liftValues_composes`), such as what `GuestMemory.Leads` says (`lowerValues_leads`,
`liftValues_leads`).  The errors of their own are no traps.
-/

namespace GuestBridge

variable {μ : Type} {mem : GuestMemory μ} {s s' : μ}

theorem wireTypes_cons (kind : Kind) (kinds : List Kind) :
    wireTypes (kind :: kinds) = kind.wireTypes ++ wireTypes kinds :=
  rfl

/-! ## Types of words -/

theorem lowerValue_string (mem : GuestMemory μ) (text : String) :
    lowerValue mem (.string text) =
      if UInt32.size ≤ (Text.encode text).length then
        throw (.memory (.tooLong (Text.encode text).length))
      else if (Text.encode text).isEmpty then pure (sliceWords 0 0)
      else mem.alloc (Text.encode text) >>= fun address =>
        pure (sliceWords address (UInt32.ofNat (Text.encode text).length)) := by
  rw [lowerValue]
  split_ifs <;> rfl

theorem lowerValue_types {v : Value} {words : List Word}
    (h : (lowerValue mem v).from s = (.ok words, s')) :
    words.map Word.type = v.kind.wireTypes := by
  cases v with
  | string text =>
      rw [lowerValue_string] at h
      split_ifs at h
      · cases h
      · cases h
        rfl
      · obtain ⟨address, s₁, -, h⟩ := Fallible.bind_from_ok_iff.1 h
        cases h
        rfl
  | _ =>
      cases h
      rfl

/-- Values are lowered to the words of their kinds. -/
theorem lowerValues_types {args : List Value} {words : List Word}
    (h : (lowerValues mem args).from s = (.ok words, s')) :
    words.map Word.type = wireTypes (args.map Value.kind) := by
  induction args generalizing s words with
  | nil =>
      cases h
      rfl
  | cons v rest ih =>
      rw [lowerValues] at h
      obtain ⟨ws, s₁, hv, h⟩ := Fallible.bind_from_ok_iff.1 h
      obtain ⟨more, s₂, hrest, h⟩ := Fallible.bind_from_ok_iff.1 h
      cases h
      rw [List.map_append, lowerValue_types hv, ih hrest, List.map_cons, wireTypes_cons]

theorem readText_eq (mem : GuestMemory μ) (address length : UInt32) :
    readText mem address length =
      if length = 0 then pure ""
      else mem.read address length >>= fun part => pure (Text.decodeLossy part) := by
  rw [readText]

theorem liftValue_types {kind : Kind} {words rest : List Word} {v : Value}
    (h : (liftValue mem kind words).from s = (.ok (v, rest), s')) :
    v.kind = kind ∧ words.map Word.type = kind.wireTypes ++ rest.map Word.type := by
  unfold liftValue at h
  split at h
  case h_7 =>
    obtain ⟨text, s₁, -, h⟩ := Fallible.bind_from_ok_iff.1 h
    cases h
    exact ⟨rfl, rfl⟩
  all_goals
    cases h
    try exact ⟨rfl, rfl⟩

theorem liftEach_cons (mem : GuestMemory μ) (kind : Kind) (kinds : List Kind) (words : List Word) :
    liftEach mem (kind :: kinds) words = liftValue mem kind words >>= fun p =>
      liftEach mem kinds p.2 >>= fun values => pure (p.1 :: values) :=
  rfl

theorem liftEach_types {kinds : List Kind} {words : List Word} {values : List Value}
    (h : (liftEach mem kinds words).from s = (.ok values, s')) :
    values.map Value.kind = kinds ∧ ∃ rest, words.map Word.type = wireTypes kinds ++ rest := by
  induction kinds generalizing s words values with
  | nil =>
      cases h
      exact ⟨rfl, _, rfl⟩
  | cons kind kinds ih =>
      rw [liftEach] at h
      obtain ⟨⟨v, rest⟩, s₁, hv, h⟩ := Fallible.bind_from_ok_iff.1 h
      obtain ⟨values, s₂, hrest, h⟩ := Fallible.bind_from_ok_iff.1 h
      cases h
      obtain ⟨hkind, hword⟩ := liftValue_types hv
      obtain ⟨hkinds, extra, hwords⟩ := ih hrest
      refine ⟨by rw [List.map_cons, hkind, hkinds], extra, ?_⟩
      rw [hword, hwords, wireTypes_cons, List.append_assoc]

theorem liftValues_eq (mem : GuestMemory μ) (kinds : List Kind) (words : List Word) :
    liftValues mem kinds words =
      if words.length ≠ (wireTypes kinds).length then
        throw (.abi (.wordCount (wireTypes kinds).length words.length))
      else liftEach mem kinds words := by
  rw [liftValues]
  split_ifs <;> rfl

/-- Values are lifted from the words of their kinds only. -/
theorem liftValues_types {kinds : List Kind} {words : List Word} {values : List Value}
    (h : (liftValues mem kinds words).from s = (.ok values, s')) :
    values.map Value.kind = kinds ∧ words.map Word.type = wireTypes kinds := by
  rw [liftValues_eq] at h
  split_ifs at h with hlength
  · cases h
  · obtain ⟨hkinds, rest, hrest⟩ := liftEach_types h
    have hcount := congrArg List.length hrest
    rw [List.length_map, Decidable.not_not.1 hlength, List.length_append] at hcount
    obtain rfl : rest = [] := List.length_eq_zero_iff.1 (by omega)
    exact ⟨hkinds, by rw [hrest, List.append_nil]⟩

/-! ## Requests to the guest -/

/-- What is asked of the memory leads to a state that is related by `R`. -/
structure GuestMemory.Leads (mem : GuestMemory μ) (R : μ → μ → Prop) : Prop where
  alloc : ∀ bytes, (mem.alloc bytes).Leads R
  read : ∀ address length, (mem.read address length).Leads R

/-- What is asked of the memory leads from a state with `P` to one with `P`, or fails. -/
structure GuestMemory.Keeps (mem : GuestMemory μ) (P : μ → Prop) : Prop where
  alloc : ∀ bytes, (mem.alloc bytes).Keeps P
  read : ∀ address length, (mem.read address length).Keeps P

/-- The sandbox trapped. -/
def SandboxError.IsTrap (e : SandboxError) : Prop :=
  ∃ message fatal, e = .trap message fatal

section Composes

variable {P : {α : Type} → GuestM μ α → Prop} (hP : Fallible.Composes (fun e => ¬ e.IsTrap) P)
include hP

theorem lowerValue_composes (halloc : ∀ bytes, P (mem.alloc bytes)) (v : Value) :
    P (lowerValue mem v) := by
  cases v with
  | string text =>
      rw [lowerValue_string]
      split_ifs
      · exact hP.throw (by rintro ⟨_, _, ⟨⟩⟩)
      · exact hP.pure _
      · exact hP.bind (halloc _) fun _ => hP.pure _
  | _ => exact hP.pure _

theorem lowerValues_composes (halloc : ∀ bytes, P (mem.alloc bytes)) (args : List Value) :
    P (lowerValues mem args) := by
  induction args with
  | nil => exact hP.pure _
  | cons v rest ih =>
      rw [lowerValues]
      exact hP.bind (lowerValue_composes hP halloc v) fun _ => hP.bind ih fun _ => hP.pure _

variable (hread : ∀ address length, P (mem.read address length))
include hread

theorem readText_composes (address length : UInt32) : P (readText mem address length) := by
  rw [readText_eq]
  split_ifs
  · exact hP.pure _
  · exact hP.bind (hread _ _) fun _ => hP.pure _

theorem liftValue_composes (kind : Kind) (words : List Word) : P (liftValue mem kind words) := by
  unfold liftValue
  split
  case h_7 => exact hP.bind (readText_composes hP hread _ _) fun _ => hP.pure _
  all_goals first | exact hP.pure _ | exact hP.throw (by rintro ⟨_, _, ⟨⟩⟩)

theorem liftEach_composes (kinds : List Kind) (words : List Word) :
    P (liftEach mem kinds words) := by
  induction kinds generalizing words with
  | nil => exact hP.pure _
  | cons kind kinds ih =>
      rw [liftEach]
      exact hP.bind (liftValue_composes hP hread kind words) fun _ =>
        hP.bind (ih _) fun _ => hP.pure _

theorem liftValues_composes (kinds : List Kind) (words : List Word) :
    P (liftValues mem kinds words) := by
  rw [liftValues_eq]
  split_ifs
  · exact hP.throw (by rintro ⟨_, _, ⟨⟩⟩)
  · exact liftEach_composes hP hread kinds words

end Composes

section Leads

variable {R : μ → μ → Prop} [IsPreorder μ R] (hmem : mem.Leads R)
include hmem

theorem lowerValue_leads (v : Value) : (lowerValue mem v).Leads R :=
  lowerValue_composes (Fallible.composes_leads _) hmem.alloc v

theorem lowerValues_leads (args : List Value) : (lowerValues mem args).Leads R :=
  lowerValues_composes (Fallible.composes_leads _) hmem.alloc args

theorem readText_leads (address length : UInt32) : (readText mem address length).Leads R :=
  readText_composes (Fallible.composes_leads _) hmem.read address length

theorem liftValue_leads (kind : Kind) (words : List Word) : (liftValue mem kind words).Leads R :=
  liftValue_composes (Fallible.composes_leads _) hmem.read kind words

theorem liftEach_leads (kinds : List Kind) (words : List Word) :
    (liftEach mem kinds words).Leads R :=
  liftEach_composes (Fallible.composes_leads _) hmem.read kinds words

theorem liftValues_leads (kinds : List Kind) (words : List Word) :
    (liftValues mem kinds words).Leads R :=
  liftValues_composes (Fallible.composes_leads _) hmem.read kinds words

end Leads

section Keeps

variable {P : μ → Prop} (hmem : mem.Keeps P)
include hmem

theorem lowerValues_keeps (args : List Value) : (lowerValues mem args).Keeps P :=
  lowerValues_composes (Fallible.composes_keeps _) hmem.alloc args

theorem liftValues_keeps (kinds : List Kind) (words : List Word) :
    (liftValues mem kinds words).Keeps P :=
  liftValues_composes (Fallible.composes_keeps _) hmem.read kinds words

end Keeps

end GuestBridge
