import GuestBridge.Proofs.Call.Marshal
import GuestBridge.Proofs.Sandbox.Traced

/-!
# Texts across the boundary

All that marshalling asks of a guest is to place texts and to read them, and which ones is known
beforehand: `placedTexts` tells it of values, and `textSlices` of words.  Lowering places the texts
in order and makes the words of their addresses (`lowerValues_eq`).  Lifting reads the slices in
order, and what it makes of the bytes, or whether it refuses the words, does not depend on the
guest (`exists_liftEach_eq`).
-/

namespace GuestBridge

variable {μ α : Type}

/-! ## Slices -/

/-- Reads a slice. -/
def GuestMemory.readSlice (mem : GuestMemory μ) (slice : UInt32 × UInt32) : GuestM μ Bytes :=
  mem.read slice.1 slice.2

/-- The request for a slice. -/
def SandboxCall.readSlice (slice : UInt32 × UInt32) : Except SandboxError Bytes → SandboxCall :=
  .read slice.1 slice.2

/-! ## Texts that are lowered -/

/-- The bytes that are placed for a value: those of a text that is not empty. -/
def Value.placed? : Value → Option Bytes
  | .string text => if (Text.encode text).isEmpty then none else some (Text.encode text)
  | _ => none

/-- The texts that are placed for values, in order. -/
def placedTexts (vs : List Value) : List Bytes :=
  vs.filterMap Value.placed?

/-- A value whose text, if it is one, has a length that fits a word. -/
def Value.Fits (v : Value) : Prop :=
  ∀ text, v = .string text → (Text.encode text).length < UInt32.size

/-- The words of a value whose text is at an address. -/
def Value.wordsAt (address : UInt32) : Value → List Word
  | .u32 v => [.i32 v.toInt32]
  | .i32 v => [.i32 v]
  | .u64 v => [.i64 v.toInt64]
  | .i64 v => [.i64 v]
  | .f32 v => [.f32 v]
  | .f64 v => [.f64 v]
  | .string text => sliceWords address (UInt32.ofNat (Text.encode text).length)

/-- The words of values whose texts are at the addresses, in order.  An empty text is at zero. -/
def wordsAt : List Value → List UInt32 → List Word
  | [], _ => []
  | v :: rest, addresses =>
      match v.placed? with
      | none => v.wordsAt 0 ++ wordsAt rest addresses
      | some _ => v.wordsAt (addresses.headD 0) ++ wordsAt rest addresses.tail

theorem Value.types_wordsAt (address : UInt32) (v : Value) :
    (v.wordsAt address).map Word.type = v.kind.wireTypes := by
  cases v <;> rfl

theorem types_wordsAt (vs : List Value) (addresses : List UInt32) :
    (wordsAt vs addresses).map Word.type = wireTypes (vs.map Value.kind) := by
  induction vs generalizing addresses with
  | nil => rfl
  | cons v rest ih =>
      rw [wordsAt, List.map_cons, wireTypes_cons]
      split <;> rw [List.map_append, Value.types_wordsAt, ih]

theorem lowerValue_eq {v : Value} (hfits : v.Fits) (mem : GuestMemory μ) :
    lowerValue mem v =
      match v.placed? with
      | none => pure (v.wordsAt 0)
      | some text => mem.alloc text >>= fun address => pure (v.wordsAt address) := by
  cases v with
  | string text =>
      rw [lowerValue_string, if_neg (Nat.not_le.2 (hfits text rfl)), Value.placed?]
      split_ifs with hempty
      · have hzero : (Text.encode text).length = 0 :=
          List.length_eq_zero_iff.2 (List.isEmpty_iff.1 hempty)
        rw [Value.wordsAt, hzero]
        rfl
      · rfl
  | _ => rfl

/-- Lowering places the texts in order, and makes the words of their addresses. -/
theorem lowerValues_eq {vs : List Value} (hfits : ∀ v ∈ vs, v.Fits) (mem : GuestMemory μ) :
    lowerValues mem vs =
      (placedTexts vs).mapM mem.alloc >>= fun addresses => pure (wordsAt vs addresses) := by
  induction vs with
  | nil => rfl
  | cons v rest ih =>
      rw [List.forall_mem_cons] at hfits
      rw [lowerValues, lowerValue_eq hfits.1, ih hfits.2, placedTexts]
      cases hplaced : v.placed? with
      | none => simp [wordsAt, hplaced, placedTexts]
      | some text => simp [wordsAt, hplaced, placedTexts]

theorem fits_of_lowerValue {mem : GuestMemory μ} {v : Value} {words : List Word} {s s' : μ}
    (h : (lowerValue mem v).from s = (.ok words, s')) : v.Fits := by
  rintro text rfl
  rw [lowerValue_string] at h
  split_ifs at h with hlong
  · cases h
  · exact Nat.not_le.1 hlong
  · exact Nat.not_le.1 hlong

/-- Only values whose texts fit are lowered. -/
theorem fits_of_lowerValues {mem : GuestMemory μ} {vs : List Value} {words : List Word} {s s' : μ}
    (h : (lowerValues mem vs).from s = (.ok words, s')) : ∀ v ∈ vs, v.Fits := by
  induction vs generalizing s s' words with
  | nil => simp
  | cons v rest ih =>
      rw [lowerValues] at h
      obtain ⟨ws, s₁, hv, h⟩ := Fallible.bind_from_ok_iff.1 h
      obtain ⟨more, s₂, hrest, -⟩ := Fallible.bind_from_ok_iff.1 h
      exact List.forall_mem_cons.2 ⟨fits_of_lowerValue hv, ih hrest⟩

/-! ## Texts that are lifted -/

/-- The texts that words of the kinds tell of, by address and length: all that are not empty, up to
where the words are not of the types. -/
def textSlices : List Kind → List Word → List (UInt32 × UInt32)
  | .string :: kinds, .i32 address :: .i32 length :: rest =>
      if length.toUInt32 = 0 then textSlices kinds rest
      else (address.toUInt32, length.toUInt32) :: textSlices kinds rest
  | kind :: kinds, word :: rest =>
      if kind.wireTypes = [word.type] then textSlices kinds rest else []
  | _, _ => []

/-- What lifting one value comes to: the value is in its words, its text has to be read, or the
words are not of the types of the kind. -/
inductive Lifting (kind : Kind) (words : List Word) : Prop where
  | value (v : Value) (rest : List Word)
      (types : words.map Word.type = kind.wireTypes ++ rest.map Word.type)
      (slices : ∀ kinds, textSlices (kind :: kinds) words = textSlices kinds rest)
      (lift : ∀ {μ : Type} (mem : GuestMemory μ), liftValue mem kind words = pure (v, rest))
  | text (slice : UInt32 × UInt32) (rest : List Word)
      (types : words.map Word.type = kind.wireTypes ++ rest.map Word.type)
      (slices : ∀ kinds, textSlices (kind :: kinds) words = slice :: textSlices kinds rest)
      (lift : ∀ {μ : Type} (mem : GuestMemory μ), liftValue mem kind words =
        mem.readSlice slice >>= fun part => pure (.string (Text.decodeLossy part), rest))
  | refused (fault : AbiFault) (types : ¬ kind.wireTypes <+: words.map Word.type)
      (slices : ∀ kinds, textSlices (kind :: kinds) words = [])
      (lift : ∀ {μ : Type} (mem : GuestMemory μ), liftValue mem kind words = throw (.abi fault))

theorem lifting_string (words : List Word) : Lifting .string words := by
  match words with
  | .i32 address :: .i32 length :: rest =>
      by_cases hlength : length.toUInt32 = 0
      · apply Lifting.value (.string "") rest rfl
        · simp [textSlices, hlength]
        · simp [liftValue, readText_eq, hlength]
      · apply Lifting.text (address.toUInt32, length.toUInt32) rest rfl
        · simp [textSlices, hlength]
        · simp [liftValue, readText_eq, hlength, GuestMemory.readSlice]
  | [] | [.i32 _] | .i32 _ :: .i64 _ :: _ | .i32 _ :: .f32 _ :: _ | .i32 _ :: .f64 _ :: _
  | .i64 _ :: _ | .f32 _ :: _ | .f64 _ :: _ =>
      apply Lifting.refused _ (by simp [Kind.wireTypes, Word.type])
      · simp [textSlices, Kind.wireTypes]
      · exact fun _ => rfl

/-- There is no other way to lift a value. -/
theorem lifting (kind : Kind) (words : List Word) : Lifting kind words := by
  by_cases hkind : kind = .string
  · exact hkind ▸ lifting_string words
  cases words with
  | nil =>
      cases kind <;> exact .refused _ (by simp [Kind.wireTypes]) (fun _ => rfl) fun _ => rfl
  | cons word rest =>
      cases kind <;> cases word <;> first
        | exact .value _ rest rfl (fun _ => rfl) fun _ => rfl
        | exact .refused _ (by simp [Kind.wireTypes, Word.type]) (fun _ => rfl) fun _ => rfl
        | exact absurd rfl hkind

/-- The answer for words that fit, or are refused because they do not. -/
inductive Judged (fits : Prop) : Except SandboxError α → Prop where
  | accepted (h : fits) (a : α) : Judged fits (.ok a)
  | refused (h : ¬ fits) (fault : AbiFault) : Judged fits (.error (.abi fault))

theorem Judged.map {β : Type} {fits : Prop} {x : Except SandboxError α} (h : Judged fits x)
    (f : α → β) : Judged fits (x.map f) := by
  cases h with
  | accepted h a => exact .accepted h (f a)
  | refused h fault => exact .refused h fault

theorem Judged.exists_ok {fits : Prop} {x : Except SandboxError α} (h : Judged fits x)
    (hfits : fits) : ∃ a, x = .ok a := by
  cases h with
  | accepted _ a => exact ⟨a, rfl⟩
  | refused hnot fault => exact absurd hfits hnot

theorem Judged.exists_fault {fits : Prop} {x : Except SandboxError α} (h : Judged fits x)
    (hfits : ¬ fits) : ∃ fault, x = .error (.abi fault) := by
  cases h with
  | accepted hfit a => exact absurd hfit hfits
  | refused _ fault => exact ⟨fault, rfl⟩

/-- Lifting reads the slices in order.  What it makes of their bytes is the same with every guest:
values exactly if the words begin with those of the kinds. -/
theorem exists_liftEach_eq (kinds : List Kind) (words : List Word) :
    ∃ finish : List Bytes → Except SandboxError (List Value),
      (∀ {μ : Type} (mem : GuestMemory μ), liftEach mem kinds words =
        (textSlices kinds words).mapM mem.readSlice >>= fun parts =>
          ExceptT.mk (pure (finish parts))) ∧
      ∀ parts, Judged (wireTypes kinds <+: words.map Word.type) (finish parts) := by
  induction kinds generalizing words with
  | nil =>
      have hslices : textSlices [] words = [] := by
        cases words <;> rfl
      refine ⟨fun _ => .ok [], fun mem => ?_, fun _ => .accepted List.nil_prefix []⟩
      rw [hslices]
      rfl
  | cons kind kinds ih =>
      rw [wireTypes_cons]
      cases lifting kind words with
      | value v rest types slices lift =>
          obtain ⟨finish, heq, hjudged⟩ := ih rest
          refine ⟨fun parts => (finish parts).map (v :: ·), fun mem => ?_, fun parts => ?_⟩
          · rw [liftEach_cons, lift, pure_bind, slices, heq, bind_assoc]
            simp only [Fallible.mk_pure_bind_pure]
          · rw [types, List.prefix_append_right_inj]
            exact (hjudged parts).map _
      | text slice rest types slices lift =>
          obtain ⟨finish, heq, hjudged⟩ := ih rest
          -- The bytes of the slice are the first of the parts.
          refine ⟨fun parts => (finish parts.tail).map
            (.string (Text.decodeLossy (parts.headD [])) :: ·), fun mem => ?_, fun parts => ?_⟩
          · rw [liftEach_cons, lift, slices, List.mapM_cons]
            simp only [bind_assoc, pure_bind, heq, Fallible.mk_pure_bind_pure, List.headD_cons,
              List.tail_cons]
          · rw [types, List.prefix_append_right_inj]
            exact (hjudged parts.tail).map _
      | refused fault types slices lift =>
          refine ⟨fun _ => .error (.abi fault), fun mem => ?_,
            fun _ => .refused (fun h => ?_) fault⟩
          · rw [liftEach_cons, lift, slices]
            rfl
          · exact types ((List.prefix_append _ _).trans h)

/-- The slices that lifting reads: none if there are more words or fewer than the kinds take. -/
def liftedSlices (kinds : List Kind) (words : List Word) : List (UInt32 × UInt32) :=
  if words.length = (wireTypes kinds).length then textSlices kinds words else []

theorem exists_liftValues_eq (kinds : List Kind) (words : List Word) :
    ∃ finish : List Bytes → Except SandboxError (List Value),
      (∀ {μ : Type} (mem : GuestMemory μ), liftValues mem kinds words =
        (liftedSlices kinds words).mapM mem.readSlice >>= fun parts =>
          ExceptT.mk (pure (finish parts))) ∧
      ∀ parts, Judged (words.map Word.type = wireTypes kinds) (finish parts) := by
  by_cases hcount : words.length = (wireTypes kinds).length
  · obtain ⟨finish, heq, hjudged⟩ := exists_liftEach_eq kinds words
    refine ⟨finish, fun mem => ?_, fun parts => ?_⟩
    · rw [liftValues_eq, if_neg (Decidable.not_not.2 hcount), liftedSlices, if_pos hcount, heq]
    · have hfits : words.map Word.type = wireTypes kinds ↔
          wireTypes kinds <+: words.map Word.type := by
        refine ⟨fun h => h ▸ List.prefix_rfl, fun h => ?_⟩
        exact (h.eq_of_length (by rw [List.length_map, hcount])).symm
      rw [hfits]
      exact hjudged parts
  · have htypes : words.map Word.type ≠ wireTypes kinds := by
      intro h
      exact hcount (by rw [← h, List.length_map])
    refine ⟨fun _ => .error (.abi (.wordCount (wireTypes kinds).length words.length)),
      fun mem => ?_, fun _ => .refused htypes _⟩
    rw [liftValues_eq, if_pos hcount, liftedSlices, if_neg hcount]
    rfl

/-- Lifting accepts the words of the kinds and no others.  From every state it reads the slices in
order, up to the first read that fails, and then fails as that read did.  Words of the types are
refused for no other reason, and other words are refused even where every read is answered. -/
theorem liftValues_reads (mem : GuestMemory μ) (kinds : List Kind) (words : List Word) (s : μ) :
    ∃ answer s' trace reads,
      (liftValues mem kinds words).from s = (answer, s') ∧
      (liftValues mem.traced kinds words).from ⟨s, []⟩ = (answer, ⟨s', trace⟩) ∧
      Trace.Asks SandboxCall.readSlice (liftedSlices kinds words) trace reads ∧
      (∀ values, answer = .ok values →
        words.map Word.type = wireTypes kinds ∧ values.map Value.kind = kinds) ∧
      (∀ e, reads = .error e → answer = .error e) ∧
      (words.map Word.type = wireTypes kinds → ∀ e, answer = .error e → reads = .error e) ∧
      (words.map Word.type ≠ wireTypes kinds → (∃ e, answer = .error e) ∧
        ∀ parts, reads = .ok parts → ∃ fault, answer = .error (.abi fault)) := by
  obtain ⟨finish, heq, hjudged⟩ := exists_liftValues_eq kinds words
  obtain ⟨reads, s', trace, hplain, htraced, hasks⟩ := mapM_perform mem.readSlice
    (fun slice => (mem.readSlice slice).reply) (fun _ _ => rfl) SandboxCall.readSlice
    (liftedSlices kinds words) ⟨s, []⟩
  have hanswer : (liftValues mem kinds words).from s = (reads >>= finish, s') := by
    rw [heq]
    exact Fallible.from_bind_mk_pure hplain finish
  have hanswer' : (liftValues mem.traced kinds words).from ⟨s, []⟩ =
      (reads >>= finish, ⟨s', trace⟩) := by
    rw [heq]
    exact Fallible.from_bind_mk_pure htraced finish
  refine ⟨reads >>= finish, s', trace, reads, hanswer, hanswer', hasks, fun values hok => ?_,
    fun e he => ?_, fun htypes e he => ?_, fun htypes => ?_⟩
  · rw [hok] at hanswer
    exact (liftValues_types hanswer).symm
  · rw [he]
    rfl
  · cases reads with
    | error e' =>
        cases he
        rfl
    | ok parts =>
        obtain ⟨values, hvalues⟩ := (hjudged parts).exists_ok htypes
        have hclash : Except.ok values = Except.error e := hvalues.symm.trans he
        cases hclash
  · cases reads with
    | error e => exact ⟨⟨e, rfl⟩, fun _ h => nomatch h⟩
    | ok parts =>
        obtain ⟨fault, hfault⟩ := (hjudged parts).exists_fault htypes
        exact ⟨⟨_, hfault⟩, fun _ _ => ⟨fault, hfault⟩⟩

/-- Words that are as many as the kinds take, of which the third is not of its type. -/
example : liftedSlices [.string, .u32, .string] [.i32 8, .i32 2, .i64 5, .i32 16, .i32 3] =
    [(8, 2)] := by
  decide

end GuestBridge
