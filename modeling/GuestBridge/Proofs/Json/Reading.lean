import GuestBridge.Proofs.Json.Grammar
import GuestBridge.Proofs.Text.Utf8
import Mathlib.Data.List.DropRight
import Mathlib.Tactic.IntervalCases

/-!
# Reading what the grammar writes

Every text of a document is read as that document (`Json.read?_of_spells`).

A reader takes its token off the front of whatever bytes there are, so each lemma has bytes that
follow.  Only a numeral can be continued by them, and what follows a value does not do that: it
begins with a blank, a comma or a closing bracket (`Json.EndsToken`).  For strings there are two
steps, from the bytes to their pieces and from those to the characters, and a spelled character is
told by the pieces it is read as (`SpellsChar.exists_units`).
-/

namespace GuestBridge

namespace Json

/-! ## Blanks -/

theorem skipBlanks_append {blank : Bytes} (h : Blank blank) (rest : Bytes) :
    skipBlanks (blank ++ rest) = skipBlanks rest :=
  List.dropWhile_append_of_pos h

theorem skipBlanks_cons_of_not {b : UInt8} (h : isBlank b = false) (rest : Bytes) :
    skipBlanks (b :: rest) = b :: rest := by
  rw [skipBlanks, List.dropWhile_cons_of_neg (by simp [h])]

/-- The bytes are none, or they begin with a byte that continues no numeral. -/
def EndsToken (bs : Bytes) : Prop :=
  ∀ b ∈ bs.head?, isDigit b = false ∧ b ≠ 0x2E ∧ b ≠ 0x65 ∧ b ≠ 0x45

theorem endsToken_nil : EndsToken [] := nofun

theorem endsToken_cons {b : UInt8} (h : isDigit b = false ∧ b ≠ 0x2E ∧ b ≠ 0x65 ∧ b ≠ 0x45)
    (rest : Bytes) : EndsToken (b :: rest) := by
  rintro b' hb'
  obtain rfl : b = b' := by simpa using hb'
  exact h

theorem endsToken_of_isBlank {b : UInt8} (h : isBlank b = true) (rest : Bytes) :
    EndsToken (b :: rest) := by
  refine endsToken_cons ?_ rest
  simp only [isBlank, Bool.or_eq_true, decide_eq_true_eq] at h
  obtain ((rfl | rfl) | rfl) | rfl := h <;> decide

theorem Blank.endsToken_append {blank rest : Bytes} (h : Blank blank) (hrest : EndsToken rest) :
    EndsToken (blank ++ rest) := by
  cases blank with
  | nil => exact hrest
  | cons b bs => exact endsToken_of_isBlank (h b (List.mem_cons_self ..)) _

/-! ## Numerals -/

theorem isDigit_digitByte : ∀ d : Fin 10, isDigit (digitByte d) = true := by decide

theorem digitValue_digitByte : ∀ d : Fin 10, digitValue (digitByte d) = d := by decide

/-- Digits are read up to the first byte that is none. -/
theorem readDigits_append (ds : List (Fin 10)) {rest : Bytes}
    (hrest : ∀ b ∈ rest.head?, isDigit b = false) :
    readDigits (ds.map digitByte ++ rest) = (ds, rest) := by
  have hds : ∀ b ∈ ds.map digitByte, isDigit b = true := by
    intro b hb
    obtain ⟨d, -, rfl⟩ := List.mem_map.1 hb
    exact isDigit_digitByte d
  have hvalue : digitValue ∘ digitByte = id := funext digitValue_digitByte
  rw [readDigits, List.takeWhile_append_of_pos hds, List.dropWhile_append_of_pos hds]
  cases rest with
  | nil => simp [hvalue]
  | cons b rest =>
      have hb : isDigit b = false := hrest b rfl
      simp [hvalue, hb]

theorem readWhole_append {n : Nat} {bs rest : Bytes} (h : SpellsWhole n bs)
    (hrest : ∀ b ∈ rest.head?, isDigit b = false) : readWhole (bs ++ rest) = some (n, rest) := by
  cases h with
  | zero =>
      have hread : readDigits ([digitByte 0] ++ rest) = ([0], rest) := readDigits_append [0] hrest
      rw [readWhole, hread]
      rfl
  | @digits d ds hd =>
      rw [readWhole, readDigits_append _ hrest]
      have hnot : ¬ (d.val = 0 ∧ ds ≠ []) := fun h => hd (Fin.ext h.1)
      exact if_neg hnot

theorem readFraction_append {ds : List (Fin 10)} {bs rest : Bytes} (h : SpellsFraction ds bs)
    (hrest : ∀ b ∈ rest.head?, isDigit b = false ∧ b ≠ 0x2E) :
    readFraction (bs ++ rest) = some (ds, rest) := by
  cases h with
  | none =>
      rw [List.nil_append]
      unfold readFraction
      split
      · exact absurd rfl (hrest 0x2E rfl).2
      · rfl
  | digits hds =>
      rw [List.cons_append, readFraction, readDigits_append _ fun b hb => (hrest b hb).1]
      cases ds with
      | nil => exact absurd rfl hds
      | cons d ds => rfl

theorem readPower_append {negative : Bool} {ds : List (Fin 10)} {rest : Bytes} (hds : ds ≠ [])
    (hrest : ∀ b ∈ rest.head?, isDigit b = false) :
    readPower negative (ds.map digitByte ++ rest) =
      some (some (if negative then -(numberOf ds : Int) else (numberOf ds : Int)), rest) := by
  rw [readPower, readDigits_append ds hrest]
  cases ds with
  | nil => exact absurd rfl hds
  | cons d ds => rfl

theorem digitByte_ne_sign : ∀ d : Fin 10, digitByte d ≠ 0x2D ∧ digitByte d ≠ 0x2B := by decide

/-- The sign of an exponent is taken off before its digits are read. -/
theorem readExponent_signed {letter : UInt8} (hletter : letter = 0x65 ∨ letter = 0x45)
    {negative : Bool} {sign : Bytes} (hsign : SpellsSign negative sign) {ds : List (Fin 10)}
    (hds : ds ≠ []) (rest : Bytes) :
    readExponent (letter :: (sign ++ (ds.map digitByte ++ rest))) =
      readPower negative (ds.map digitByte ++ rest) := by
  unfold readExponent
  dsimp only
  rw [if_pos hletter]
  cases hsign with
  | minus => rfl
  | plus => rfl
  | none =>
      cases ds with
      | nil => exact absurd rfl hds
      | cons d ds =>
          obtain ⟨hminus, hplus⟩ := digitByte_ne_sign d
          split
          · exact absurd (List.cons.inj ‹_›).1 hminus
          · exact absurd (List.cons.inj ‹_›).1 hplus
          · rfl

theorem readExponent_append {e : Option Int} {bs rest : Bytes} (h : SpellsExponent e bs)
    (hrest : EndsToken rest) : readExponent (bs ++ rest) = some (e, rest) := by
  cases h with
  | none =>
      cases rest with
      | nil => rfl
      | cons b rest =>
          obtain ⟨-, -, hsmall, hcapital⟩ := hrest b rfl
          rw [List.nil_append]
          exact if_neg (by simp [hsmall, hcapital])
  | digits hletter hsign hds =>
      rw [List.cons_append, List.append_assoc, readExponent_signed hletter hsign hds,
        readPower_append hds fun b hb => (hrest b hb).1]

/-- What comes after the whole part does not continue it. -/
theorem SpellsFraction.head_append {ds : List (Fin 10)} {fraction exponent rest : Bytes}
    {e : Option Int} (h : SpellsFraction ds fraction) (he : SpellsExponent e exponent)
    (hrest : EndsToken rest) :
    (∀ b ∈ (exponent ++ rest).head?, isDigit b = false ∧ b ≠ 0x2E) ∧
      ∀ b ∈ (fraction ++ (exponent ++ rest)).head?, isDigit b = false := by
  have hexponent : ∀ b ∈ (exponent ++ rest).head?, isDigit b = false ∧ b ≠ 0x2E := by
    cases he with
    | none => exact fun b hb => ⟨(hrest b hb).1, (hrest b hb).2.1⟩
    | digits hletter =>
        rintro b hb
        obtain rfl := Option.some.inj hb
        obtain rfl | rfl := hletter <;> decide
  refine ⟨hexponent, ?_⟩
  cases h with
  | none => exact fun b hb => (hexponent b hb).1
  | digits =>
      rintro b hb
      obtain rfl := Option.some.inj hb
      decide

/-- The first byte of a whole part is a digit. -/
theorem SpellsWhole.exists_cons {n : Nat} {bs : Bytes} (h : SpellsWhole n bs) :
    ∃ d rest, bs = digitByte d :: rest := by
  cases h with
  | zero => exact ⟨0, [], rfl⟩
  | @digits d ds _ => exact ⟨d, ds.map digitByte, rfl⟩

theorem readUnsigned_append (negative : Bool) {n : Nat} {ds : List (Fin 10)} {e : Option Int}
    {whole fraction exponent rest : Bytes} (hwhole : SpellsWhole n whole)
    (hfraction : SpellsFraction ds fraction) (hexponent : SpellsExponent e exponent)
    (hrest : EndsToken rest) :
    readUnsigned negative (whole ++ (fraction ++ (exponent ++ rest))) =
      some (⟨negative, n, ds, e⟩, rest) := by
  obtain ⟨hafter, hnext⟩ := hfraction.head_append hexponent hrest
  simp only [readUnsigned, readWhole_append hwhole hnext, readFraction_append hfraction hafter,
    readExponent_append hexponent hrest, bind, Option.bind, pure]

theorem readNumeral_append {n : Numeral} {bs rest : Bytes} (h : SpellsNumeral n bs)
    (hrest : EndsToken rest) : readNumeral (bs ++ rest) = some (n, rest) := by
  obtain ⟨whole, fraction, exponent, hwhole, hfraction, hexponent, rfl⟩ := h
  obtain ⟨negative, n, ds, e⟩ := n
  have hread := readUnsigned_append negative hwhole hfraction hexponent hrest
  simp only [List.append_assoc]
  cases negative with
  | true => exact hread
  | false =>
      obtain ⟨d, digits, rfl⟩ := hwhole.exists_cons
      rw [if_neg Bool.false_ne_true, List.nil_append]
      rw [List.cons_append] at hread ⊢
      unfold readNumeral
      split
      · exact absurd (List.cons.inj ‹_›).1 (digitByte_ne_sign d).1
      · exact hread

/-! ## Strings -/

theorem SpellsHexDigit.value {n : Nat} {b : UInt8} (h : SpellsHexDigit n b) :
    n < 16 ∧ hexByteValue? b = some n := by
  cases h with
  | digit h => interval_cases n <;> decide
  | @small n h => interval_cases n <;> decide
  | @capital n h => interval_cases n <;> decide

/-- The four digits of a unit are read as its number. -/
theorem readUnits_unit {n : Nat} {bs : Bytes} (h : SpellsUnit n bs) (rest : Bytes) :
    readUnits (bs ++ rest) = (readUnits rest).map fun r => (.code n :: r.1, r.2) := by
  cases h with
  | digits h₃ h₂ h₁ h₀ =>
      simp only [List.cons_append, List.nil_append, readUnits, fourHexDigits?, h₃.value.2,
        h₂.value.2, h₁.value.2, h₀.value.2, bind, Option.bind, pure, Option.map]
      cases readUnits rest <;> rfl

theorem readUnits_escape {letter b : UInt8} (hletter : letter ≠ 0x75)
    (hb : escapedByte? letter = some b) (rest : Bytes) :
    readUnits (0x5C :: letter :: rest) =
      (readUnits rest).map fun r => (.byte b :: r.1, r.2) := by
  rw [readUnits, hb]
  · cases readUnits rest <;> rfl
  · exact fun _ _ _ _ _ h _ => hletter h

theorem readUnits_byte {b : UInt8} (hquote : b ≠ 0x22) (hbackslash : b ≠ 0x5C)
    (hcontrol : ¬ b < 0x20) (rest : Bytes) :
    readUnits (b :: rest) = (readUnits rest).map fun r => (.byte b :: r.1, r.2) := by
  rw [readUnits, if_neg hquote, if_neg (by simp [hbackslash, hcontrol])]
  · cases readUnits rest <;> rfl
  · exact fun _ _ _ _ _ h _ => hbackslash h
  · exact fun _ _ h _ => hbackslash h

/-- The bytes of a character that may stand as it is are no control, quote or backslash. -/
theorem plain_of_mem_utf8EncodeChar {c : Char} (hcontrol : 0x20 ≤ c.toNat) (hquote : c ≠ '"')
    (hbackslash : c ≠ '\\') {b : UInt8} (hb : b ∈ String.utf8EncodeChar c) :
    b ≠ 0x22 ∧ b ≠ 0x5C ∧ ¬ b < 0x20 := by
  have hne : ∀ {d : Char}, c ≠ d → c.toNat ≠ d.toNat := fun h heq => h (Char.toNat_inj.1 heq)
  have hc : c.toNat ≠ 0x22 ∧ c.toNat ≠ 0x5C := ⟨hne hquote, hne hbackslash⟩
  have hb' : 0x20 ≤ b.toNat ∧ b.toNat ≠ 0x22 ∧ b.toNat ≠ 0x5C := by
    change 0x20 ≤ c.val.toNat at hcontrol
    change c.val.toNat ≠ 0x22 ∧ c.val.toNat ≠ 0x5C at hc
    rw [String.utf8EncodeChar] at hb
    split_ifs at hb <;>
    · simp only [List.mem_cons, List.not_mem_nil, or_false] at hb
      rcases hb with rfl | rfl | rfl | rfl <;> simp only [UInt8.toNat_ofNat'] <;> omega
  refine ⟨?_, ?_, ?_⟩
  · rintro rfl
    exact hb'.2.1 rfl
  · rintro rfl
    exact hb'.2.2 rfl
  · rw [UInt8.lt_iff_toNat_lt]
    exact Nat.not_lt.2 hb'.1

/-- The bytes make up the character when they are read as pieces, whatever comes after them. -/
def ReadsAs (c : Char) (bs : Bytes) : Prop :=
  ∃ units, (∀ rest, readUnits (bs ++ rest) =
      (readUnits rest).map fun r => (units ++ r.1, r.2)) ∧
    ∀ more, unitBytes (units ++ more) = (unitBytes more).map (String.utf8EncodeChar c ++ ·)

theorem unitBytes_bytes (bs : Bytes) (more : List StringUnit) :
    unitBytes (bs.map .byte ++ more) = (unitBytes more).map (bs ++ ·) := by
  induction bs with
  | nil => simp
  | cons b bs ih =>
      rw [List.map_cons, List.cons_append, unitBytes, ih, Option.map_map]
      rfl

theorem readUnits_bytes {bs : Bytes} (h : ∀ b ∈ bs, b ≠ 0x22 ∧ b ≠ 0x5C ∧ ¬ b < 0x20)
    (rest : Bytes) :
    readUnits (bs ++ rest) = (readUnits rest).map fun r => (bs.map .byte ++ r.1, r.2) := by
  induction bs with
  | nil => simp
  | cons b bs ih =>
      rw [List.forall_mem_cons] at h
      obtain ⟨hquote, hbackslash, hcontrol⟩ := h.1
      rw [List.cons_append, readUnits_byte hquote hbackslash hcontrol, ih h.2, Option.map_map]
      rfl

/-- A unit that is no half of a pair makes a character of its own. -/
theorem unitBytes_code {n : Nat} (h : n < 0xD800 ∨ 0xDFFF < n) (more : List StringUnit) :
    unitBytes (.code n :: more) =
      (unitBytes more).map (String.utf8EncodeChar (Char.ofNat n) ++ ·) := by
  have hhigh : isHighSurrogate n = false := by simp [isHighSurrogate]; omega
  have hlow : isLowSurrogate n = false := by simp [isLowSurrogate]; omega
  by_cases hmore : ∃ m rest, more = .code m :: rest
  · obtain ⟨m, rest, rfl⟩ := hmore
    rw [unitBytes, if_neg (by simp [hhigh]), if_neg (by simp [hlow])]
  · rw [unitBytes, if_neg (by simp [hhigh, hlow])]
    exact fun m rest h => hmore ⟨m, rest, h⟩

theorem unitBytes_pair {high low : Nat} (hhigh : high < 0x400) (hlow : low < 0x400)
    (more : List StringUnit) :
    unitBytes (.code (0xD800 + high) :: .code (0xDC00 + low) :: more) =
      (unitBytes more).map
        (String.utf8EncodeChar (Char.ofNat (0x10000 + high * 0x400 + low)) ++ ·) := by
  have hh : isHighSurrogate (0xD800 + high) = true := by simp [isHighSurrogate]; omega
  have hl : isLowSurrogate (0xDC00 + low) = true := by simp [isLowSurrogate]; omega
  rw [unitBytes, if_pos hh, if_pos hl]
  simp only [Nat.add_sub_cancel_left]

/-- The letter after a backslash stands for the only byte of the character. -/
theorem escapedByte?_of_mem_letterEscapes : ∀ e ∈ letterEscapes,
    e.2 ≠ 0x75 ∧ (escapedByte? e.2).map (fun b => [b]) = some (String.utf8EncodeChar e.1) := by
  decide

/-- However a character is spelled, it is read as that character. -/
theorem SpellsChar.exists_units {c : Char} {bs : Bytes} (h : SpellsChar c bs) : ReadsAs c bs := by
  have hvalid : c.toNat < 0xD800 ∨ 0xDFFF < c.toNat ∧ c.toNat < 0x110000 := c.valid
  cases h with
  | plain hcontrol hquote hbackslash =>
      exact ⟨_, readUnits_bytes fun b => plain_of_mem_utf8EncodeChar hcontrol hquote hbackslash,
        unitBytes_bytes _⟩
  | letter h =>
      obtain ⟨hletter, hbyte⟩ := escapedByte?_of_mem_letterEscapes _ h
      obtain ⟨b, hb, hc⟩ := Option.map_eq_some_iff.1 hbyte
      refine ⟨[.byte b], readUnits_escape hletter hb, fun more => ?_⟩
      dsimp only at hc
      rw [List.singleton_append, unitBytes, ← hc]
      rfl
  | unit h =>
      refine ⟨[.code c.toNat], readUnits_unit h, fun more => ?_⟩
      have hcode := unitBytes_code (n := c.toNat) (by omega) more
      rwa [Char.ofNat_toNat] at hcode
  | @pair high low _ _ hhigh hlow hc hhs hls =>
      refine ⟨[.code (0xD800 + high), .code (0xDC00 + low)], fun rest => ?_, fun more => ?_⟩
      · rw [List.append_assoc, readUnits_unit hhs, readUnits_unit hls, Option.map_map]
        rfl
      · have hpair := unitBytes_pair hhigh hlow more
        rwa [← hc, Char.ofNat_toNat] at hpair

/-- The pieces of a spelled string are those of its characters, up to the closing quote. -/
theorem SpellsChars.exists_units {cs : List Char} {bs : Bytes} (h : SpellsChars cs bs)
    (rest : Bytes) :
    ∃ units, readUnits (bs ++ 0x22 :: rest) = some (units, rest) ∧
      unitBytes units = some (cs.flatMap String.utf8EncodeChar) := by
  induction h with
  | nil => exact ⟨[], rfl, rfl⟩
  | @cons c cs piece bs h _ ih =>
      obtain ⟨units, hread, hbytes⟩ := ih
      obtain ⟨first, hfirst, hmore⟩ := h.exists_units
      refine ⟨first ++ units, ?_, ?_⟩
      · rw [List.append_assoc, hfirst, hread, Option.map_some]
      · rw [hmore, hbytes, Option.map_some, List.flatMap_cons]

/-- A spelled string is read as the string. -/
theorem readString_append {s : String} {bs : Bytes} (h : SpellsString s bs) (rest : Bytes) :
    ∃ inner, bs = 0x22 :: inner ∧ readString (inner ++ rest) = some (some s, rest) := by
  cases h with
  | @quoted inner h =>
      obtain ⟨units, hread, hbytes⟩ := h.exists_units rest
      refine ⟨inner ++ [0x22], rfl, ?_⟩
      have hdecode : Text.decode? (s.toList.flatMap String.utf8EncodeChar) = some s :=
        Text.decode?_encode s
      rw [List.append_assoc, List.singleton_append, readString, hread, Option.bind_eq_bind,
        Option.bind_some]
      dsimp only
      rw [hbytes, Option.bind_some, hdecode, Option.pure_def]

/-! ## Documents -/

theorem skipBlanks_skipBlanks (bs : Bytes) : skipBlanks (skipBlanks bs) = skipBlanks bs :=
  List.dropWhile_idempotent isBlank bs

theorem readValue_skipBlanks (steps : Nat) (bs : Bytes) :
    readValue steps (skipBlanks bs) = readValue steps bs := by
  cases steps with
  | zero => rw [readValue, readValue]
  | succ steps => rw [readValue, readValue, skipBlanks_skipBlanks]

theorem readItems_skipBlanks (steps : Nat) (bs : Bytes) :
    readItems steps (skipBlanks bs) = readItems steps bs := by
  cases steps with
  | zero => rw [readItems, readItems]
  | succ steps => rw [readItems, readItems, readValue_skipBlanks]

theorem readMembers_skipBlanks (steps : Nat) (bs : Bytes) :
    readMembers steps (skipBlanks bs) = readMembers steps bs := by
  cases steps with
  | zero => rw [readMembers, readMembers]
  | succ steps => rw [readMembers, readMembers, skipBlanks_skipBlanks]

/-- What a text begins with tells numerals from all other values, and values from the end of an
array. -/
theorem SpellsNumeral.exists_cons {n : Numeral} {bs : Bytes} (h : SpellsNumeral n bs) :
    ∃ b more, bs = b :: more ∧ isBlank b = false ∧
      b ∉ ([0x6E, 0x74, 0x66, 0x22, 0x5B, 0x7B, 0x5D] : Bytes) := by
  obtain ⟨whole, fraction, exponent, hwhole, -, -, rfl⟩ := h
  obtain ⟨d, digits, rfl⟩ := hwhole.exists_cons
  cases n.negative with
  | true => exact ⟨0x2D, _, rfl, by decide⟩
  | false =>
      have hdigit : ∀ d : Fin 10, isBlank (digitByte d) = false ∧
          digitByte d ∉ ([0x6E, 0x74, 0x66, 0x22, 0x5B, 0x7B, 0x5D] : Bytes) := by
        decide
      exact ⟨digitByte d, _, rfl, hdigit d⟩

theorem Spells.exists_cons {j : Json} {bs : Bytes} (h : Spells j bs) :
    ∃ b more, bs = b :: more ∧ isBlank b = false ∧ b ≠ 0x5D := by
  cases h with
  | number h =>
      obtain ⟨b, more, rfl, hblank, hb⟩ := h.exists_cons
      exact ⟨b, more, rfl, hblank, fun he => hb (by simp [he])⟩
  | string h =>
      cases h
      exact ⟨_, _, rfl, by decide⟩
  | _ => exact ⟨_, _, rfl, by decide⟩

theorem readValue_quote (steps : Nat) (bs : Bytes) :
    readValue (steps + 1) (0x22 :: bs) = (readString bs).map fun r => (.string r.1, r.2) :=
  rfl

theorem readValue_bracket (steps : Nat) (bs : Bytes) :
    readValue (steps + 1) (0x5B :: bs) =
      match skipBlanks bs with
      | 0x5D :: rest => some (.array [], rest)
      | bs => (readItems steps bs).map fun r => (.array r.1, r.2) :=
  rfl

theorem readValue_brace (steps : Nat) (bs : Bytes) :
    readValue (steps + 1) (0x7B :: bs) =
      match skipBlanks bs with
      | 0x7D :: rest => some (.object [], rest)
      | bs => (readMembers steps bs).map fun r => (.object r.1, r.2) :=
  rfl

theorem readValue_numeral {n : Numeral} {bs rest : Bytes} (h : SpellsNumeral n bs)
    (hrest : EndsToken rest) (steps : Nat) :
    readValue (steps + 1) (bs ++ rest) = some (.number n, rest) := by
  have hread := readNumeral_append h hrest
  obtain ⟨b, more, rfl, hblank, hb⟩ := h.exists_cons
  simp only [List.mem_cons, List.not_mem_nil, or_false, not_or] at hb
  obtain ⟨hn, ht, hf, hquote, hbracket, hbrace, -⟩ := hb
  rw [List.cons_append] at hread ⊢
  rw [readValue, skipBlanks_cons_of_not hblank]
  split
  · exact absurd (List.cons.inj ‹_›).1 hn
  · exact absurd (List.cons.inj ‹_›).1 ht
  · exact absurd (List.cons.inj ‹_›).1 hf
  · exact absurd (List.cons.inj ‹_›).1 hquote
  · exact absurd (List.cons.inj ‹_›).1 hbracket
  · exact absurd (List.cons.inj ‹_›).1 hbrace
  · rw [hread]
    rfl

theorem readValue_string {s : String} {bs : Bytes} (h : SpellsString s bs) (rest : Bytes)
    (steps : Nat) : readValue (steps + 1) (bs ++ rest) = some (.string (some s), rest) := by
  obtain ⟨inner, rfl, hread⟩ := readString_append h rest
  rw [List.cons_append, readValue_quote, hread, Option.map_some]

theorem SpellsDocument.skipBlanks_append_ne {j : Json} {bs : Bytes} (h : SpellsDocument j bs)
    (rest more : Bytes) : skipBlanks (bs ++ rest) ≠ 0x5D :: more := by
  cases h with
  | padded hbefore h hafter =>
      obtain ⟨b, _, rfl, hblank, hb⟩ := h.exists_cons
      rw [List.append_assoc, List.append_assoc, skipBlanks_append hbefore, List.cons_append,
        skipBlanks_cons_of_not hblank]
      exact fun he => hb (List.cons.inj he).1

/-- An array with items is not taken for one without. -/
theorem SpellsItems.skipBlanks_append_ne {items : List Json} {bs : Bytes}
    (h : SpellsItems items bs) (rest more : Bytes) :
    skipBlanks (bs ++ rest) ≠ 0x5D :: more := by
  cases h with
  | last h =>
      rw [List.append_assoc]
      exact h.skipBlanks_append_ne _ more
  | more h _ =>
      rw [List.append_assoc]
      exact h.skipBlanks_append_ne _ more

theorem SpellsKey.skipBlanks_append_ne {key : String} {bs : Bytes} (h : SpellsKey key bs)
    (rest more : Bytes) : skipBlanks (bs ++ rest) ≠ 0x7D :: more := by
  cases h with
  | padded hbefore h hafter =>
      cases h
      rw [List.append_assoc, List.append_assoc, skipBlanks_append hbefore, List.cons_append,
        skipBlanks_cons_of_not (by decide)]
      exact fun he => absurd (List.cons.inj he).1 (by decide)

/-- An object with members is not taken for one without. -/
theorem SpellsMembers.skipBlanks_append_ne {members : List (Option String × Json)} {bs : Bytes}
    (h : SpellsMembers members bs) (rest more : Bytes) :
    skipBlanks (bs ++ rest) ≠ 0x7D :: more := by
  cases h with
  | last hkey _ =>
      rw [List.append_assoc]
      exact hkey.skipBlanks_append_ne _ more
  | more hkey _ _ =>
      rw [List.append_assoc]
      exact hkey.skipBlanks_append_ne _ more

theorem readItems_last {steps : Nat} {bs after rest : Bytes} {j : Json}
    (h : readValue steps bs = some (j, after ++ 0x5D :: rest)) (hafter : Blank after) :
    readItems (steps + 1) bs = some ([j], rest) := by
  rw [readItems, h]
  dsimp only
  rw [skipBlanks_append hafter]
  rfl

theorem readItems_more {steps : Nat} {bs after more rest : Bytes} {j : Json} {items : List Json}
    (h : readValue steps bs = some (j, after ++ 0x2C :: more)) (hafter : Blank after)
    (hmore : readItems steps more = some (items, rest)) :
    readItems (steps + 1) bs = some (j :: items, rest) := by
  rw [readItems, h]
  dsimp only
  rw [skipBlanks_append hafter]
  change (readItems steps more).map _ = _
  rw [hmore, Option.map_some]

theorem readMembers_quote (steps : Nat) (bs : Bytes) :
    readMembers (steps + 1) (0x22 :: bs) =
      match readString bs with
      | none => none
      | some (key, rest) =>
          match skipBlanks rest with
          | 0x3A :: rest =>
              match readValue steps rest with
              | none => none
              | some (j, rest) =>
                  match skipBlanks rest with
                  | 0x7D :: rest => some ([(key, j)], rest)
                  | 0x2C :: rest =>
                      (readMembers steps rest).map fun r => ((key, j) :: r.1, r.2)
                  | _ => none
          | _ => none :=
  rfl

theorem readMembers_key {key : String} {keyBytes : Bytes} (h : SpellsKey key keyBytes)
    {steps : Nat} {bs rest : Bytes} {j : Json} (hread : readValue steps bs = some (j, rest)) :
    readMembers (steps + 1) (keyBytes ++ 0x3A :: bs) =
      match skipBlanks rest with
      | 0x7D :: rest => some ([(some key, j)], rest)
      | 0x2C :: rest => (readMembers steps rest).map fun r => ((some key, j) :: r.1, r.2)
      | _ => none := by
  cases h with
  | @padded before keyBytes after hbefore h hafter =>
      obtain ⟨inner, rfl, hkey⟩ := readString_append h (after ++ 0x3A :: bs)
      have hcolon : skipBlanks (after ++ 0x3A :: bs) = 0x3A :: bs := by
        rw [skipBlanks_append hafter]
        rfl
      rw [List.append_assoc, List.cons_append, List.cons_append, List.append_assoc,
        ← readMembers_skipBlanks, skipBlanks_append hbefore, readMembers_skipBlanks,
        readMembers_quote, hkey]
      dsimp only
      rw [hcolon]
      change (match readValue steps bs with
        | none => none
        | some (j, rest) => _) = _
      rw [hread]

mutual

/-- A spelled value is read as the value.  As each step reads at least a byte, twice as many steps
as there are bytes are enough. -/
theorem readValue_append : ∀ {j : Json} {bs : Bytes}, Spells j bs → ∀ {steps : Nat}
    {rest : Bytes}, 2 * bs.length ≤ steps → EndsToken rest →
    readValue steps (bs ++ rest) = some (j, rest)
  | _, _, h, 0, _, hsteps, _ => by
      obtain ⟨b, more, rfl, -⟩ := h.exists_cons
      simp at hsteps
  | _, _, .null, _ + 1, _, _, _ => rfl
  | _, _, .yes, _ + 1, _, _, _ => rfl
  | _, _, .no, _ + 1, _, _, _ => rfl
  | _, _, .number h, steps + 1, _, _, hrest => readValue_numeral h hrest steps
  | _, _, .string h, steps + 1, rest, _, _ => readValue_string h rest steps
  | _, _, @Spells.emptyArray blank h, steps + 1, rest, _, _ => by
      rw [List.cons_append, List.append_assoc, readValue_bracket, skipBlanks_append h]
      rfl
  | _, _, @Spells.array items bs h, steps + 1, rest, hsteps, _ => by
      rw [List.length_cons] at hsteps
      rw [List.cons_append, readValue_bracket]
      split
      -- a bracket that closes at once would have to begin the first item
      · exact absurd ‹_› (h.skipBlanks_append_ne rest _)
      · rw [readItems_skipBlanks, readItems_append h rest (by omega), Option.map_some]
  | _, _, @Spells.emptyObject blank h, steps + 1, rest, _, _ => by
      rw [List.cons_append, List.append_assoc, readValue_brace, skipBlanks_append h]
      rfl
  | _, _, @Spells.object members bs h, steps + 1, rest, hsteps, _ => by
      rw [List.length_cons] at hsteps
      rw [List.cons_append, readValue_brace]
      split
      · exact absurd ‹_› (h.skipBlanks_append_ne rest _)
      · rw [readMembers_skipBlanks, readMembers_append h rest (by omega), Option.map_some]

/-- A spelled document is read as the document, up to the blanks that follow it. -/
theorem readValue_document : ∀ {j : Json} {bs : Bytes}, SpellsDocument j bs →
    ∀ (steps : Nat) (rest : Bytes), 2 * bs.length ≤ steps → EndsToken rest →
    ∃ after, Blank after ∧ readValue steps (bs ++ rest) = some (j, after ++ rest)
  | _, _, @SpellsDocument.padded j before bs after hbefore h hafter, steps, rest, hsteps,
    hrest => by
      simp only [List.length_append] at hsteps
      refine ⟨after, hafter, ?_⟩
      rw [List.append_assoc, List.append_assoc, ← readValue_skipBlanks, skipBlanks_append hbefore,
        readValue_skipBlanks]
      exact readValue_append h (by omega) (hafter.endsToken_append hrest)

theorem readItems_append : ∀ {items : List Json} {bs : Bytes}, SpellsItems items bs →
    ∀ {steps : Nat} (rest : Bytes), 2 * bs.length ≤ steps →
    readItems steps (bs ++ rest) = some (items, rest)
  | _, _, h, 0, _, hsteps => by
      cases h <;> simp at hsteps
  | _, _, @SpellsItems.last j bs h, steps + 1, rest, hsteps => by
      simp only [List.length_append, List.length_singleton] at hsteps
      obtain ⟨after, hafter, hread⟩ := readValue_document h steps
        (0x5D :: rest) (by omega) (endsToken_cons (by decide) rest)
      rw [List.append_assoc]
      exact readItems_last hread hafter
  | _, _, @SpellsItems.more j items bs more h hmore, steps + 1, rest, hsteps => by
      simp only [List.length_append, List.length_cons] at hsteps
      obtain ⟨after, hafter, hread⟩ := readValue_document h steps
        (0x2C :: (more ++ rest)) (by omega) (endsToken_cons (by decide) _)
      rw [List.append_assoc]
      exact readItems_more hread hafter (readItems_append hmore rest (by omega))

theorem readMembers_append : ∀ {members : List (Option String × Json)} {bs : Bytes},
    SpellsMembers members bs → ∀ {steps : Nat} (rest : Bytes), 2 * bs.length ≤ steps →
    readMembers steps (bs ++ rest) = some (members, rest)
  | _, _, h, 0, _, hsteps => by
      cases h <;> simp at hsteps
  | _, _, @SpellsMembers.last key j keyBytes bs hkey h, steps + 1, rest, hsteps => by
      simp only [List.length_append, List.length_cons] at hsteps
      obtain ⟨after, hafter, hread⟩ := readValue_document h steps
        (0x7D :: rest) (by omega) (endsToken_cons (by decide) rest)
      rw [List.append_assoc, List.cons_append, List.append_assoc, List.singleton_append,
        readMembers_key hkey hread, skipBlanks_append hafter]
      rfl
  | _, _, @SpellsMembers.more key j members keyBytes bs more hkey h hmore, steps + 1, rest,
    hsteps => by
      simp only [List.length_append, List.length_cons] at hsteps
      obtain ⟨after, hafter, hread⟩ := readValue_document h steps
        (0x2C :: (more ++ rest)) (by omega) (endsToken_cons (by decide) _)
      have hrest : readMembers steps (more ++ rest) = some (members, rest) :=
        readMembers_append hmore rest (by omega)
      rw [List.append_assoc, List.cons_append, List.append_assoc, List.cons_append,
        readMembers_key hkey hread, skipBlanks_append hafter]
      change (readMembers steps (more ++ rest)).map _ = _
      rw [hrest, Option.map_some]

end

theorem skipBlanks_eq_nil {blank : Bytes} (h : Blank blank) : skipBlanks blank = [] := by
  rw [← List.append_nil blank, skipBlanks_append h]
  rfl

/-- Every text of a document is read as the document. -/
theorem read?_of_spells {j : Json} {bs : Bytes} (h : SpellsDocument j bs) :
    read? bs = some j := by
  obtain ⟨after, hafter, hread⟩ := readValue_document h (2 * bs.length + 2) []
    (Nat.le_add_right _ 2) endsToken_nil
  rw [List.append_nil, List.append_nil] at hread
  rw [read?, hread]
  exact if_pos (skipBlanks_eq_nil hafter)

end Json

end GuestBridge
