import GuestBridge.Json.Decoder
import GuestBridge.Proofs.Json.Reading

/-!
# Reading what is written

A sound document is written as one of its texts (`Json.spells_chars`), so it is read back
(`Json.read?_write`).
-/

namespace GuestBridge

namespace Json

/-! ## Numerals -/

theorem numberOf_append (ds : List (Fin 10)) (d : Fin 10) :
    numberOf (ds ++ [d]) = numberOf ds * 10 + d.val := by
  rw [numberOf, List.foldl_append]
  rfl

theorem utf8EncodeChar_digitChar : ∀ d : Fin 10,
    String.utf8EncodeChar (Nat.digitChar d.val) = [digitByte d] ∧
      String.utf8EncodeChar (Numeral.digitChar d) = [digitByte d] := by
  decide

/-- A number is written with its digits, the first of which is a zero only for zero. -/
theorem exists_digits (n : Nat) : ∃ d ds,
    (Nat.toDigits 10 n).flatMap String.utf8EncodeChar = (d :: ds).map digitByte ∧
      numberOf (d :: ds) = n ∧ (d = 0 → n = 0 ∧ ds = []) := by
  induction n using Nat.strongRecOn with
  | ind n ih =>
      rw [Nat.toDigits_eq_if (by decide)]
      split_ifs with hn
      · refine ⟨⟨n, hn⟩, [], ?_, ?_, fun hzero => ⟨congrArg Fin.val hzero, rfl⟩⟩
        · rw [List.flatMap_singleton, (utf8EncodeChar_digitChar ⟨n, hn⟩).1]
          rfl
        · simp [numberOf]
      · obtain ⟨d, ds, hbytes, hnumber, hzero⟩ := ih (n / 10) (by omega)
        have hlast : n % 10 < 10 := Nat.mod_lt n (by decide)
        refine ⟨d, ds ++ [⟨n % 10, hlast⟩], ?_, ?_, fun h => ?_⟩
        · rw [List.flatMap_append, hbytes, List.flatMap_singleton,
            (utf8EncodeChar_digitChar ⟨n % 10, hlast⟩).1, ← List.cons_append, List.map_append]
          rfl
        · rw [← List.cons_append, numberOf_append, hnumber]
          exact Nat.div_add_mod' n 10
        · have := (hzero h).1
          omega

theorem spellsWhole_toDigits (n : Nat) :
    SpellsWhole n ((Nat.toDigits 10 n).flatMap String.utf8EncodeChar) := by
  obtain ⟨d, ds, hbytes, rfl, hzero⟩ := exists_digits n
  rw [hbytes]
  by_cases hd : d = 0
  · obtain ⟨-, rfl⟩ := hzero hd
    subst hd
    exact .zero
  · exact .digits ds hd

theorem spellsExponent_exponentChars (e : Int) :
    SpellsExponent (some e) ((Numeral.exponentChars true e).flatMap String.utf8EncodeChar) := by
  obtain ⟨d, ds, hbytes, hnumber, -⟩ := exists_digits e.natAbs
  have hletter : (0x65 : UInt8) = 0x65 ∨ (0x65 : UInt8) = 0x45 := .inl rfl
  rw [Numeral.exponentChars, List.cons_append, List.flatMap_cons, List.flatMap_append, hbytes]
  by_cases he : e < 0
  · have hspelled := SpellsExponent.digits hletter .minus (List.cons_ne_nil d ds)
    rw [hnumber, if_pos rfl, show -(e.natAbs : Int) = e by omega] at hspelled
    rw [if_pos he]
    exact hspelled
  · have hspelled := SpellsExponent.digits hletter .plus (List.cons_ne_nil d ds)
    rw [hnumber, if_neg Bool.false_ne_true, show (e.natAbs : Int) = e by omega] at hspelled
    rw [if_neg he]
    exact hspelled

theorem spellsFraction_digitChars (ds : List (Fin 10)) :
    SpellsFraction ds
      ((if ds.isEmpty then [] else '.' :: ds.map Numeral.digitChar).flatMap
        String.utf8EncodeChar) := by
  have hdigits : ∀ ds : List (Fin 10),
      (ds.map Numeral.digitChar).flatMap String.utf8EncodeChar = ds.map digitByte := by
    intro ds
    induction ds with
    | nil => rfl
    | cons d ds ih =>
        rw [List.map_cons, List.flatMap_cons, (utf8EncodeChar_digitChar d).2, ih]
        rfl
  cases ds with
  | nil => exact .none
  | cons d ds =>
      rw [List.isEmpty_cons, if_neg Bool.false_ne_true, List.flatMap_cons, hdigits]
      exact .digits (List.cons_ne_nil d ds)

theorem spellsNumeral_chars (n : Numeral) :
    SpellsNumeral n ((n.chars true).flatMap String.utf8EncodeChar) := by
  obtain ⟨negative, whole, fraction, exponent⟩ := n
  have hwhole := spellsWhole_toDigits whole
  have hfraction := spellsFraction_digitChars fraction
  cases exponent with
  | none =>
      refine ⟨_, _, _, hwhole, hfraction, .none, ?_⟩
      simp only [Numeral.chars, List.flatMap_append, List.append_assoc]
      cases negative <;> rfl
  | some e =>
      refine ⟨_, _, _, hwhole, hfraction, spellsExponent_exponentChars e, ?_⟩
      simp only [Numeral.chars, List.flatMap_append, List.append_assoc]
      cases negative <;> rfl

/-! ## Strings -/

theorem exists_spellsHexDigit {n : Nat} (h : n < 16) :
    ∃ b, String.utf8EncodeChar (Bytes.hexDigit n) = [b] ∧ SpellsHexDigit n b := by
  by_cases hn : n < 10
  · refine ⟨_, ?_, .digit hn⟩
    interval_cases n <;> decide
  · obtain ⟨k, rfl⟩ := Nat.exists_eq_add_of_le (Nat.not_lt.1 hn)
    have hk : k < 6 := by omega
    refine ⟨_, ?_, .small hk⟩
    interval_cases k <;> decide

theorem spellsChar_escapeChar (c : Char) :
    SpellsChar c ((escapeChar c).flatMap String.utf8EncodeChar) := by
  unfold escapeChar
  split_ifs with hquote hbackslash hb hf hn hr ht hcontrol
  · subst hquote
    exact .letter (by decide : ('"', (0x22 : UInt8)) ∈ letterEscapes)
  · subst hbackslash
    exact .letter (by decide : ('\\', (0x5C : UInt8)) ∈ letterEscapes)
  · subst hb
    exact .letter (by decide : ('\x08', (0x62 : UInt8)) ∈ letterEscapes)
  · subst hf
    exact .letter (by decide : ('\x0c', (0x66 : UInt8)) ∈ letterEscapes)
  · subst hn
    exact .letter (by decide : ('\n', (0x6E : UInt8)) ∈ letterEscapes)
  · subst hr
    exact .letter (by decide : ('\r', (0x72 : UInt8)) ∈ letterEscapes)
  · subst ht
    exact .letter (by decide : ('\t', (0x74 : UInt8)) ∈ letterEscapes)
  · obtain ⟨b₁, hb₁, h₁⟩ := exists_spellsHexDigit (n := c.toNat / 16) (by omega)
    obtain ⟨b₀, hb₀, h₀⟩ := exists_spellsHexDigit (n := c.toNat % 16) (by omega)
    have hzero : SpellsHexDigit 0 (digitByte 0) := .digit (by decide)
    have hunit := SpellsUnit.digits hzero hzero h₁ h₀
    have hcode : ((0 * 16 + 0) * 16 + c.toNat / 16) * 16 + c.toNat % 16 = c.toNat := by omega
    rw [hcode] at hunit
    have hspelled := SpellsChar.unit hunit
    simp only [List.flatMap_cons, List.flatMap_nil, hb₁, hb₀]
    exact hspelled
  · simp only [List.flatMap_cons, List.flatMap_nil, List.append_nil]
    exact .plain (Nat.not_lt.1 hcontrol) hquote hbackslash

theorem spellsString_stringChars (s : String) :
    SpellsString s ((stringChars (some s)).flatMap String.utf8EncodeChar) := by
  have hinner : ∀ cs : List Char, SpellsChars cs
      ((cs.flatMap escapeChar).flatMap String.utf8EncodeChar) := by
    intro cs
    induction cs with
    | nil => exact .nil
    | cons c cs ih =>
        rw [List.flatMap_cons, List.flatMap_append]
        exact .cons (spellsChar_escapeChar c) ih
  rw [stringChars, List.cons_append, List.flatMap_cons, List.flatMap_append]
  exact .quoted (hinner s.toList)

/-! ## Documents -/

theorem blank_nil : Blank [] := nofun

theorem Spells.document {j : Json} {bs : Bytes} (h : Spells j bs) : SpellsDocument j bs := by
  have hpadded := SpellsDocument.padded blank_nil h blank_nil
  rwa [List.nil_append, List.append_nil] at hpadded

theorem SpellsString.key {key : String} {bs : Bytes} (h : SpellsString key bs) :
    SpellsKey key bs := by
  have hpadded := SpellsKey.padded blank_nil h blank_nil
  rwa [List.nil_append, List.append_nil] at hpadded

mutual

/-- A sound document is written as one of its texts. -/
theorem spells_chars : ∀ {depth : Nat} {j : Json}, j.isSound depth = true →
    Spells j (j.chars.flatMap String.utf8EncodeChar)
  | _, .null, _ => .null
  | _, .bool true, _ => .yes
  | _, .bool false, _ => .no
  | _, .number n, _ => .number (spellsNumeral_chars n)
  | _, .string (some s), _ => .string (spellsString_stringChars s)
  | _ + 1, .array [], _ => .emptyArray blank_nil
  | depth + 1, .array (j :: items), h => by
      simp only [isSound, areSound, Bool.and_eq_true] at h
      rw [chars, List.flatMap_cons, List.flatMap_append]
      exact .array (spellsItems_itemChars (spells_chars h.1) h.2)
  | _ + 1, .object [], _ => .emptyObject blank_nil
  | depth + 1, .object ((some key, j) :: members), h => by
      simp only [isSound, areSoundMembers, Bool.and_eq_true] at h
      rw [chars, List.flatMap_cons, List.flatMap_append, List.flatMap_cons, List.flatMap_append]
      exact .object
        (spellsMembers_memberChars (spellsString_stringChars key) (spells_chars h.1.2) h.2)
  | _ + 1, .object ((none, _) :: _), h => by simp [isSound, areSoundMembers] at h

theorem spellsItems_itemChars : ∀ {depth : Nat} {items : List Json} {j : Json} {bs : Bytes},
    Spells j bs → areSound depth items = true →
    SpellsItems (j :: items) (bs ++ (itemChars items).flatMap String.utf8EncodeChar)
  | _, [], _, _, hj, _ => .last hj.document
  | depth, next :: items, _, _, hj, h => by
      rw [areSound, Bool.and_eq_true] at h
      rw [itemChars, List.flatMap_cons, List.flatMap_append]
      exact .more hj.document (spellsItems_itemChars (spells_chars h.1) h.2)

theorem spellsMembers_memberChars : ∀ {depth : Nat} {members : List (Option String × Json)}
    {key : String} {keyBytes : Bytes} {j : Json} {bs : Bytes}, SpellsString key keyBytes →
    Spells j bs → areSoundMembers depth members = true →
    SpellsMembers ((some key, j) :: members)
      (keyBytes ++ 0x3A :: (bs ++ (memberChars members).flatMap String.utf8EncodeChar))
  | _, [], _, _, _, _, hkey, hj, _ => .last hkey.key hj.document
  | depth, (some key, next) :: members, _, _, _, _, hkey, hj, h => by
      simp only [areSoundMembers, Bool.and_eq_true] at h
      rw [memberChars, List.flatMap_cons, List.flatMap_append, List.flatMap_cons,
        List.flatMap_append]
      exact .more hkey.key hj.document
        (spellsMembers_memberChars (spellsString_stringChars key) (spells_chars h.1.2) h.2)
  | _, (none, _) :: _, _, _, _, _, _, _, h => by simp [areSoundMembers] at h

end

/-- A sound document is read back. -/
theorem read?_write {depth : Nat} {j : Json} (h : j.isSound depth = true) :
    read? (Text.encode j.write) = some j := by
  rw [Text.encode, write, String.toList_ofList]
  exact read?_of_spells (spells_chars h).document

end Json

end GuestBridge
