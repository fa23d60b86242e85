import GuestBridge.Text.Utf8
import Mathlib.Tactic.SplitIfs

/-!
# Reading texts back

The bytes of a text are read as just that text: `decodeLossy_encode`, `decode?_encode`.  The first
byte of a character announces how many follow and between which bounds the next one is
(`leading_ofNat`), and each following byte adds its six bits (`readFollowing_ofNat`).
-/

namespace GuestBridge

namespace Text

/-- What a first byte announces, by its number. -/
theorem leading_ofNat {n : Nat} (h : n < 256) :
    leading (UInt8.ofNat n) =
      if n ≤ 0x7F then some (0, 0x80, 0xBF, n)
      else if 0xC2 ≤ n ∧ n ≤ 0xDF then some (1, 0x80, 0xBF, n - 0xC0)
      else if n = 0xE0 then some (2, 0xA0, 0xBF, 0)
      else if n = 0xED then some (2, 0x80, 0x9F, 0xD)
      else if 0xE1 ≤ n ∧ n ≤ 0xEF then some (2, 0x80, 0xBF, n - 0xE0)
      else if n = 0xF0 then some (3, 0x90, 0xBF, 0)
      else if 0xF1 ≤ n ∧ n ≤ 0xF3 then some (3, 0x80, 0xBF, n - 0xF0)
      else if n = 0xF4 then some (3, 0x80, 0x8F, 4)
      else none := by
  have hn : (UInt8.ofNat n).toNat = n := by
    rw [UInt8.toNat_ofNat']
    exact Nat.mod_eq_of_lt h
  simp only [leading, UInt8.le_iff_toNat_le, ← UInt8.toNat_inj, hn, UInt8.reduceToNat]

/-- A byte between the bounds adds six bits. -/
theorem readFollowing_ofNat {count n bits : Nat} {low high : UInt8} {bs : Bytes} (hn : n < 64)
    (hlow : low.toNat ≤ n + 0x80) (hhigh : n + 0x80 ≤ high.toNat) :
    readFollowing (count + 1) low high bits (UInt8.ofNat (n + 0x80) :: bs) =
      readFollowing count 0x80 0xBF (bits * 64 + n) bs := by
  have hb : (UInt8.ofNat (n + 0x80)).toNat = n + 0x80 := by
    rw [UInt8.toNat_ofNat']
    exact Nat.mod_eq_of_lt (by omega)
  have hbounds : low ≤ UInt8.ofNat (n + 0x80) ∧ UInt8.ofNat (n + 0x80) ≤ high :=
    ⟨UInt8.le_iff_toNat_le.2 (by omega), UInt8.le_iff_toNat_le.2 (by omega)⟩
  rw [readFollowing, if_pos hbounds, hb, Nat.add_sub_cancel]

/-- A later byte of a character is never out of bounds. -/
theorem readFollowing_mod {count v bits : Nat} {bs : Bytes} :
    readFollowing (count + 1) 0x80 0xBF bits (UInt8.ofNat (v % 64 + 0x80) :: bs) =
      readFollowing count 0x80 0xBF (bits * 64 + v % 64) bs := by
  have hlt : v % 64 < 64 := Nat.mod_lt v (by decide)
  exact readFollowing_ofNat hlt (Nat.le_add_left _ _) (by simp; omega)

theorem readChar_encode_one {v : Nat} (hv : v ≤ 0x7F) (rest : Bytes) :
    readChar (UInt8.ofNat v) rest = (some (Char.ofNat v), rest) := by
  rw [readChar, leading_ofNat (by omega), if_pos hv]
  rfl

theorem readChar_encode_two {v : Nat} (hv : 0x80 ≤ v) (hv' : v ≤ 0x7FF) (rest : Bytes) :
    readChar (UInt8.ofNat (v / 64 % 32 + 0xC0)) (UInt8.ofNat (v % 64 + 0x80) :: rest) =
      (some (Char.ofNat v), rest) := by
  have hbits : (v / 64 % 32 + 0xC0 - 0xC0) * 64 + v % 64 = v := by omega
  rw [readChar, leading_ofNat (by omega), if_neg (by omega), if_pos (by omega)]
  simp only [readFollowing_mod, hbits]
  rfl

theorem readChar_encode_three {v : Nat} (hv : 0x800 ≤ v) (hv' : v ≤ 0xFFFF)
    (hvalid : v < 0xD800 ∨ 0xDFFF < v) (rest : Bytes) :
    readChar (UInt8.ofNat (v / 4096 % 16 + 0xE0))
        (UInt8.ofNat (v / 64 % 64 + 0x80) :: UInt8.ofNat (v % 64 + 0x80) :: rest) =
      (some (Char.ofNat v), rest) := by
  obtain ⟨low, high, hleading, hlow, hhigh⟩ : ∃ low high : UInt8,
      leading (UInt8.ofNat (v / 4096 % 16 + 0xE0)) = some (2, low, high, v / 4096) ∧
        low.toNat ≤ v / 64 % 64 + 0x80 ∧ v / 64 % 64 + 0x80 ≤ high.toNat := by
    rw [leading_ofNat (by omega), if_neg (by omega), if_neg (by omega)]
    by_cases hfirst : v / 4096 = 0
    · refine ⟨0xA0, 0xBF, by rw [if_pos (by omega), hfirst], ?_⟩
      simp
      omega
    by_cases hlast : v / 4096 = 13
    · refine ⟨0x80, 0x9F, by rw [if_neg (by omega), if_pos (by omega), hlast], ?_⟩
      simp
      omega
    · refine ⟨0x80, 0xBF, ?_, ?_⟩
      · rw [if_neg (by omega), if_neg (by omega), if_pos (by omega),
          show v / 4096 % 16 + 0xE0 - 0xE0 = v / 4096 by omega]
      · simp
        omega
  have hbits : (v / 4096 * 64 + v / 64 % 64) * 64 + v % 64 = v := by omega
  simp only [readChar, hleading, readFollowing_ofNat (Nat.mod_lt (v / 64) (by decide)) hlow hhigh,
    readFollowing_mod, hbits]
  rfl

theorem readChar_encode_four {v : Nat} (hv : 0x10000 ≤ v) (hv' : v ≤ 0x10FFFF) (rest : Bytes) :
    readChar (UInt8.ofNat (v / 262144 % 8 + 0xF0))
        (UInt8.ofNat (v / 4096 % 64 + 0x80) :: UInt8.ofNat (v / 64 % 64 + 0x80) ::
          UInt8.ofNat (v % 64 + 0x80) :: rest) =
      (some (Char.ofNat v), rest) := by
  obtain ⟨low, high, hleading, hlow, hhigh⟩ : ∃ low high : UInt8,
      leading (UInt8.ofNat (v / 262144 % 8 + 0xF0)) = some (3, low, high, v / 262144) ∧
        low.toNat ≤ v / 4096 % 64 + 0x80 ∧ v / 4096 % 64 + 0x80 ≤ high.toNat := by
    rw [leading_ofNat (by omega), if_neg (by omega), if_neg (by omega), if_neg (by omega),
      if_neg (by omega), if_neg (by omega)]
    by_cases hfirst : v / 262144 = 0
    · refine ⟨0x90, 0xBF, by rw [if_pos (by omega), hfirst], ?_⟩
      simp
      omega
    by_cases hlast : v / 262144 = 4
    · refine ⟨0x80, 0x8F, ?_, ?_⟩
      · rw [if_neg (by omega), if_neg (by omega), if_pos (by omega), hlast]
      · simp
        omega
    · refine ⟨0x80, 0xBF, ?_, ?_⟩
      · rw [if_neg (by omega), if_pos (by omega),
          show v / 262144 % 8 + 0xF0 - 0xF0 = v / 262144 by omega]
      · simp
        omega
  have hbits : ((v / 262144 * 64 + v / 4096 % 64) * 64 + v / 64 % 64) * 64 + v % 64 = v := by omega
  simp only [readChar, hleading, readFollowing_ofNat (Nat.mod_lt (v / 4096) (by decide)) hlow hhigh,
    readFollowing_mod, hbits]
  rfl

/-- A character is read from its bytes, whatever follows them. -/
theorem readChars_encode_append (c : Char) (rest : Bytes) :
    readChars (String.utf8EncodeChar c ++ rest) = some c :: readChars rest := by
  have hvalid : c.val.toNat < 0xD800 ∨ 0xDFFF < c.val.toNat ∧ c.val.toNat < 0x110000 := c.valid
  have hc : Char.ofNat c.val.toNat = c := Char.ofNat_toNat c
  rw [String.utf8EncodeChar]
  split_ifs with hone htwo hthree
  · rw [List.singleton_append, readChars, readChar_encode_one hone, hc]
  · rw [List.cons_append, List.singleton_append, readChars,
      readChar_encode_two (by omega) htwo, hc]
  · rw [List.cons_append, List.cons_append, List.singleton_append, readChars,
      readChar_encode_three (by omega) hthree (by omega), hc]
  · rw [List.cons_append, List.cons_append, List.cons_append, List.singleton_append, readChars,
      readChar_encode_four (by omega) (by omega), hc]

theorem readChars_encode (text : String) : readChars (encode text) = text.toList.map some := by
  rw [encode]
  induction text.toList with
  | nil => simp [readChars]
  | cons c cs ih => rw [List.flatMap_cons, readChars_encode_append, ih, List.map_cons]

/-- The bytes of a text are read as that text. -/
theorem decodeLossy_encode (text : String) : decodeLossy (encode text) = text := by
  rw [decodeLossy, readChars_encode, List.map_map]
  simp [Function.comp_def]

/-- The bytes of a text are text throughout. -/
theorem decode?_encode (text : String) : decode? (encode text) = some text := by
  have hall : ∀ cs : List Char, (cs.map some).mapM id = some cs := by
    intro cs
    induction cs with
    | nil => rfl
    | cons c cs ih => simp [ih]
  rw [decode?, readChars_encode, hall, Option.map_some, String.ofList_toList]

/-- Only the empty text has no bytes. -/
theorem encode_eq_nil_iff {text : String} : encode text = [] ↔ text = "" := by
  constructor
  · intro h
    rw [← decodeLossy_encode text, ← decodeLossy_encode "", h]
    rfl
  · rintro rfl
    rfl

end Text

end GuestBridge
