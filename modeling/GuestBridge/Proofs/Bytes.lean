import GuestBridge.Layout.Codec
import GuestBridge.Proofs.Text.Utf8

/-!
# Bytes of values and buffers

A value is read back from its bytes (`Value.ofBytes_bytes`), and its bytes are those it was read
from (`Primitive.bytes_ofBytes`).  An assembled buffer holds each of its parts when these stand apart
inside it (`slice_assemble`), and zeros between them (`getElem?_assemble`).
-/

namespace GuestBridge

namespace Bytes

/-! ## Numbers -/

@[simp]
theorem length_ofUInt32 (w : UInt32) : (ofUInt32 w).length = 4 :=
  length_toLittleEndian 4 w.toNat

@[simp]
theorem length_ofUInt64 (w : UInt64) : (ofUInt64 w).length = 8 :=
  length_toLittleEndian 8 w.toNat

theorem ofLittleEndian_take_toLittleEndian {width n : Nat} (h : n < Nat.pow 256 width)
    (rest : Bytes) : ofLittleEndian ((toLittleEndian width n ++ rest).take width) = n := by
  rw [List.take_left' (length_toLittleEndian width n), ofLittleEndian_toLittleEndian,
    Nat.mod_eq_of_lt h]

theorem ofLittleEndian_take_self {width n : Nat} (h : n < Nat.pow 256 width) :
    ofLittleEndian ((toLittleEndian width n).take width) = n := by
  rw [← List.append_nil (toLittleEndian width n), ofLittleEndian_take_toLittleEndian h]

/-- A 32-bit word is read from its bytes, whatever follows them. -/
theorem toUInt32_ofUInt32_append (w : UInt32) (rest : Bytes) :
    (ofUInt32 w ++ rest).toUInt32 = w := by
  rw [toUInt32, ofUInt32, ofLittleEndian_take_toLittleEndian w.toNat_lt, UInt32.ofNat_toNat]

@[simp]
theorem toUInt32_ofUInt32 (w : UInt32) : (ofUInt32 w).toUInt32 = w := by
  rw [toUInt32, ofUInt32, ofLittleEndian_take_self w.toNat_lt, UInt32.ofNat_toNat]

@[simp]
theorem toUInt64_ofUInt64 (w : UInt64) : (ofUInt64 w).toUInt64 = w := by
  rw [toUInt64, ofUInt64, ofLittleEndian_take_self w.toNat_lt, UInt64.ofNat_toNat]

theorem ofLittleEndian_lt (bs : Bytes) : ofLittleEndian bs < Nat.pow 256 bs.length := by
  rw [← toLittleEndian_ofLittleEndian bs, ofLittleEndian_toLittleEndian, length_toLittleEndian]
  exact Nat.mod_lt _ (Nat.pow_pos (by decide))

/-- A 32-bit word is written back as the bytes it was read from. -/
theorem ofUInt32_toUInt32 {bs : Bytes} (h : bs.length = 4) : ofUInt32 bs.toUInt32 = bs := by
  have hlt := ofLittleEndian_lt bs
  have hwrite := toLittleEndian_ofLittleEndian bs
  rw [h] at hlt hwrite
  rw [ofUInt32, toUInt32, List.take_of_length_le (Nat.le_of_eq h), UInt32.toNat_ofNat_of_lt' hlt, hwrite]

/-- A 64-bit word is written back as the bytes it was read from. -/
theorem ofUInt64_toUInt64 {bs : Bytes} (h : bs.length = 8) : ofUInt64 bs.toUInt64 = bs := by
  have hlt := ofLittleEndian_lt bs
  have hwrite := toLittleEndian_ofLittleEndian bs
  rw [h] at hlt hwrite
  rw [ofUInt64, toUInt64, List.take_of_length_le (Nat.le_of_eq h), UInt64.toNat_ofNat_of_lt' hlt, hwrite]

/-! ## Slices -/

variable {bs part : Bytes} {start size : Nat}

theorem getElem?_slice (bs : Bytes) (start size i : Nat) :
    (bs.slice start size)[i]? = if i < size then bs[start + i]? else none := by
  rw [slice, List.getElem?_take, List.getElem?_drop]

/-- A byte of a slice stands where the slice starts. -/
theorem getElem?_of_slice {i : Nat} (h : bs.slice start size = part) (hstart : start ≤ i)
    (hstop : i < start + size) : bs[i]? = part[i - start]? := by
  rw [← h, getElem?_slice, if_pos (by omega), Nat.add_sub_cancel' hstart]

theorem length_slice (h : start + size ≤ bs.length) : (bs.slice start size).length = size := by
  rw [slice, List.length_take, List.length_drop]
  omega

/-- The word in a slice is the one that starts there. -/
theorem toUInt32_slice (bs : Bytes) (start : Nat) :
    (bs.slice start 4).toUInt32 = toUInt32 (bs.drop start) := by
  rw [toUInt32, toUInt32, slice, List.take_take, Nat.min_self]

/-- A slice that ends before a cut is left alone. -/
theorem slice_take {stop : Nat} (h : start + size ≤ stop) :
    slice (bs.take stop) start size = bs.slice start size := by
  refine List.ext_getElem? fun i => ?_
  rw [getElem?_slice, getElem?_slice]
  split_ifs with hi
  · exact List.getElem?_take_of_lt (by omega)
  · rfl

theorem length_splice (h : start + part.length ≤ bs.length) :
    (bs.splice start part).length = bs.length := by
  rw [splice, List.length_append, List.length_append, List.length_take, List.length_drop]
  omega

theorem getElem?_splice (h : start + part.length ≤ bs.length) (i : Nat) :
    (bs.splice start part)[i]? =
      if start ≤ i ∧ i < start + part.length then part[i - start]? else bs[i]? := by
  have htake : (bs.take start).length = start := by
    rw [List.length_take]
    omega
  rw [splice, List.append_assoc]
  by_cases hbefore : i < start
  · rw [List.getElem?_append_left (by omega), List.getElem?_take_of_lt hbefore, if_neg (by omega)]
  rw [List.getElem?_append_right (by omega), htake]
  by_cases hin : i < start + part.length
  · rw [List.getElem?_append_left (by omega), if_pos (by omega)]
  · rw [List.getElem?_append_right (by omega), List.getElem?_drop, if_neg (by omega)]
    congr 1
    omega

/-- What is put into a buffer stands there. -/
theorem slice_splice_self (h : start + part.length ≤ bs.length) :
    (bs.splice start part).slice start part.length = part := by
  refine List.ext_getElem? fun i => ?_
  rw [getElem?_slice, getElem?_splice h]
  split_ifs with hi hin
  · rw [Nat.add_sub_cancel_left]
  · omega
  · exact (List.getElem?_eq_none (Nat.not_lt.1 hi)).symm

/-- What stands apart from it is left alone. -/
theorem slice_splice_of_apart (h : start + part.length ≤ bs.length) {other : Nat}
    (hapart : other + size ≤ start ∨ start + part.length ≤ other) :
    (bs.splice start part).slice other size = bs.slice other size := by
  refine List.ext_getElem? fun i => ?_
  rw [getElem?_slice, getElem?_slice, getElem?_splice h]
  split_ifs with hi hin
  · omega
  · rfl
  · rfl

/-- Two parts that are put one behind the other are put at once. -/
theorem splice_splice {next : Bytes} (h : start + part.length + next.length ≤ bs.length) :
    (bs.splice start part).splice (start + part.length) next = bs.splice start (part ++ next) := by
  have hpart : start + part.length ≤ bs.length := by omega
  have hnext : start + part.length + next.length ≤ (bs.splice start part).length := by
    rwa [length_splice hpart]
  have hboth : start + (part ++ next).length ≤ bs.length := by
    rw [List.length_append]
    omega
  refine List.ext_getElem? fun i => ?_
  rw [getElem?_splice hnext, getElem?_splice hpart, getElem?_splice hboth, List.length_append]
  by_cases hfirst : start ≤ i ∧ i < start + part.length
  · rw [if_neg (by omega), if_pos hfirst, if_pos (by omega), List.getElem?_append_left (by omega)]
  by_cases hsecond : start + part.length ≤ i ∧ i < start + part.length + next.length
  · rw [if_pos hsecond, if_pos (by omega), List.getElem?_append_right (by omega), Nat.sub_sub]
  · rw [if_neg hsecond, if_neg hfirst, if_neg (by omega)]

end Bytes

/-! ## Values -/

/-- A value is read back from its bytes as a value of its kind. -/
theorem Value.ofBytes_bytes (v : Value) : Value.ofBytes v.kind v.bytes = v := by
  cases v with
  | u32 v => rw [kind, bytes, ofBytes, Bytes.toUInt32_ofUInt32]
  | u64 v => rw [kind, bytes, ofBytes, Bytes.toUInt64_ofUInt64]
  | i32 v => rw [kind, bytes, ofBytes, Bytes.toUInt32_ofUInt32, Int32.toInt32_toUInt32]
  | i64 v => rw [kind, bytes, ofBytes, Bytes.toUInt64_ofUInt64, Int64.toInt64_toUInt64]
  | f32 v =>
      rw [kind, bytes, ofBytes, Bytes.ofLittleEndian_take_self v.bits.isLt, BitVec.ofNat_toNat]
      exact congrArg (fun bits => f32 ⟨bits⟩) (BitVec.setWidth_eq v.bits)
  | f64 v =>
      rw [kind, bytes, ofBytes, Bytes.ofLittleEndian_take_self v.bits.isLt, BitVec.ofNat_toNat]
      exact congrArg (fun bits => f64 ⟨bits⟩) (BitVec.setWidth_eq v.bits)
  | string v => rw [kind, bytes, ofBytes, Text.decodeLossy_encode]

@[simp]
theorem Value.kind_ofBytes (kind : Kind) (raw : Bytes) : (ofBytes kind raw).kind = kind := by
  cases kind <;> rfl

/-- The bytes of a primitive type are those of the value that they hold, unless they are a slice. -/
theorem Primitive.bytes_ofBytes {p : Primitive} {kind : Kind} {raw : Bytes}
    (hkind : p.boundaryKind = some kind) (hslice : p.isSlice = false)
    (hlength : raw.length = p.size.toNat) : (Value.ofBytes kind raw).bytes = raw := by
  have hsize : (kind ∈ [.u32, .i32, .f32] ∧ raw.length = 4) ∨
      (kind ∈ [.u64, .i64, .f64] ∧ raw.length = 8) := by
    rw [hlength]
    cases p <;> simp [boundaryKind, isSlice, size] at hkind hslice ⊢ <;> simp [← hkind]
  rcases hsize with ⟨hkind, hfour⟩ | ⟨hkind, height⟩
  · have hword := Bytes.ofUInt32_toUInt32 hfour
    simp only [List.mem_cons, List.not_mem_nil, or_false] at hkind
    rcases hkind with rfl | rfl | rfl
    · exact hword
    · exact (congrArg Bytes.ofUInt32 (UInt32.toUInt32_toInt32 _)).trans hword
    · exact hword
  · have hword := Bytes.ofUInt64_toUInt64 height
    simp only [List.mem_cons, List.not_mem_nil, or_false] at hkind
    rcases hkind with rfl | rfl | rfl
    · exact hword
    · exact (congrArg Bytes.ofUInt64 (UInt64.toUInt64_toInt64 _)).trans hword
    · exact hword

/-- A value that is laid out in place takes the bytes of its type. -/
theorem Primitive.size_of_boundaryKind {p : Primitive} {v : Value}
    (h : p.boundaryKind = some v.kind) (hstring : v.kind ≠ .string) :
    v.bytes.length = p.size.toNat := by
  cases p <;> cases v <;> simp [boundaryKind, Value.kind] at h hstring <;>
    simp [Value.bytes, size]

/-! ## Buffers -/

theorem length_foldl_splice {parts : List (Nat × Bytes)} {buffer : Bytes}
    (h : ∀ p ∈ parts, p.1 + p.2.length ≤ buffer.length) :
    (parts.foldl (fun buffer part => buffer.splice part.1 part.2) buffer).length =
      buffer.length := by
  induction parts generalizing buffer with
  | nil => rfl
  | cons p rest ih =>
      rw [List.forall_mem_cons] at h
      have hlength := Bytes.length_splice h.1
      rw [List.foldl_cons, ih (by rw [hlength]; exact h.2), hlength]

/-- A place that every part stands apart from is left alone. -/
theorem slice_foldl_splice {parts : List (Nat × Bytes)} {buffer : Bytes} {start size : Nat}
    (hinside : ∀ p ∈ parts, p.1 + p.2.length ≤ buffer.length)
    (hapart : ∀ p ∈ parts, start + size ≤ p.1 ∨ p.1 + p.2.length ≤ start) :
    (parts.foldl (fun buffer part => buffer.splice part.1 part.2) buffer).slice start size =
      buffer.slice start size := by
  induction parts generalizing buffer with
  | nil => rfl
  | cons p rest ih =>
      rw [List.forall_mem_cons] at hinside hapart
      have hrest : ∀ q ∈ rest, q.1 + q.2.length ≤ (buffer.splice p.1 p.2).length := by
        rw [Bytes.length_splice hinside.1]
        exact hinside.2
      rw [List.foldl_cons, ih hrest hapart.2, Bytes.slice_splice_of_apart hinside.1 hapart.1]

/-- Of parts that stand one after the other, each is held by the buffer. -/
theorem slice_foldl_splice_of_mem {parts : List (Nat × Bytes)} {buffer : Bytes}
    (hinside : ∀ p ∈ parts, p.1 + p.2.length ≤ buffer.length)
    (hapart : parts.Pairwise fun p q => p.1 + p.2.length ≤ q.1) {p : Nat × Bytes} (hp : p ∈ parts) :
    (parts.foldl (fun buffer part => buffer.splice part.1 part.2) buffer).slice p.1 p.2.length =
      p.2 := by
  induction parts generalizing buffer with
  | nil => cases hp
  | cons q rest ih =>
      rw [List.forall_mem_cons] at hinside
      rw [List.pairwise_cons] at hapart
      have hrest : ∀ q' ∈ rest, q'.1 + q'.2.length ≤ (buffer.splice q.1 q.2).length := by
        rw [Bytes.length_splice hinside.1]
        exact hinside.2
      rw [List.foldl_cons]
      rcases List.mem_cons.1 hp with rfl | hp
      · rw [slice_foldl_splice hrest fun q' hq' => .inl (hapart.1 q' hq'),
          Bytes.slice_splice_self hinside.1]
      · exact ih hrest hapart.2 hp

section Assemble

variable {size : Nat} {parts : List (Nat × Bytes)} (hinside : ∀ p ∈ parts, p.1 + p.2.length ≤ size)
include hinside

theorem length_assemble : (assemble size parts).length = size := by
  rw [assemble, length_foldl_splice (by rwa [List.length_replicate]), List.length_replicate]

/-- A buffer holds each of its parts. -/
theorem slice_assemble (hapart : parts.Pairwise fun p q => p.1 + p.2.length ≤ q.1)
    {p : Nat × Bytes} (hp : p ∈ parts) : (assemble size parts).slice p.1 p.2.length = p.2 :=
  slice_foldl_splice_of_mem (by rwa [List.length_replicate]) hapart hp

/-- Where no part stands, a buffer is as it was made. -/
theorem getElem?_assemble {i : Nat} (hi : i < size)
    (hgap : ∀ p ∈ parts, i < p.1 ∨ p.1 + p.2.length ≤ i) : (assemble size parts)[i]? = some 0 := by
  have hslice : (assemble size parts).slice i 1 = Bytes.slice (List.replicate size 0) i 1 :=
    slice_foldl_splice (by rwa [List.length_replicate]) hgap
  rw [Bytes.getElem?_of_slice hslice (Nat.le_refl i) (Nat.lt_succ_self i),
    ← Bytes.getElem?_of_slice rfl (Nat.le_refl i) (Nat.lt_succ_self i), List.getElem?_replicate,
    if_pos hi]

end Assemble

end GuestBridge
