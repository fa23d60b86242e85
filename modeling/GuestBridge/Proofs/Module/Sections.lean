import GuestBridge.Module.Section
import GuestBridge.Proofs.Text.Utf8

/-!
# Metadata among custom sections

A `CustomSection` is a name and a payload together with the numbers that are written before them,
which may be padded, and `binaryOf` puts such sections between the header of a module and a tail.
The walk over the binary meets just these sections if the tail is one that ends it (`EndsWalk`):
there is nothing more, or a byte that numbers no section, or a section that is cut short.

So what is found under a name is told by the payloads of the sections of that name alone, in order
(`Metadata.find_binaryOf`).
-/

namespace GuestBridge

namespace Wasm

/-! ## Numbers -/

/-- The bytes write the number in base 128, lowest digit first, and every byte but the last has its
high bit set.  Zeros at the high end are allowed. -/
inductive Base128 : Nat → Bytes → Prop where
  | last {b : UInt8} (h : b < 0x80) : Base128 b.toNat [b]
  | more {b : UInt8} {n : Nat} {bs : Bytes} (h : 0x80 ≤ b) (rest : Base128 n bs) :
      Base128 (b.toNat - 128 + 128 * n) (b :: bs)

/-- The bytes write the number in base 128, as a word of 32 bits. -/
structure WritesU32 (n : Nat) (bs : Bytes) : Prop where
  digits : Base128 n bs
  length_le : bs.length ≤ 5
  lt : n < UInt32.size

theorem Base128.length_pos {n : Nat} {bs : Bytes} (h : Base128 n bs) : 0 < bs.length := by
  cases h <;> simp

/-- A number that has room is read off its bytes, whatever follows them. -/
theorem readUnsigned_append {n bits : Nat} {bs : Bytes} (h : Base128 n bs)
    (hlength : 7 * bs.length < bits + 7) (hn : n < Nat.pow 2 bits) (rest : Bytes) :
    readUnsigned bits (bs ++ rest) = some (n, rest) := by
  induction h generalizing bits with
  | @last b hb => rw [List.singleton_append, readUnsigned, if_pos hb, if_pos hn]
  | @more b n bs hb hmore ih =>
      have hpos := hmore.length_pos
      rw [List.length_cons] at hlength
      have hbits : ¬ bits ≤ 7 := by omega
      have hpow : Nat.pow 2 bits = Nat.pow 2 (bits - 7) * 128 := by
        rw [show bits = bits - 7 + 7 by omega]
        exact Nat.pow_add 2 (bits - 7) 7
      rw [hpow] at hn
      rw [List.cons_append, readUnsigned, if_neg (UInt8.not_lt.2 hb), if_neg hbits,
        ih (by omega) (by omega)]
      rfl

theorem readU32_append {n : Nat} {bs : Bytes} (h : WritesU32 n bs) (rest : Bytes) :
    readU32 (bs ++ rest) = some (n, rest) := by
  have hlength : 7 * bs.length < 32 + 7 := by
    have := h.length_le
    omega
  exact readUnsigned_append h.digits hlength h.lt rest

/-- A number whose last byte is missing is not read. -/
theorem readUnsigned_of_continued {bits : Nat} {bs : Bytes} (h : ∀ b ∈ bs, 0x80 ≤ b) :
    readUnsigned bits bs = none := by
  induction bs generalizing bits with
  | nil => rfl
  | cons b bs ih =>
      rw [List.forall_mem_cons] at h
      rw [readUnsigned, if_neg (UInt8.not_lt.2 h.1), ih h.2, Option.map_none, ite_self]

theorem readBytes_append (part rest : Bytes) :
    readBytes part.length (part ++ rest) = some (part, rest) := by
  rw [readBytes, if_neg (by simp), List.take_left, List.drop_left]

theorem expectBytes_append (wanted rest : Bytes) :
    expectBytes wanted (wanted ++ rest) = some ((), rest) := by
  rw [expectBytes, if_pos (by simp), List.drop_left]

theorem readName_append {name : String} {length : Bytes}
    (hle : (Text.encode name).length ≤ maxNameLength)
    (hlength : WritesU32 (Text.encode name).length length) (rest : Bytes) :
    readName (length ++ (Text.encode name ++ rest)) = some (name, rest) := by
  rw [readName]
  simp only [bind, StateT.bind, Option.bind, readU32_append hlength]
  rw [if_neg (Nat.not_lt.2 hle)]
  simp only [pure, bind, StateT.bind, Option.bind, readBytes_append, Text.decode?_encode]
  rfl

/-! ## Custom sections -/

/-- A custom section: its name and payload, and the bytes in which the length of its name and its
size are written. -/
structure CustomSection where
  name : String
  payload : Bytes
  nameLength : Bytes
  size : Bytes
  length_name_le : (Text.encode name).length ≤ maxNameLength
  nameLength_writes : WritesU32 (Text.encode name).length nameLength
  size_writes : WritesU32 (nameLength ++ Text.encode name ++ payload).length size

namespace CustomSection

/-- What the section holds after its size. -/
def content (s : CustomSection) : Bytes :=
  s.nameLength ++ Text.encode s.name ++ s.payload

/-- The bytes of the section. -/
def bytes (s : CustomSection) : Bytes :=
  customId :: s.size ++ s.content

theorem readName_content (s : CustomSection) : readName s.content = some (s.name, s.payload) := by
  rw [content, List.append_assoc]
  exact readName_append s.length_name_le s.nameLength_writes s.payload

theorem readCustom_content (s : CustomSection) :
    readCustom s.content = some ((s.name, s.payload), []) := by
  rw [readCustom]
  simp only [bind, StateT.bind, Option.bind, s.readName_content]
  rfl

theorem isOrderly_content (s : CustomSection) :
    Section.isOrderly ⟨customId, s.content⟩ = true := by
  rw [Section.isOrderly, if_pos rfl, readCustom_content]
  rfl

theorem readSection_append (s : CustomSection) (rest : Bytes) :
    readSection (s.bytes ++ rest) = some (⟨customId, s.content⟩, rest) := by
  have hsize : readU32 (s.size ++ (s.content ++ rest)) =
      some (s.content.length, s.content ++ rest) :=
    readU32_append s.size_writes _
  rw [bytes, List.append_assoc, List.cons_append, readSection, if_neg (by decide), hsize,
    Option.bind_some]
  dsimp only
  rw [readBytes_append, Option.map_some]

end CustomSection

/-! ## The walk -/

/-- The bytes with which a walk over sections is over: there are none, or they begin with no number
of a section, or they end before the size of the section or before its content does. -/
inductive EndsWalk : Bytes → Prop where
  | nothing : EndsWalk []
  | noSection (id : UInt8) (rest : Bytes) (h : 0x80 ≤ id) : EndsWalk (id :: rest)
  | withinSize (id : UInt8) (size : Bytes) (h : ∀ b ∈ size, 0x80 ≤ b) : EndsWalk (id :: size)
  | withinContent (id : UInt8) {n : Nat} {size : Bytes} (content : Bytes) (hsize : WritesU32 n size)
      (h : content.length < n) : EndsWalk (id :: size ++ content)

theorem EndsWalk.readSection_eq_none {tail : Bytes} (h : EndsWalk tail) :
    readSection tail = none := by
  cases h with
  | nothing => rfl
  | noSection id rest h => rw [readSection, if_pos h]
  | withinSize id size h =>
      rw [readSection, readU32, readUnsigned_of_continued h, Option.bind_none, ite_self]
  | withinContent id content hsize h =>
      rw [List.cons_append, readSection, readU32_append hsize, Option.bind_some]
      dsimp only
      rw [readBytes, if_pos h, Option.map_none, ite_self]

theorem orderlySections_of_none {bs : Bytes} (h : readSection bs = none) :
    orderlySections bs = [] := by
  rw [orderlySections]
  split
  · rfl
  · rename_i hsome
    rw [h] at hsome
    cases hsome

/-- The walk goes on after a custom section. -/
theorem orderlySections_append (s : CustomSection) (rest : Bytes) :
    orderlySections (s.bytes ++ rest) = ⟨customId, s.content⟩ :: orderlySections rest := by
  rw [orderlySections]
  split
  · rename_i hnone
    rw [s.readSection_append] at hnone
    cases hnone
  · rename_i s' rest' hsome
    rw [s.readSection_append] at hsome
    obtain ⟨rfl, rfl⟩ := Prod.mk.inj (Option.some.inj hsome)
    rw [if_pos s.isOrderly_content]

/-- The binary of custom sections, with a tail after them. -/
def binaryOf (sections : List CustomSection) (tail : Bytes) : Bytes :=
  moduleHeader ++ (sections.flatMap CustomSection.bytes ++ tail)

/-- The payloads of the sections of a name, in order. -/
def payloadsNamed (name : String) (sections : List CustomSection) : List Bytes :=
  (sections.filter fun s => s.name = name).map CustomSection.payload

theorem customSections_binaryOf (sections : List CustomSection) {tail : Bytes}
    (htail : EndsWalk tail) :
    customSections (binaryOf sections tail) = sections.map fun s => (s.name, s.payload) := by
  rw [customSections, binaryOf, expectBytes_append]
  dsimp only
  induction sections with
  | nil =>
      rw [List.flatMap_nil, List.nil_append, orderlySections_of_none htail.readSection_eq_none]
      rfl
  | cons s rest ih =>
      rw [List.flatMap_cons, List.append_assoc, orderlySections_append, List.filterMap_cons,
        if_pos rfl, s.readCustom_content, List.map_cons, ih]
      rfl

end Wasm

namespace Metadata

open Wasm

/-- Metadata is looked for among the payloads of its name. -/
theorem find_eq_ofPayloads (name : String) (sections : List CustomSection) {tail : Bytes}
    (htail : EndsWalk tail) :
    find name (binaryOf sections tail) = ofPayloads name (payloadsNamed name sections) := by
  rw [find, customSections_binaryOf sections htail, payloadsNamed]
  congr 1
  induction sections with
  | nil => rfl
  | cons s rest ih =>
      rw [List.map_cons, List.filterMap_cons, List.filter_cons, ih]
      by_cases hname : s.name = name <;> simp [hname]

/-- What is found under a name in a binary of custom sections is told by the payloads of that name:
nothing without one; the error of the first if it is refused, even if there is another; that there
are several if the first is accepted and is not the only one; and what the only one says.  Sections
of other names and what ends the walk make no difference. -/
theorem find_binaryOf (name : String) (sections : List CustomSection) {tail : Bytes}
    (htail : EndsWalk tail) :
    let found := find name (binaryOf sections tail)
    (payloadsNamed name sections = [] → found = .ok none) ∧
    (∀ payload others, payloadsNamed name sections = payload :: others →
      (∀ e, read name payload = .error e → found = .error e) ∧
      ∀ m, read name payload = .ok m →
        (others ≠ [] → found = .error (.repeated name)) ∧ (others = [] → found = .ok (some m))) ∧
    ∀ sections' tail', EndsWalk tail' →
      payloadsNamed name sections' = payloadsNamed name sections →
        find name (binaryOf sections' tail') = found := by
  intro found
  have hfound : found = ofPayloads name (payloadsNamed name sections) :=
    find_eq_ofPayloads name sections htail
  refine ⟨fun hnone => ?_, fun payload others hpayloads => ⟨fun e he => ?_, fun m hm => ?_⟩,
    fun sections' tail' htail' hsame => ?_⟩
  · rw [hfound, hnone, ofPayloads]
  · rw [hfound, hpayloads, ofPayloads, he]
  · rw [hfound, hpayloads, ofPayloads, hm]
    cases others with
    | nil => exact ⟨fun hmore => (hmore rfl).elim, fun _ => rfl⟩
    | cons other rest => exact ⟨fun _ => rfl, nofun⟩
  · rw [find_eq_ofPayloads name sections' htail', hsame, hfound]

/-- A section of metadata that says nothing, with padded numbers. -/
def paddedSection : CustomSection where
  name := "graphl"
  payload := Text.encode "\x7b\x7d"
  nameLength := [0x86, 0x00]
  size := [0x8a, 0x80, 0x00]
  length_name_le := by decide
  nameLength_writes := by
    have hlength : (Text.encode "graphl").length = 6 := by cbv
    rw [hlength]
    have hsix : Base128 6 [0x86, 0x00] := by
      simpa using Base128.more (b := 0x86) (by decide) (.last (b := 0x00) (by decide))
    exact ⟨hsix, by decide, by decide⟩
  size_writes := by
    have hlength :
        ([0x86, 0x00] ++ Text.encode "graphl" ++ Text.encode "\x7b\x7d").length = 10 := by
      cbv
    rw [hlength]
    have hzero : Base128 0 [0x80, 0x00] := by
      simpa using Base128.more (b := 0x80) (by decide) (.last (b := 0x00) (by decide))
    have hten : Base128 10 [0x8a, 0x80, 0x00] := by
      simpa using Base128.more (b := 0x8a) (by decide) hzero
    exact ⟨hten, by decide, by decide⟩

/-- A section of another name, with what is no metadata. -/
def producersSection : CustomSection where
  name := "producers"
  payload := [0x00]
  nameLength := [0x09]
  size := [0x0b]
  length_name_le := by decide
  nameLength_writes := by
    have hlength : (Text.encode "producers").length = 9 := by cbv
    rw [hlength]
    exact ⟨.last (b := 0x09) (by decide), by decide, by decide⟩
  size_writes := by
    have hlength : ([0x09] ++ Text.encode "producers" ++ [0x00]).length = 11 := by cbv
    rw [hlength]
    exact ⟨.last (b := 0x0b) (by decide), by decide, by decide⟩

/-- Before a section that is cut short: the metadata behind a section of another name is found, and
metadata that is there twice is refused. -/
theorem find_binaryOf_padded :
    let tail : Bytes := [0x00, 0x0a, 0x06]
    EndsWalk tail ∧
      payloadsNamed "graphl" [producersSection, paddedSection] = [Text.encode "\x7b\x7d"] ∧
      find "graphl" (binaryOf [producersSection, paddedSection] tail) = .ok (some .empty) ∧
      find "graphl" (binaryOf [paddedSection, producersSection, paddedSection] tail) =
        .error (.repeated "graphl") := by
  intro tail
  have htail : EndsWalk tail :=
    .withinContent 0x00 (n := 10) [0x06] ⟨.last (b := 0x0a) (by decide), by decide, by decide⟩
      (by decide)
  have hread : read "graphl" (Text.encode "\x7b\x7d") = .ok .empty := by rfl
  have honce := find_binaryOf "graphl" [producersSection, paddedSection] htail
  have htwice := find_binaryOf "graphl" [paddedSection, producersSection, paddedSection] htail
  have hsingle : payloadsNamed "graphl" [producersSection, paddedSection] =
      [Text.encode "\x7b\x7d"] := by
    simp [payloadsNamed, paddedSection, producersSection]
  have hboth : payloadsNamed "graphl" [paddedSection, producersSection, paddedSection] =
      [Text.encode "\x7b\x7d", Text.encode "\x7b\x7d"] := by
    simp [payloadsNamed, paddedSection, producersSection]
  exact ⟨htail, hsingle, ((honce.2.1 _ _ hsingle).2 _ hread).2 rfl,
    ((htwice.2.1 _ _ hboth).2 _ hread).1 nofun⟩

end Metadata

end GuestBridge
