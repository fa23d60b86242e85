import GuestBridge.Proofs.Bytes
import GuestBridge.Sandbox.Scripted
import Mathlib.Logic.Relation

/-!
# Faithful memory

`Backend.FaithfulFrom` says of a sandbox that its memory keeps what is placed in it until an export
is called.  An arena keeps the bytes it has handed out (`Arena.Holds.alloc`), and they are read back
from every arena that extends it (`Arena.read_of_alloc`), so the memory of a scripted sandbox is
faithful as long as its addresses fit a word (`Scripted.faithfulFrom`).
-/

namespace GuestBridge

section Backend

variable {σ : Type}

/-- A request to guest memory leads from one state of the sandbox to the other. -/
inductive Backend.MemoryStep (b : Backend σ) : σ → σ → Prop where
  | alloc (bytes : Bytes) (s : σ) : MemoryStep b s (b.alloc bytes s).state
  | read (address length : UInt32) (s : σ) : MemoryStep b s (b.read address length s).state

/-- Requests to guest memory, answered or not, lead from one state of the sandbox to the other. -/
def Backend.MemoryRun (b : Backend σ) : σ → σ → Prop :=
  Relation.ReflTransGen b.MemoryStep

/-- From a state on, guest memory keeps what is placed in it: after any requests to memory, bytes
that are placed are read back after any further ones. -/
def Backend.FaithfulFrom (b : Backend σ) (s₀ : σ) : Prop :=
  ∀ s bytes address, b.MemoryRun s₀ s → bytes.length < UInt32.size →
    (b.alloc bytes s).result = .ok address →
      ∀ s', b.MemoryRun (b.alloc bytes s).state s' →
        (b.read address (UInt32.ofNat bytes.length) s').result = .ok bytes

end Backend

namespace Arena

/-- The part stands at `start` and was handed out. -/
structure Holds (a : Arena) (start : Nat) (part : Bytes) : Prop where
  handed_out : start + part.length ≤ a.next
  inside : start + part.length ≤ a.bytes.length
  there : a.bytes.slice start part.length = part

/-- A request that is not made to fail places its bytes. -/
theorem alloc_cases (part : Bytes) (a : Arena) :
    (∃ e failures, a.alloc part = (.error e, { a with failures := failures })) ∨
      ∃ failures, a.next + part.length ≤ a.bytes.length ∧
        a.alloc part = (.ok (UInt32.ofNat a.next),
          ⟨a.bytes.splice a.next part, a.next + part.length, failures⟩) := by
  have hplace : ∀ a : Arena,
      (∃ e, a.place part = (.error e, a)) ∨ a.next + part.length ≤ a.bytes.length ∧
        a.place part = (.ok (UInt32.ofNat a.next),
          ⟨a.bytes.splice a.next part, a.next + part.length, a.failures⟩) := by
    intro a
    unfold place
    split_ifs with hroom
    · exact .inl ⟨_, rfl⟩
    · exact .inr ⟨Nat.not_lt.1 hroom, rfl⟩
  unfold alloc
  split
  · exact .inl ⟨_, _, rfl⟩
  · rename_i rest hfailures
    refine (hplace { a with failures := rest }).imp ?_ ?_
    · exact fun ⟨e, h⟩ => ⟨e, rest, h⟩
    · exact fun ⟨hroom, h⟩ => ⟨rest, hroom, h⟩
  · refine (hplace a).imp ?_ ?_
    · exact fun ⟨e, h⟩ => ⟨e, a.failures, h⟩
    · exact fun ⟨hroom, h⟩ => ⟨a.failures, hroom, h⟩

theorem length_alloc (part : Bytes) (a : Arena) :
    (a.alloc part).2.bytes.length = a.bytes.length := by
  rcases alloc_cases part a with ⟨e, failures, h⟩ | ⟨failures, hroom, h⟩
  · rw [h]
  · rw [h]
    exact Bytes.length_splice hroom

theorem Holds.alloc {a : Arena} {start : Nat} {part : Bytes} (h : a.Holds start part)
    (other : Bytes) : (a.alloc other).2.Holds start part := by
  rcases alloc_cases other a with ⟨e, failures, heq⟩ | ⟨failures, hroom, heq⟩
  · rw [heq]
    exact ⟨h.handed_out, h.inside, h.there⟩
  · rw [heq]
    refine ⟨Nat.le_add_right_of_le h.handed_out, ?_, ?_⟩
    · exact (Bytes.length_splice hroom).symm ▸ h.inside
    · exact (Bytes.slice_splice_of_apart hroom (.inl h.handed_out)).trans h.there

theorem holds_of_alloc {a : Arena} {part : Bytes} {address : UInt32}
    (h : (a.alloc part).1 = .ok address) :
    address = UInt32.ofNat a.next ∧ (a.alloc part).2.Holds a.next part := by
  rcases alloc_cases part a with ⟨e, failures, heq⟩ | ⟨failures, hroom, heq⟩
  · rw [heq] at h
    cases h
  · rw [heq] at h ⊢
    refine ⟨(Except.ok.inj h).symm, Nat.le_refl _, ?_, Bytes.slice_splice_self hroom⟩
    exact (Bytes.length_splice hroom).symm ▸ hroom

theorem Holds.read {a : Arena} {start : Nat} {part : Bytes} (h : a.Holds start part)
    (hsize : a.bytes.length < UInt32.size) :
    a.read (UInt32.ofNat start) (UInt32.ofNat part.length) = (.ok part, a) := by
  have hinside := h.inside
  rw [Arena.read, UInt32.toNat_ofNat_of_lt' (by omega), UInt32.toNat_ofNat_of_lt' (by omega),
    if_neg (by omega), h.there]

theorem read_snd (address length : UInt32) (a : Arena) : (a.read address length).2 = a := by
  unfold Arena.read
  split <;> rfl

/-- The later arena is as large, and has all that was handed out before. -/
structure Extends (a a' : Arena) : Prop where
  length_eq : a'.bytes.length = a.bytes.length
  holds : ∀ {start : Nat} {part : Bytes}, a.Holds start part → a'.Holds start part

instance : IsPreorder Arena Extends where
  refl _ := ⟨rfl, id⟩
  trans _ _ _ h h' := ⟨h'.length_eq.trans h.length_eq, fun hheld => h'.holds (h.holds hheld)⟩

theorem extends_alloc (part : Bytes) (a : Arena) : a.Extends (a.alloc part).2 :=
  ⟨length_alloc part a, fun h => h.alloc part⟩

theorem extends_read (address length : UInt32) (a : Arena) :
    a.Extends (a.read address length).2 := by
  rw [read_snd]
  exact refl a

/-- Bytes that were handed out are read back from every arena that extends the one after. -/
theorem read_of_alloc {a a' : Arena} {part : Bytes} {address : UInt32}
    (hsize : a.bytes.length < UInt32.size) (halloc : (a.alloc part).1 = .ok address)
    (hext : (a.alloc part).2.Extends a') :
    a'.read address (UInt32.ofNat part.length) = (.ok part, a') := by
  obtain ⟨rfl, hholds⟩ := holds_of_alloc halloc
  have hlength : a'.bytes.length = a.bytes.length := hext.length_eq.trans (length_alloc part a)
  exact (hext.holds hholds).read (hlength ▸ hsize)

end Arena

namespace Scripted

variable {script : Script} {s s' : State}

/-- Requests to memory only extend the arena. -/
theorem extends_of_memoryRun (h : (backend script).MemoryRun s s') :
    s.arena.Extends s'.arena := by
  induction h with
  | refl => exact refl _
  | tail _ hstep ih =>
      refine IsTrans.trans _ _ _ ih ?_
      cases hstep with
      | alloc bytes => exact Arena.extends_alloc bytes _
      | read address length => exact Arena.extends_read address length _

/-- The memory of a scripted sandbox whose addresses fit a word keeps what is placed in it. -/
theorem faithfulFrom (script : Script) {s₀ : State}
    (hsize : s₀.arena.bytes.length < UInt32.size) : (backend script).FaithfulFrom s₀ := by
  intro s bytes address hs _ halloc s' hs'
  have hlength : s.arena.bytes.length = s₀.arena.bytes.length := (extends_of_memoryRun hs).length_eq
  have hread := Arena.read_of_alloc (hlength ▸ hsize) halloc (extends_of_memoryRun hs')
  exact congrArg Prod.fst hread

end Scripted

end GuestBridge
