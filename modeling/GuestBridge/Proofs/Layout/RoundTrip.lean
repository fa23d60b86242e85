import GuestBridge.Proofs.Layout.Batch
import GuestBridge.Proofs.Layout.Shape
import GuestBridge.Proofs.Sandbox.Memory

/-!
# The round trip of a struct

`SliceAccess.FaithfulFrom` says of slices that a text that is stored is loaded again at every later
point (`SliceAccess.Run`).  Over such slices the encoding of a struct value of a registered type,
with any bytes after it, decodes to that value arranged in the order of its type
(`Registry.decodeStruct_of_encodeStruct`).  The slices of an arena are faithful while its addresses
fit a word (`Arena.faithfulFrom_slices`).
-/

namespace GuestBridge

section Slices

variable {ρ ε : Type}

/-- A request to the slices leads from one state to the other, whether it is answered or fails. -/
inductive SliceAccess.Step (slices : SliceAccess ρ ε) : ρ → ρ → Prop where
  | store (text : String) (s : ρ) : Step slices s ((slices.store text).from s).2
  | load (address length : UInt32) (s : ρ) : Step slices s ((slices.load address length).from s).2

/-- Requests to the slices lead from one state to the other. -/
def SliceAccess.Run (slices : SliceAccess ρ ε) : ρ → ρ → Prop :=
  Relation.ReflTransGen slices.Step

instance (slices : SliceAccess ρ ε) : IsPreorder ρ slices.Run where
  refl _ := .refl
  trans _ _ _ h h' := Relation.ReflTransGen.trans h h'

/-- From a state on, slices keep what they store: a stored text is loaded at every later point. -/
def SliceAccess.FaithfulFrom (slices : SliceAccess ρ ε) (s₀ : ρ) : Prop :=
  ∀ s text address length s', slices.Run s₀ s →
    (slices.store text).from s = (.ok (address, length), s') →
      ∀ s'', slices.Run s' s'' → ((slices.load address length).from s'').1 = .ok text

theorem SliceAccess.leads_run (slices : SliceAccess ρ ε) : slices.Leads slices.Run :=
  ⟨fun text s => .single (.store text s), fun address length s => .single (.load address length s)⟩

theorem SliceAccess.FaithfulFrom.faithful {slices : SliceAccess ρ ε} {s₀ : ρ}
    (h : slices.FaithfulFrom s₀) : slices.Faithful slices.Run s₀ :=
  ⟨slices.leads_run, fun hs hstore s'' hs'' => h _ _ _ _ _ hs hstore s'' hs''⟩

end Slices

namespace Arena

theorem slices_store_from (text : String) (a : Arena) :
    (slices.store text).from a =
      ((a.alloc (Text.encode text)).1.map fun address =>
          (address, UInt32.ofNat (Text.encode text).length),
        (a.alloc (Text.encode text)).2) := by
  have hmap : slices.store text =
      (fun address => (address, UInt32.ofNat (Text.encode text).length)) <$>
        memory.alloc (Text.encode text) := bind_pure_comp _ _
  rw [hmap, Fallible.from_map]
  rfl

theorem slices_load_from (address length : UInt32) (a : Arena) :
    (slices.load address length).from a =
      ((a.read address length).1.map Text.decodeLossy, (a.read address length).2) := by
  have hmap : slices.load address length = Text.decodeLossy <$> memory.read address length :=
    bind_pure_comp _ _
  rw [hmap, Fallible.from_map]
  rfl

/-- Requests to its slices only extend an arena. -/
theorem extends_of_run {a a' : Arena} (h : slices.Run a a') : a.Extends a' := by
  induction h with
  | refl => exact refl a
  | tail _ hstep ih =>
      refine IsTrans.trans _ _ _ ih ?_
      cases hstep with
      | store text =>
          rw [slices_store_from]
          exact extends_alloc _ _
      | load address length =>
          rw [slices_load_from]
          exact extends_read _ _ _

/-- An arena whose addresses fit a word keeps the texts that are stored in it. -/
theorem faithfulFrom_slices {a₀ : Arena} (hsize : a₀.bytes.length < UInt32.size) :
    slices.FaithfulFrom a₀ := by
  intro a text address length a' ha hstore a'' ha'
  have hlength : a.bytes.length = a₀.bytes.length := (extends_of_run ha).length_eq
  rw [slices_store_from, Prod.mk.injEq] at hstore
  obtain ⟨hanswer, rfl⟩ := hstore
  obtain ⟨address', halloc, hslice⟩ := map_eq_ok_iff.1 hanswer
  obtain ⟨rfl, rfl⟩ := Prod.mk.inj hslice
  rw [slices_load_from, read_of_alloc (hlength ▸ hsize) halloc (extends_of_run ha')]
  show Except.ok (Text.decodeLossy (Text.encode text)) = _
  rw [Text.decodeLossy_encode]

end Arena

namespace Registry

/-- The encoding of a value of a registered type, with any bytes after it, decodes at every later
point to that value arranged: with exactly the fields of each of its types in their order, and with
the same single value at the end of every path of field names. -/
theorem decodeStruct_of_encodeStruct (requests : List RegistryRequest) {name : String}
    {d : TypeDescriptor} (hd : (primitives.afterAll requests).get? name = some d) {ρ ε : Type}
    {slices : SliceAccess ρ ε} {s s' : ρ} (hslices : slices.FaithfulFrom s) {v : StructValue}
    {bytes : Bytes} (hencode : (encodeStruct slices d v).from s = (.ok bytes, s')) :
    (∀ suffix s'', slices.Run s' s'' →
      ((decodeStruct slices d (bytes ++ suffix)).from s'').1 = .ok (d.arrange v)) ∧
    d.Describes (.ofStruct (d.arrange v)) ∧
    ∀ path, (FieldValue.ofStruct (d.arrange v)).at? path = (FieldValue.ofStruct v).at? path := by
  have hlaid : d.LaidOut := (wellFormed_afterAll requests).laidOut hd
  obtain ⟨hlength, hdecode⟩ := decodeType_encodeType hslices.faithful d hlaid .refl hencode
  refine ⟨fun suffix s'' hlater => ?_, arrange_of_accepts d (accepts_of_encodeType d hencode)⟩
  have htake : (bytes ++ suffix).take d.size.toNat = bytes := by
    rw [← hlength, List.take_left]
  exact hdecode (bytes ++ suffix) htake s'' hlater

/-- A struct with a gap between its fields, and one that it embeds. -/
def spotRequests : List RegistryRequest :=
  [.register [⟨"spot", 36, [⟨"at", 0, "point"⟩, ⟨"label", 16, "string"⟩, ⟨"color", 28, "rgba"⟩]⟩,
    ⟨"point", 16, [⟨"x", 0, "f64"⟩, ⟨"y", 8, "f64"⟩]⟩]]

/-- The structs of `spotRequests`. -/
def spotType : TypeDescriptor :=
  .struct "spot" 36 [
    ⟨"at", 0, .struct "point" 16 [⟨"x", 0, .primitive .f64⟩, ⟨"y", 8, .primitive .f64⟩]⟩,
    ⟨"label", 16, .primitive .string⟩, ⟨"color", 28, .primitive .rgba⟩]

/-- A spot with its fields out of order and one of them given twice; it lies at a negative zero and
a NaN with a payload. -/
def spotValue : StructValue :=
  ⟨"spot", [("color", .scalar (.u32 0xff0000ff)), ("label", .scalar (.string "é")),
    ("at", .struct "point" [("y", .scalar (.f64 ⟨0x7ff8000000000123⟩)),
      ("x", .scalar (.f64 ⟨0x8000000000000000⟩))]),
    ("label", .scalar (.string "again"))]⟩

/-- The spot in the order of its type. -/
def spotArranged : StructValue :=
  ⟨"spot", [("at", .struct "point" [("x", .scalar (.f64 ⟨0x8000000000000000⟩)),
      ("y", .scalar (.f64 ⟨0x7ff8000000000123⟩))]),
    ("label", .scalar (.string "é")), ("color", .scalar (.u32 0xff0000ff))]⟩

theorem decodeStruct_of_encodeStruct_spot :
    ∃ bytes a, (encodeStruct Arena.slices spotType spotValue).from (.zeroed 8 16 []) =
        (.ok bytes, a) ∧
      ((decodeStruct Arena.slices spotType (bytes ++ [1, 2])).from a).1 = .ok spotArranged := by
  have hget : (primitives.afterAll spotRequests).get? "spot" = some spotType := by cbv
  have hfaithful : Arena.slices.FaithfulFrom (.zeroed 8 16 []) :=
    Arena.faithfulFrom_slices (by decide)
  obtain ⟨bytes, hencode⟩ : ∃ bytes, (encodeStruct Arena.slices spotType spotValue).from
      (.zeroed 8 16 []) = (.ok bytes, ((Arena.zeroed 8 16 []).alloc (Text.encode "é")).2) :=
    ⟨_, by cbv⟩
  obtain ⟨hdecode, -⟩ := decodeStruct_of_encodeStruct spotRequests hget hfaithful hencode
  exact ⟨bytes, _, hencode, hdecode [1, 2] _ .refl⟩

end Registry

end GuestBridge
