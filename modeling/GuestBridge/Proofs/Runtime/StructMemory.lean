import GuestBridge.Proofs.Call.RoundTrip
import GuestBridge.Proofs.Runtime.World

/-!
# Structs in guest memory

Over faithful memory slices are faithful (`guestSlices_faithful`), and so a struct that is placed
can be fetched from every later state (`fetchStruct_placeStruct`).  Requests for structs never call
an export, and the registry only grows meanwhile (`World.Later`); so a struct that a runtime has
written is read back after any number of them.
-/

namespace GuestBridge

variable {σ : Type} {b : Backend σ}

/-! ## Slices -/

/-- The sandbox of the later one was reached by requests to guest memory. -/
def Traced.Later (b : Backend σ) (t t' : Traced σ) : Prop :=
  b.MemoryRun t.sandbox t'.sandbox

instance (b : Backend σ) : IsPreorder (Traced σ) (Traced.Later b) where
  refl _ := .refl
  trans _ _ _ h h' := Relation.ReflTransGen.trans h h'

theorem memory_leads_later (b : Backend σ) : b.memory.Leads (Traced.Later b) :=
  ⟨fun bytes t => .single (.alloc bytes t.sandbox),
    fun address length t => .single (.read address length t.sandbox)⟩

/-- Memory that a sandbox keeps is faithful where requests are traced. -/
theorem memory_faithful {t₀ : Traced σ} (h : b.FaithfulFrom t₀.sandbox) :
    b.memory.Faithful (Traced.Later b) t₀ := by
  refine ⟨memory_leads_later b, fun {t t' bytes address} ht hshort halloc t'' ht'' => ?_⟩
  obtain ⟨hresult, hstate, -⟩ := perform_from_ok halloc
  exact h t.sandbox _ _ ht hshort hresult t''.sandbox (hstate ▸ ht'')

/-- Faithful memory makes faithful slices. -/
theorem guestSlices_faithful {t₀ : Traced σ} (h : b.FaithfulFrom t₀.sandbox) :
    (guestSlices b.memory).Faithful (Traced.Later b) t₀ := by
  refine ⟨guestSlices_leads (memory_leads_later b), fun {t t' text address length} ht hstore => ?_⟩
  rw [guestSlices_store] at hstore
  split_ifs at hstore with hlong hempty
  · cases hstore
  · cases hstore
    obtain rfl := Text.encode_eq_nil_iff.1 (List.isEmpty_iff.1 hempty)
    exact Fallible.answersFrom_pure _ _
  · obtain ⟨address', t₁, halloc, hstore⟩ := Fallible.bind_from_ok_iff.1 hstore
    cases hstore
    have hread := readText_alloc (memory_faithful h) ht hempty (Nat.not_le.1 hlong)
      (Fallible.adapt_from_ok_iff.1 halloc)
    exact hread.adapt SliceFault.guest

/-- The field of an empty text takes eight zero bytes and nothing is asked of the guest for it. -/
theorem encodeField_empty {owner : String} {v : StructValue} {f : FieldDescriptor} {t : Traced σ}
    (hslice : f.type.isSlice = true) (hget : v.get? f.name = some (.scalar (.string ""))) :
    (encodeField (guestSlices b.memory) owner v f).from t = (.ok (List.replicate 8 0), t) := by
  obtain ⟨name, offset, type⟩ := f
  dsimp only at hslice hget
  have hstore : ((guestSlices b.memory).store "").from t = (.ok (0, 0), t) := by
    rw [guestSlices_store]
    rfl
  rw [encodeField, hget]
  dsimp only
  rw [if_pos hslice]
  exact Fallible.bind_from_ok_iff.2 ⟨(0, 0), t, Fallible.adapt_from_ok_iff.2 hstore, rfl⟩

/-! ## Structs -/

/-- A struct that is placed in faithful memory can be fetched from every later state. -/
theorem Runtime.fetchStruct_placeStruct {t₀ t t' : Traced σ} {type : TypeDescriptor}
    {v : StructValue} {address : UInt32} (h : b.FaithfulFrom t₀.sandbox) (ht : Traced.Later b t₀ t)
    (htype : type.LaidOut) (hplace : (placeStruct b type v).from t = (.ok address, t')) :
    (fetchStruct b type address).AnswersFrom (Traced.Later b) t' (type.arrange v) := by
  obtain ⟨bytes, t₁, hencode, halloc⟩ := Fallible.bind_from_ok_iff.1 hplace
  have hencode' := Fallible.adapt_from_ok_iff.1 hencode
  have hfaithful := guestSlices_faithful h
  obtain ⟨hlength, hdecode⟩ := decodeType_encodeType hfaithful type htype ht hencode'
  have ht₁ : Traced.Later b t t₁ := (encodeType_leads hfaithful.leads type v).of_from hencode'
  have ht' : Traced.Later b t₁ t' := ((memory_leads_later b).alloc bytes |>.adapt _).of_from halloc
  have hshort : bytes.length < UInt32.size := hlength ▸ type.size.toNat_lt
  have hsize : UInt32.ofNat bytes.length = type.size := by rw [hlength, UInt32.ofNat_toNat]
  have hread : (b.memory.read address type.size).AnswersFrom (Traced.Later b) t' bytes := by
    rw [← hsize]
    exact (memory_faithful h).read_alloc (IsTrans.trans _ _ _ ht ht₁) hshort
      (Fallible.adapt_from_ok_iff.1 halloc)
  refine (hread.adapt _).bind (((memory_leads_later b).read _ _).adapt _) ?_
  refine ((hdecode bytes ?_).later ht').adapt _
  rw [← hlength, List.take_length]

/-! ## Runs -/

/-- The request is one for structs, or one that others make of the registry. -/
def Request.OnMemory : Request → Prop
  | .registry _ | .writeStruct _ | .readStruct .. => True
  | _ => False

namespace Runtime

theorem sandbox?_of_ready {rt : Runtime σ} {digest : String} {program : Program} {sandbox : σ}
    (h : rt.phase = .ready digest program sandbox) : rt.sandbox? = some sandbox := by
  rw [sandbox?, h]

theorem exists_phase_of_state {rt : Runtime σ} (h : rt.state = .ready) :
    ∃ digest program sandbox, rt.phase = .ready digest program sandbox := by
  unfold state at h
  split at h
  case h_2 digest program sandbox hphase => exact ⟨digest, program, sandbox, hphase⟩
  all_goals cases h

section Sandbox

variable {α : Type} {rt : Runtime σ} {s : σ} (hs : rt.sandbox? = some s)
include hs

theorem inGuest_sandbox {digest function : String} {program : Program} {sandbox : σ}
    {op : ProgramM σ α} (hphase : rt.phase = .ready digest program sandbox)
    (hop : op.Leads (Traced.Later b)) :
    ∃ s', (inGuest rt.config digest program sandbox function op).runtime.sandbox? = some s' ∧
      b.MemoryRun s s' := by
  rcases hfrom : op.from ⟨sandbox, []⟩ with ⟨x, t⟩
  obtain ⟨result, phase, heq, -, hready⟩ := inGuest_eq rt.config digest program function hfrom
  rw [sandbox?_of_ready hphase] at hs
  obtain rfl := Option.some.inj hs
  refine ⟨t.sandbox, ?_, hop.of_from hfrom⟩
  rw [heq]
  rcases hready with rfl | ⟨reason, rfl⟩ <;> rfl

theorem writeStruct_sandbox (r : Registry) (v : StructValue) :
    ∃ s', (writeStruct b r rt v).runtime.sandbox? = some s' ∧ b.MemoryRun s s' := by
  unfold writeStruct
  split
  · rename_i digest program sandbox hphase
    split
    · exact ⟨s, hs, .refl⟩
    · exact inGuest_sandbox hs hphase (placeStruct_leads (memory_leads_later b) _ v)
  · exact ⟨s, hs, .refl⟩

theorem readStruct_sandbox (r : Registry) (typeName : String) (address : UInt32) :
    ∃ s', (readStruct b r rt typeName address).runtime.sandbox? = some s' ∧
      b.MemoryRun s s' := by
  unfold readStruct
  split
  · rename_i digest program sandbox hphase
    split
    · exact ⟨s, hs, .refl⟩
    · exact inGuest_sandbox hs hphase (fetchStruct_leads (memory_leads_later b) _ address)
  · exact ⟨s, hs, .refl⟩

end Sandbox

theorem writeStruct_ok {r : Registry} {rt : Runtime σ} {v : StructValue} {address : UInt32}
    (h : (writeStruct b r rt v).result = .ok address) :
    ∃ digest program sandbox type t, rt.phase = .ready digest program sandbox ∧
      r.lookup v.typeName = .ok type ∧
      (placeStruct b type v).from ⟨sandbox, []⟩ = (.ok address, t) ∧
      (writeStruct b r rt v).runtime.sandbox? = some t.sandbox := by
  unfold writeStruct at h ⊢
  split at h
  · rename_i digest program sandbox hphase
    split at h
    · cases h
    · rename_i type htype
      obtain ⟨t, hfrom, heq⟩ := inGuest_ok h
      exact ⟨digest, program, sandbox, type, t, hphase, htype, hfrom, by simp only [heq]; rfl⟩
  · cases h

theorem readStruct_of_answersFrom {r : Registry} {rt : Runtime σ} {typeName : String}
    {address : UInt32} {type : TypeDescriptor} {v : StructValue} {t : Traced σ}
    (hread : (fetchStruct b type address).AnswersFrom (Traced.Later b) t v)
    (hstate : rt.state = .ready) {s : σ} (hs : rt.sandbox? = some s)
    (hlater : b.MemoryRun t.sandbox s) (htype : r.lookup typeName = .ok type) :
    (readStruct b r rt typeName address).result = .ok v := by
  obtain ⟨digest, program, sandbox, hphase⟩ := exists_phase_of_state hstate
  rw [sandbox?_of_ready hphase] at hs
  obtain rfl := Option.some.inj hs
  have hok := hread ⟨sandbox, []⟩ hlater
  rcases hfrom : (fetchStruct b type address).from ⟨sandbox, []⟩ with ⟨x, t'⟩
  rw [hfrom] at hok
  obtain ⟨result, phase, heq, hresult, -⟩ := inGuest_eq rt.config digest program typeName hfrom
  unfold readStruct
  rw [hphase]
  dsimp only
  rw [htype]
  dsimp only
  rw [heq]
  exact (hresult v).2 hok

end Runtime

namespace World

/-- The registry has at most grown, and the sandbox is there still, reached by requests to guest
memory. -/
structure Later (b : Backend σ) (w w' : World σ) : Prop where
  registry : w.registry.WellFormed → w'.registry.WellFormed ∧ w.registry.Extends w'.registry
  sandbox : ∀ {s}, w.runtime.sandbox? = some s →
    ∃ s', w'.runtime.sandbox? = some s' ∧ b.MemoryRun s s'

theorem Later.refl (w : World σ) : w.Later b w :=
  ⟨fun h => ⟨h, .refl _⟩, fun hs => ⟨_, hs, .refl⟩⟩

theorem Later.trans {w w' w'' : World σ} (h : w.Later b w') (h' : w'.Later b w'') :
    w.Later b w'' := by
  refine ⟨fun hwf => ?_, fun hs => ?_⟩
  · obtain ⟨hwf', hext⟩ := h.registry hwf
    obtain ⟨hwf'', hext'⟩ := h'.registry hwf'
    exact ⟨hwf'', hext.trans hext'⟩
  · obtain ⟨s', hs', hrun⟩ := h.sandbox hs
    obtain ⟨s'', hs'', hrun'⟩ := h'.sandbox hs'
    exact ⟨s'', hs'', Relation.ReflTransGen.trans hrun hrun'⟩

theorem later_after (b : Backend σ) (w : World σ) {request : Request} (h : request.OnMemory) :
    w.Later b (w.after b request) := by
  cases request with
  | registry request => exact ⟨fun hwf => hwf.after request, fun hs => ⟨_, hs, .refl⟩⟩
  | writeStruct v =>
      exact ⟨fun hwf => ⟨hwf, .refl _⟩, fun hs => Runtime.writeStruct_sandbox hs w.registry v⟩
  | readStruct typeName address =>
      exact ⟨fun hwf => ⟨hwf, .refl _⟩,
        fun hs => Runtime.readStruct_sandbox hs w.registry typeName address⟩
  | _ => exact h.elim

theorem later_afterAll (b : Backend σ) (w : World σ) {requests : List Request}
    (h : ∀ request ∈ requests, request.OnMemory) : w.Later b (w.afterAll b requests) := by
  induction requests generalizing w with
  | nil => exact .refl w
  | cons request rest ih =>
      rw [List.forall_mem_cons] at h
      exact (later_after b w h.1).trans (ih _ h.2)

/-- A struct that a runtime has written is read back from the address it got, after any requests for
structs that leave the runtime in working order: with the fields of its types in their order, and of
each the first value.  An empty text is eight zero bytes, and nothing is asked of the guest for
it. -/
theorem readStruct_of_writeStruct (b : Backend σ) {w : World σ} (requests : List RegistryRequest)
    (hregistry : w.registry = Registry.primitives.afterAll requests) {digest : String}
    {program : Program} {sandbox : σ} (hready : w.runtime.phase = .ready digest program sandbox)
    (hmemory : b.FaithfulFrom sandbox) {v : StructValue} {address : UInt32}
    (hwrite : (w.runtime.writeStruct b w.registry v).result = .ok address) {more : List Request}
    (hmore : ∀ request ∈ more, request.OnMemory)
    (hstill : ((w.after b (.writeStruct v)).afterAll b more).runtime.state = .ready) :
    (∃ d, w.registry.lookup v.typeName = .ok d ∧
      let w' := (w.after b (.writeStruct v)).afterAll b more
      (w'.runtime.readStruct b w'.registry v.typeName address).result = .ok (d.arrange v)) ∧
    ∀ owner (given : StructValue) (f : FieldDescriptor) (t : Traced σ), f.type.isSlice = true →
      given.get? f.name = some (.scalar (.string "")) →
        (encodeField (guestSlices b.memory) owner given f).from t =
          (.ok (List.replicate 8 0), t) := by
  have hwf : w.registry.WellFormed := hregistry ▸ Registry.wellFormed_afterAll requests
  refine ⟨?_, fun owner given f t hslice hget => encodeField_empty hslice hget⟩
  obtain ⟨digest', program', sandbox', type, t, hphase, htype, hplace, hsandbox⟩ :=
    Runtime.writeStruct_ok hwrite
  obtain ⟨rfl, rfl, rfl⟩ := Phase.ready.inj (hready.symm.trans hphase)
  have hlater := later_afterAll b (w.after b (.writeStruct v)) hmore
  obtain ⟨s, hs, hrun⟩ := hlater.sandbox hsandbox
  obtain ⟨-, hext⟩ := hlater.registry hwf
  have hget := Registry.lookup_eq_ok_iff.1 htype
  have hread := Runtime.fetchStruct_placeStruct hmemory .refl (hwf.laidOut hget) hplace
  refine ⟨type, htype, Runtime.readStruct_of_answersFrom hread hstill hs hrun ?_⟩
  exact Registry.lookup_eq_ok_iff.2 (hext _ _ hget)

/-- A script that only has memory. -/
def memoryScript : Scripted.Script :=
  ⟨[], .zeroed 8 64 [], none, .ok false, []⟩

/-- A pair with its fields out of order, one of them given twice, and an empty text. -/
def pairValue : StructValue :=
  ⟨"pair", [
    ("right", .struct "label" [("id", .scalar (.u32 9)), ("text", .scalar (.string ""))]),
    ("left", .struct "label" [("text", .scalar (.string "hi")), ("id", .scalar (.u32 7))]),
    ("right", .struct "label" [])]⟩

/-- The pair in the order of its type. -/
def pairArranged : StructValue :=
  ⟨"pair", [
    ("left", .struct "label" [("text", .scalar (.string "hi")), ("id", .scalar (.u32 7))]),
    ("right", .struct "label" [("text", .scalar (.string "")), ("id", .scalar (.u32 9))])]⟩

/-- A runtime in working order over a registry that has the pair. -/
def pairWorld : World Scripted.State :=
  ⟨Registry.primitives.afterAll Registry.pairRequests,
    ⟨.standard, .ready "" .none memoryScript⟩, []⟩

theorem readStruct_of_writeStruct_pair :
    let w := (pairWorld.after (Scripted.backend memoryScript) (.writeStruct pairValue)).afterAll
      (Scripted.backend memoryScript) [.writeStruct pairValue, .readStruct "pair" 10]
    (w.runtime.readStruct (Scripted.backend memoryScript) w.registry "pair" 10).result =
      .ok pairArranged := by
  have hsize : memoryScript.arena.bytes.length < UInt32.size := by
    decide
  have hwrite : (pairWorld.runtime.writeStruct (Scripted.backend memoryScript) pairWorld.registry
      pairValue).result = .ok 10 := by
    cbv
  have hstill : ((pairWorld.after (Scripted.backend memoryScript) (.writeStruct pairValue)).afterAll
      (Scripted.backend memoryScript)
      [.writeStruct pairValue, .readStruct "pair" 10]).runtime.state = .ready := by
    cbv
  obtain ⟨⟨d, hd, hread⟩, -⟩ := readStruct_of_writeStruct (Scripted.backend memoryScript)
    Registry.pairRequests rfl rfl (Scripted.faithfulFrom memoryScript hsize) hwrite
    (by simp [Request.OnMemory]) hstill
  have hpair : pairWorld.registry.lookup "pair" = .ok Registry.pairType := by
    cbv
  obtain rfl := Except.ok.inj (hd.symm.trans hpair)
  exact hread

end World

end GuestBridge
