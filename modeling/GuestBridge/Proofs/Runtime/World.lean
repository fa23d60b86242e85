import GuestBridge.Proofs.Layout.Batch
import GuestBridge.Proofs.Runtime.Guest
import GuestBridge.Runtime.Instantiate

/-!
# Runs of a runtime

A `World` is a runtime with the registry it shares and everything that was asked of its sandbox.
It moves with the requests made of the runtime and with those that others make of the registry
(`World.after`).  `exportSignatures_get?` says what the function table of a runtime holds, and
`World.kept_or_started` what one request can do to a world.
-/

namespace GuestBridge

variable {σ α : Type} {b : Backend σ}

/-! ## Bringing up -/

/-- A signature has the words of the export it is settled for. -/
theorem exportSignature_words {metadata : Metadata} {lookup : DeclaredSignature.Lookup}
    {e : ExportInfo} {s : Signature} (h : exportSignature metadata lookup e = .ok s) :
    s.wireParams = e.params ∧ s.wireResults = e.results := by
  unfold exportSignature at h
  split at h
  · cases h
    simp
  · split at h
    · cases h
    · split_ifs at h with hwords
      cases h
      exact hwords

/-- A function of the table is one that was in it, or has the words of an export of its name that is
not the initializer. -/
theorem exportSignatures_get? {metadata : Metadata} {lookup : DeclaredSignature.Lookup}
    {initializer : Option String} {start table : SortedMap String Signature}
    {found : List ExportInfo} {name : String} {s : Signature}
    (h : exportSignatures metadata lookup initializer start found = .ok table)
    (hs : table.get? name = some s) :
    start.get? name = some s ∨ initializer ≠ some name ∧ ∃ e ∈ found, e.name = name ∧
      s.wireParams = e.params ∧ s.wireResults = e.results := by
  induction found generalizing start with
  | nil =>
      cases h
      exact .inl hs
  | cons e rest ih =>
      have hlater : ∀ {start'},
          exportSignatures metadata lookup initializer start' rest = .ok table →
          start'.get? name = some s ∨ initializer ≠ some name ∧ ∃ e' ∈ e :: rest, e'.name = name ∧
            s.wireParams = e'.params ∧ s.wireResults = e'.results := by
        intro start' h'
        refine (ih h').imp_right fun ⟨hinit, e', he', hwords⟩ => ?_
        exact ⟨hinit, e', List.mem_cons_of_mem _ he', hwords⟩
      rw [exportSignatures] at h
      split_ifs at h with hinit
      · exact hlater h
      · split at h
        · cases h
        · rename_i s' hs'
          rcases hlater h with hstart | hlisted
          · rw [SortedMap.get?_insert] at hstart
            split_ifs at hstart with hname
            · obtain rfl := Option.some.inj hstart
              refine .inr ⟨hname ▸ hinit, e, List.mem_cons_self, hname, ?_⟩
              exact exportSignature_words hs'
            · exact .inl hstart
          · exact .inr hlisted

theorem runEntry_leads (b : Backend σ) (initializer : Option String) :
    (runEntry b initializer).Leads (Traced.Grows TraceEntry.Quiet) := by
  cases initializer with
  | none => exact Fallible.leads_pure _
  | some entry =>
      refine Fallible.Leads.bind ?_ fun _ => Fallible.leads_pure _
      exact (perform_leads fun _ _ _ _ _ => SandboxCall.noConfusion).adapt _

section BringUp

variable {config : Config} {r r' : Registry} {metadata : Metadata} {staged : Staged}
  {found : List ExportInfo} {program : Program}

theorem prepare_leads : (prepare b config r metadata staged found).Leads
    (Traced.Grows TraceEntry.Quiet) :=
  Fallible.Leads.bind (fun _ => refl _) fun _ => (runEntry_leads b _).bind fun _ =>
    Fallible.Leads.bind (fun _ => refl _) fun _ => Fallible.leads_pure _

theorem prepare_ok {t t' : Traced σ}
    (h : (prepare b config r metadata staged found).from t = (.ok (program, r'), t')) :
    exportSignatures metadata (staged.lookup r) config.initializer .empty found =
      .ok program.exports := by
  obtain ⟨exports, t₁, hexports, h⟩ := Fallible.bind_from_ok_iff.1 h
  obtain ⟨_, t₂, -, h⟩ := Fallible.bind_from_ok_iff.1 h
  obtain ⟨_, t₃, -, h⟩ := Fallible.bind_from_ok_iff.1 h
  cases h
  exact congrArg Prod.fst hexports

/-- The start of a program: nothing was asked of an export, and the functions of the program have
the words of exports that were listed. -/
structure BringUp.Sound (config : Config) (up : BringUp σ) : Prop where
  quiet : ∀ entry ∈ up.trace, entry.Quiet
  listed : ∀ {program sandbox r'}, up.result = .ok (program, sandbox, r') →
    ∃ entry ∈ up.trace, ∃ found, entry.call = .exports found ∧ ∃ metadata lookup,
      exportSignatures metadata lookup config.initializer .empty found = .ok program.exports

theorem BringUp.sound_error (config : Config) (e : InstantiationError) :
    BringUp.Sound config (⟨.error e, []⟩ : BringUp σ) :=
  ⟨by simp, by simp⟩

theorem loadStaged_sound (b : Backend σ) (config : Config) (r : Registry) (bytecode : Bytes)
    (host : HostBindings) (metadata : Metadata) (staged : Staged) :
    (loadStaged b config r bytecode host metadata staged).Sound config := by
  have hload : ∀ result events, TraceEntry.Quiet ⟨.load result, events⟩ :=
    fun _ _ _ _ _ => SandboxCall.noConfusion
  unfold loadStaged
  split
  · exact ⟨by simpa using hload _ _, by simp⟩
  · rename_i sandbox events hsandbox
    dsimp only
    have hexports : TraceEntry.Quiet ⟨.exports (b.exports sandbox), []⟩ :=
      fun _ _ _ => SandboxCall.noConfusion
    have hrelease : TraceEntry.Quiet ⟨.release, []⟩ := fun _ _ _ => SandboxCall.noConfusion
    split
    · rename_i program r' t hfrom
      obtain ⟨added, htrace, hadded⟩ := prepare_leads.of_from hfrom
      have hquiet : ∀ entry ∈ t.trace, entry.Quiet := by
        rw [htrace]
        simpa using ⟨hload _ _, hexports, hadded⟩
      refine ⟨hquiet, fun hok => ?_⟩
      cases hok
      exact ⟨⟨.exports (b.exports sandbox), []⟩, by simp [htrace], _, rfl, metadata, _,
        prepare_ok hfrom⟩
    · rename_i e t hfrom
      obtain ⟨added, htrace, hadded⟩ := prepare_leads.of_from hfrom
      refine ⟨?_, by simp⟩
      rw [htrace]
      simpa [or_imp, forall_and] using ⟨hload _ _, hexports, hadded, hrelease⟩

theorem bringUp_sound (b : Backend σ) (config : Config) (r : Registry) (bytecode : Bytes)
    (host : HostBindings) : (bringUp b config r bytecode host).Sound config := by
  unfold bringUp
  split
  · exact BringUp.sound_error config _
  · dsimp only
    split
    · exact BringUp.sound_error config _
    · exact loadStaged_sound b config r bytecode host _ _

end BringUp

namespace Runtime

/-- A runtime that has no module yet is brought up or fails; any other refuses. -/
theorem instantiate_cases (b : Backend σ) (r : Registry) (rt : Runtime σ) (bytecode : Bytes)
    (host : HostBindings) :
    (rt.phase = .uninstantiated ∧ ∃ program sandbox r',
      (bringUp b rt.config r bytecode host).result = .ok (program, sandbox, r') ∧
        instantiate b r rt bytecode host =
          (⟨.ok (), ⟨rt.config, .ready (digestText bytecode) program sandbox⟩,
            (bringUp b rt.config r bytecode host).trace⟩, r')) ∨
    (rt.phase = .uninstantiated ∧ ∃ e,
      (bringUp b rt.config r bytecode host).result = .error e ∧
        instantiate b r rt bytecode host =
          (⟨.error (.instantiation e),
            ⟨rt.config, .unloaded (digestText bytecode) (.instantiation e)⟩,
            (bringUp b rt.config r bytecode host).trace⟩, r)) ∨
    rt.phase ≠ .uninstantiated ∧
      instantiate b r rt bytecode host = (rt.refuse (.invalidState .instantiate rt.state), r) := by
  unfold instantiate
  split
  · rename_i hphase
    rcases hup : (bringUp b rt.config r bytecode host).result with e | ⟨program, sandbox, r'⟩
    · exact .inr (.inl ⟨hphase, e, rfl, by simp only [hup]⟩)
    · exact .inl ⟨hphase, program, sandbox, r', rfl, by simp only [hup]⟩
  · rename_i hphase
    exact .inr (.inr ⟨hphase, rfl⟩)

theorem keeps_close (rt : Runtime σ) :
    Keeps (α := Unit) TraceEntry.Quiet rt ⟨.ok (), rt.close.1, rt.close.2⟩ := by
  obtain ⟨config, phase⟩ := rt
  have hrelease : TraceEntry.Quiet ⟨.release, []⟩ := fun _ _ _ => SandboxCall.noConfusion
  cases phase <;> exact ⟨rfl, rfl, by simp [close, sandbox?, hrelease]⟩

end Runtime

/-! ## Requests -/

/-- What is asked of a runtime, or by others of the registry it shares. -/
inductive Request where
  | registry (request : RegistryRequest)
  | instantiate (bytecode : Bytes) (host : HostBindings)
  | call (name : String) (args : List Value)
  | callMulti (name : String) (args : List Value)
  | writeStruct (v : StructValue)
  | readStruct (typeName : String) (address : UInt32)
  | close

/-- A runtime, the registry it shares, and what was asked of its sandbox so far. -/
structure World (σ : Type) where
  registry : Registry
  runtime : Runtime σ
  trace : Trace

namespace World

/-- A runtime before its module. -/
def start (r : Registry) (config : Config) : World σ :=
  ⟨r, .new config, []⟩

/-- The world after an operation of the runtime. -/
def took (w : World σ) (runtime : Runtime σ) (trace : Trace) : World σ :=
  ⟨w.registry, runtime, w.trace ++ trace⟩

/-- The world after a request. -/
def after (b : Backend σ) (w : World σ) : Request → World σ
  | .registry request => { w with registry := w.registry.after request }
  | .instantiate bytecode host =>
      let (out, r) := w.runtime.instantiate b w.registry bytecode host
      { w.took out.runtime out.trace with registry := r }
  | .call name args =>
      let out := w.runtime.call b name args
      w.took out.runtime out.trace
  | .callMulti name args =>
      let out := w.runtime.callMulti b name args
      w.took out.runtime out.trace
  | .writeStruct v =>
      let out := w.runtime.writeStruct b w.registry v
      w.took out.runtime out.trace
  | .readStruct typeName address =>
      let out := w.runtime.readStruct b w.registry typeName address
      w.took out.runtime out.trace
  | .close =>
      let (runtime, trace) := w.runtime.close
      w.took runtime trace

/-- The world after a run of requests. -/
def afterAll (b : Backend σ) (w : World σ) (requests : List Request) : World σ :=
  requests.foldl (after b) w

end World

end GuestBridge
