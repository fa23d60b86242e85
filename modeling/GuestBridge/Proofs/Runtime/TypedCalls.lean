import GuestBridge.Proofs.Runtime.World
import GuestBridge.Sandbox.Scripted

/-!
# Calls are typed

Every function of a runtime has the words of an export that its sandbox has listed, and so has every
call that was made (`World.Typed`).  This holds of a new runtime, every request keeps it, and so it
holds after every run.
-/

namespace GuestBridge

variable {σ α : Type} {b : Backend σ} {config : Config} {w : World σ}

/-- The sandbox has listed the export. -/
def Trace.Lists (t : Trace) (e : ExportInfo) : Prop :=
  ∃ entry ∈ t, ∃ found, entry.call = .exports found ∧ e ∈ found

/-- If the entry asks for an export, one of its name is listed before with the words given to it,
and it is not the initializer. -/
def TraceEntry.Justified (config : Config) (before : Trace) (entry : TraceEntry) : Prop :=
  ∀ name words result, entry.call = .invoke name words result →
    config.initializer ≠ some name ∧
      ∃ e, before.Lists e ∧ e.name = name ∧ e.params = words.map Word.type

theorem Trace.Lists.append {t : Trace} {e : ExportInfo} (h : t.Lists e) (t' : Trace) :
    Trace.Lists (t ++ t') e := by
  obtain ⟨entry, hentry, hfound⟩ := h
  exact ⟨entry, List.mem_append_left _ hentry, hfound⟩

theorem TraceEntry.Justified.append {before : Trace} {entry : TraceEntry}
    (h : entry.Justified config before) (t : Trace) : entry.Justified config (before ++ t) := by
  intro name words result hcall
  obtain ⟨hinit, e, he, hwords⟩ := h name words result hcall
  exact ⟨hinit, e, he.append t, hwords⟩

theorem TraceEntry.Quiet.justified {entry : TraceEntry} (h : entry.Quiet) (before : Trace) :
    entry.Justified config before :=
  fun name words result hcall => (h name words result hcall).elim

namespace World

/-- Each function of the runtime has the words of a listed export that is not the initializer, and
each entry of the trace is justified by those before it. -/
structure Typed (config : Config) (w : World σ) : Prop where
  config_eq : w.runtime.config = config
  table : ∀ name s, w.runtime.signature? name = some s → config.initializer ≠ some name ∧
    ∃ e, w.trace.Lists e ∧ e.name = name ∧ s.wireParams = e.params ∧ s.wireResults = e.results
  calls : ∀ before entry later, w.trace = before ++ entry :: later →
    entry.Justified config before

theorem typed_start (r : Registry) (config : Config) : (start r config : World σ).Typed config := by
  refine ⟨rfl, fun name s h => ?_, fun before entry later h => ?_⟩
  · simp [start, Runtime.new, Runtime.signature?, Runtime.exports, Runtime.program,
      Program.none] at h
  · simp [start] at h

/-- Entries that are justified by the trace so far may be added to it. -/
theorem Typed.justified_append (h : w.Typed config) {trace : Trace}
    (htrace : ∀ entry ∈ trace, entry.Justified config w.trace) (before : Trace)
    (entry : TraceEntry) (later : Trace) (hsplit : w.trace ++ trace = before ++ entry :: later) :
    entry.Justified config before := by
  rcases List.append_eq_append_iff.1 hsplit with ⟨added, rfl, hadded⟩ | ⟨added, hbefore, hadded⟩
  · exact (htrace entry (by simp [hadded])).append added
  · cases added with
    | nil =>
        rw [List.append_nil] at hbefore
        rw [List.nil_append] at hadded
        exact hbefore ▸ htrace entry (by simp [← hadded])
    | cons entry' rest =>
        obtain ⟨rfl, -⟩ := List.cons.inj hadded
        exact h.calls before entry rest hbefore

/-- An operation that keeps the program and asks at most for its functions. -/
theorem Typed.took (h : w.Typed config) {out : Outcome σ α} {P : TraceEntry → Prop}
    (hkeeps : Runtime.Keeps P w.runtime out)
    (hP : ∀ entry, P entry → Runtime.CallEntry w.runtime entry) :
    (w.took out.runtime out.trace).Typed config := by
  have hsignature : ∀ name, out.runtime.signature? name = w.runtime.signature? name := by
    intro name
    rw [Runtime.signature?, Runtime.exports, hkeeps.program]
    rfl
  refine ⟨hkeeps.config.trans h.config_eq, fun name s hs => ?_,
    h.justified_append fun entry hentry => ?_⟩
  · rw [World.took, hsignature] at hs
    obtain ⟨hinit, e, he, hwords⟩ := h.table name s hs
    exact ⟨hinit, e, he.append _, hwords⟩
  · rcases hP entry (hkeeps.trace entry hentry) with
      hquiet | ⟨name, s, hs, words, result, hcall, htypes⟩
    · exact hquiet.justified _
    · obtain ⟨hinit, e, he, hname, hparams, -⟩ := h.table name s hs
      rintro _ _ _ hcall'
      obtain ⟨rfl, rfl, rfl⟩ := SandboxCall.invoke.inj (hcall.symm.trans hcall')
      exact ⟨hinit, e, he, hname, by rw [htypes, hparams]⟩

/-- Bringing up a module lists the exports whose words its functions have. -/
theorem Typed.instantiate (h : w.Typed config) (b : Backend σ) (bytecode : Bytes)
    (host : HostBindings) : (w.after b (.instantiate bytecode host)).Typed config := by
  have hsound := bringUp_sound b w.runtime.config w.registry bytecode host
  have hquiet : ∀ entry ∈ (bringUp b w.runtime.config w.registry bytecode host).trace,
      entry.Justified config w.trace := fun entry hentry => (hsound.quiet entry hentry).justified _
  rcases Runtime.instantiate_cases b w.registry w.runtime bytecode host with
    ⟨-, program, sandbox, r', hup, heq⟩ | ⟨-, e, -, heq⟩ | ⟨-, heq⟩
  · obtain ⟨entry, hentry, found, hcall, metadata, lookup, htable⟩ := hsound.listed hup
    rw [World.after, heq]
    refine ⟨h.config_eq, fun name s hs => ?_, h.justified_append hquiet⟩
    rcases exportSignatures_get? htable hs with hnone | ⟨hinit, e, he, hwords⟩
    · simp at hnone
    · rw [h.config_eq] at hinit
      exact ⟨hinit, e, ⟨entry, List.mem_append_right _ hentry, found, hcall, he⟩, hwords⟩
  · rw [World.after, heq]
    refine ⟨h.config_eq, fun name s hs => ?_, h.justified_append hquiet⟩
    simp [World.took, Runtime.signature?, Runtime.exports, Runtime.program, Program.none] at hs
  · rw [World.after, heq]
    exact h.took (Runtime.keeps_refuse (α := Unit) _ _) fun _ => id

theorem Typed.after (h : w.Typed config) (b : Backend σ) (request : Request) :
    (w.after b request).Typed config := by
  cases request with
  | registry request => exact ⟨h.config_eq, h.table, h.calls⟩
  | instantiate bytecode host => exact h.instantiate b bytecode host
  | call name args => exact h.took (Runtime.keeps_call b w.runtime name args) fun _ => id
  | callMulti name args => exact h.took (Runtime.keeps_callMulti b w.runtime name args) fun _ => id
  | writeStruct v => exact h.took (Runtime.keeps_writeStruct b w.registry w.runtime v) fun _ => .inl
  | readStruct typeName address =>
      exact h.took (Runtime.keeps_readStruct b w.registry w.runtime typeName address) fun _ => .inl
  | close => exact h.took (Runtime.keeps_close w.runtime) fun _ => .inl

theorem Typed.afterAll (h : w.Typed config) (b : Backend σ) (requests : List Request) :
    (w.afterAll b requests).Typed config := by
  induction requests generalizing w with
  | nil => exact h
  | cons request rest ih => exact ih (h.after b request)

/-- Whatever a run asks of an export, one of that name was listed before with just the words that
are given to it, and it is not the initializer.  A call answers with values of the result kinds of
its function only, and never on words of other types than theirs. -/
theorem afterAll_typed (b : Backend σ) (r : Registry) (config : Config)
    (requests : List Request) :
    let w := (start r config).afterAll b requests
    (∀ before entry later name words result, w.trace = before ++ entry :: later →
      entry.call = .invoke name words result →
        config.initializer ≠ some name ∧
          ∃ e, Trace.Lists before e ∧ e.name = name ∧ e.params = words.map Word.type) ∧
    ∀ name args,
      (∀ values, (w.runtime.callMulti b name args).result = .ok values →
        ∃ s, w.runtime.signature? name = some s ∧ values.map Value.kind = s.results ∧
          (w.runtime.callMulti b name args).trace.Answered name s.wireResults) ∧
      ∀ v, (w.runtime.call b name args).result = .ok v →
        ∃ s, w.runtime.signature? name = some s ∧ [v.kind] = s.results ∧
          (w.runtime.call b name args).trace.Answered name s.wireResults := by
  intro w
  have htyped : w.Typed config := (typed_start r config).afterAll b requests
  refine ⟨fun before entry later name words result hsplit => ?_, fun name args => ⟨?_, ?_⟩⟩
  · exact htyped.calls before entry later hsplit name words result
  · exact fun values hok => Runtime.callMulti_ok hok
  · intro v hok
    obtain ⟨hmulti, htrace⟩ := Runtime.call_ok hok
    obtain ⟨s, hs, hkinds, hanswered⟩ := Runtime.callMulti_ok hmulti
    exact ⟨s, hs, hkinds, htrace ▸ hanswered⟩

/-- A sandbox with an initializer and an export that answers with what it is given. -/
def echoScript : Scripted.Script where
  exports := [⟨"_initialize", [], []⟩, ⟨"echo", [.i32], [.i32]⟩]
  arena := .zeroed 64 256 []
  loadFailure := none
  initializer := .ok true
  actions := [("echo", [⟨none, .echo⟩])]

/-- The echo is brought up and called. -/
def echoRequests : List Request :=
  [.instantiate [] .empty, .callMulti "echo" [.i32 7]]

theorem afterAll_typed_echo :
    (∃ e, Trace.Lists [⟨.load (.ok ()), []⟩, ⟨.exports echoScript.exports, []⟩,
        ⟨.runInitializer "_initialize" (.ok true), []⟩] e ∧
      e.name = "echo" ∧ e.params = [.i32]) ∧
    ∃ s, ((start .primitives .standard).afterAll (Scripted.backend echoScript)
        echoRequests).runtime.signature? "echo" = some s ∧ [Kind.i32] = s.results := by
  obtain ⟨hcalls, hanswers⟩ :=
    afterAll_typed (Scripted.backend echoScript) .primitives .standard echoRequests
  obtain ⟨-, hlisted⟩ := hcalls _ ⟨.invoke "echo" [.i32 7] (.ok [.i32 7]), []⟩ [] "echo" _ _ rfl rfl
  obtain ⟨s, hs, hresults, -⟩ := (hanswers "echo" [.i32 7]).1 [.i32 7] rfl
  exact ⟨hlisted, s, hs, hresults⟩

end World

end GuestBridge
