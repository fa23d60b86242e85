import GuestBridge.Proofs.Runtime.Faults
import GuestBridge.Proofs.Runtime.Instantiate

/-!
# Sandboxes are released once

What was asked of the sandbox of a runtime tells whether it has one.  `Trace.Held` is the trace of a
sandbox that was loaded and is in use, and `Trace.Over` that of one that was not loaded or has been
released; nothing comes after the release.  A runtime has a sandbox just while its trace is held
(`World.Accounted`): bringing up a module leaves the one or the other, requests for the guest only
use what is held, and closing releases it.  Dropping a runtime is closing it a last time.
-/

namespace GuestBridge

variable {σ : Type} {b : Backend σ}

/-! ## Traces of a sandbox -/

/-- The entry asks something of a sandbox that is loaded. -/
def TraceEntry.InUse (entry : TraceEntry) : Prop :=
  match entry.call with
  | .exports _ | .runInitializer .. | .invoke .. | .alloc .. | .read .. => True
  | .load _ | .release => False

theorem TraceEntry.InGuest.inUse {entry : TraceEntry} (h : entry.InGuest) : entry.InUse := by
  obtain ⟨call, events⟩ := entry
  cases call <;> first | exact trivial | exact h.elim

theorem TraceEntry.InUse.not_counted {entry : TraceEntry} (h : entry.InUse) :
    entry.loaded = false ∧ entry.released = false := by
  obtain ⟨call, events⟩ := entry
  cases call <;> first | exact ⟨rfl, rfl⟩ | exact h.elim

namespace Trace

/-- A sandbox was loaded and then used. -/
def Held (t : Trace) : Prop :=
  ∃ events used, t = ⟨.load (.ok ()), events⟩ :: used ∧ ∀ entry ∈ used, entry.InUse

/-- No sandbox was loaded, or one was loaded, used and released. -/
inductive Over : Trace → Prop where
  | unloaded {t : Trace} (h : ∀ entry ∈ t, ∃ e, entry.call = .load (.error e)) : Over t
  | released {t : Trace} (h : t.Held) : Over (t ++ [⟨.release, []⟩])

variable {t : Trace}

theorem Held.append (h : t.Held) {added : Trace} (hadded : ∀ entry ∈ added, entry.InUse) :
    Held (t ++ added) := by
  obtain ⟨events, used, rfl, hused⟩ := h
  exact ⟨events, used ++ added, rfl, List.forall_mem_append.2 ⟨hused, hadded⟩⟩

theorem Held.counts (h : t.Held) : t.loads = 1 ∧ t.releases = 0 := by
  obtain ⟨events, used, rfl, hused⟩ := h
  have hloads : used.countP TraceEntry.loaded = 0 :=
    List.countP_eq_zero.2 fun entry hentry => by simp [(hused entry hentry).not_counted.1]
  have hreleases : used.countP TraceEntry.released = 0 :=
    List.countP_eq_zero.2 fun entry hentry => by simp [(hused entry hentry).not_counted.2]
  constructor
  · rw [loads, List.countP_cons, hloads]
    rfl
  · rw [releases, List.countP_cons, hreleases]
    rfl

theorem Held.not_release (h : t.Held) {entry : TraceEntry} (hentry : entry ∈ t) :
    entry.call ≠ .release := by
  obtain ⟨events, used, rfl, hused⟩ := h
  intro hcall
  rcases List.mem_cons.1 hentry with rfl | hentry
  · cases hcall
  · have huse := hused entry hentry
    rw [TraceEntry.InUse, hcall] at huse
    exact huse

theorem over_nil : Over [] :=
  .unloaded (by simp)

theorem counts_of_unloaded (h : ∀ entry ∈ t, ∃ e, entry.call = .load (.error e)) :
    t.loads = 0 ∧ t.releases = 0 := by
  refine ⟨List.countP_eq_zero.2 fun entry hentry => ?_,
    List.countP_eq_zero.2 fun entry hentry => ?_⟩
  · obtain ⟨e, hcall⟩ := h entry hentry
    simp [TraceEntry.loaded, hcall]
  · obtain ⟨e, hcall⟩ := h entry hentry
    simp [TraceEntry.released, hcall]

/-- When it is over, what was loaded is released, and there was at most one. -/
theorem Over.counts (h : t.Over) : t.loads ≤ 1 ∧ t.releases = t.loads := by
  cases h with
  | unloaded h =>
      obtain ⟨hloads, hreleases⟩ := counts_of_unloaded h
      omega
  | released h =>
      obtain ⟨hloads, hreleases⟩ := h.counts
      obtain ⟨hloads, hreleases, -⟩ := Counts.release ⟨hloads, hreleases, rfl⟩
      omega

/-- Nothing is released before it is loaded. -/
theorem Over.releases_le (h : t.Over) {before : Trace} (hbefore : before <+: t) :
    before.releases ≤ before.loads := by
  have hle : before.releases ≤ t.releases := hbefore.sublist.countP_le
  have hcounts := h.counts
  cases h with
  | unloaded h =>
      have hnone := (counts_of_unloaded h).2
      omega
  | released h =>
      rcases List.prefix_concat_iff.1 hbefore with rfl | hbefore
      · omega
      · have hnone := h.counts.2
        have hle' : before.releases ≤ _ := hbefore.sublist.countP_le
        rw [releases] at hnone
        omega

/-- Nothing is asked for after the release. -/
theorem Over.eq_nil_of_release (h : t.Over) {before after : Trace} {entry : TraceEntry}
    (ht : t = before ++ entry :: after) (hentry : entry.call = .release) : after = [] := by
  cases h with
  | unloaded h =>
      obtain ⟨e, hcall⟩ := h entry (by simp [ht])
      cases hcall.symm.trans hentry
  | released h =>
      rcases eq_last_or_mem ht with ⟨rfl, -, -⟩ | hmem
      · rfl
      · exact (h.not_release hmem hentry).elim

end Trace

/-! ## Bringing up -/

section BringUp

variable {config : Config} {r : Registry} {bytecode : Bytes} {host : HostBindings}

theorem Backend.entryTrace_inUse (b : Backend σ) (initializer : Option String) (sandbox : σ) :
    ∀ entry ∈ b.entryTrace initializer sandbox, entry.InUse := by
  intro entry hentry
  unfold Backend.entryTrace at hentry
  cases initializer with
  | none => cases hentry
  | some name =>
      obtain rfl := List.mem_singleton.1 hentry
      exact trivial

theorem Opened.trace_held (o : Opened b config r bytecode host) : o.trace.Held :=
  ⟨o.events, [⟨.exports (b.exports o.sandbox), []⟩], rfl, fun entry hentry => by
    obtain rfl := List.mem_singleton.1 hentry
    exact trivial⟩

theorem Opened.enteredTrace_held (o : Opened b config r bytecode host) : o.enteredTrace.Held :=
  o.trace_held.append (b.entryTrace_inUse _ _)

namespace BringUp.Course

variable {up : BringUp σ} (h : Course b config r bytecode host up)
include h

theorem trace_held {program : Program} {sandbox : σ} {r' : Registry}
    (hok : up.result = .ok (program, sandbox, r')) : up.trace.Held := by
  obtain ⟨o, -, -, -, -, htrace⟩ := h.of_ok hok
  rw [htrace]
  exact o.enteredTrace_held

theorem trace_over {e : InstantiationError} (he : up.result = .error e) : up.trace.Over := by
  cases h with
  | unread _ | unstaged _ _ => exact Trace.over_nil
  | unloaded _ =>
      refine .unloaded fun entry hentry => ?_
      obtain rfl := List.mem_singleton.1 hentry
      exact ⟨_, rfl⟩
  | unsettled o _ => exact .released o.trace_held
  | unentered o _ _ _ | uncommitted o _ _ => exact .released o.enteredTrace_held
  | up o _ _ => cases he

end BringUp.Course

end BringUp

/-! ## Runs -/

namespace World

variable {w : World σ}

/-- The runtime has a sandbox just while its trace is held. -/
def Accounted (w : World σ) : Prop :=
  match w.runtime.phase with
  | .uninstantiated => w.trace = []
  | .ready .. | .broken .. => w.trace.Held
  | .unloaded .. | .closed .. => w.trace.Over

theorem accounted_start (r : Registry) (config : Config) :
    (World.start r config : World σ).Accounted :=
  rfl

theorem Accounted.held (h : w.Accounted) (hsandbox : w.runtime.sandbox?.isSome) :
    w.trace.Held := by
  obtain ⟨r, ⟨config, phase⟩, t⟩ := w
  cases phase with
  | ready | broken => exact h
  | _ => cases hsandbox

theorem Accounted.idle (h : w.Accounted) {r : Registry} :
    Accounted ⟨r, w.runtime, w.trace ++ []⟩ := by
  rw [List.append_nil]
  exact h

/-- Closing a runtime releases what it has. -/
theorem Accounted.close (h : w.Accounted) (b : Backend σ) :
    (w.after b .close).trace.Over ∧ (w.after b .close).Accounted := by
  have hover : (w.after b .close).trace.Over := by
    obtain ⟨r, ⟨config, phase⟩, t⟩ := w
    cases phase with
    | uninstantiated =>
        obtain rfl : t = [] := h
        exact Trace.over_nil
    | ready | broken => exact .released h
    | unloaded | closed =>
        have hover : Trace.Over (t ++ []) := by
          rw [List.append_nil]
          exact h
        exact hover
  refine ⟨hover, ?_⟩
  obtain ⟨r, ⟨config, phase⟩, t⟩ := w
  cases phase <;> exact hover

theorem Accounted.after (h : w.Accounted) (b : Backend σ) (request : Request) :
    (w.after b request).Accounted := by
  have hnew : w.runtime.phase = .uninstantiated → w.trace = [] := by
    intro hphase
    rwa [Accounted, hphase] at h
  have hcase := Runtime.answer_case b w.registry w.runtime request
  rw [after_eq]
  generalize w.runtime.answer b w.registry request = answered at hcase ⊢
  cases hcase with
  | registry | again | refused => exact h.idle
  | up hphase hup =>
      rw [hnew hphase]
      exact (bringUp_course b _ _ _ _).trace_held hup
  | down hphase hup =>
      rw [hnew hphase]
      exact (bringUp_course b _ _ _ _).trace_over hup
  | served _ hphase x hinGuest =>
      have hheld := (h.held (by rw [Runtime.sandbox?, hphase]; rfl)).append fun entry hentry =>
        (hinGuest entry hentry).inUse
      unfold Accounted Runtime.phaseAfter
      cases fatalTrap? x <;> exact hheld
  | closed =>
      have hclosed := (h.close b).2
      rwa [after_eq] at hclosed

theorem Accounted.afterAll (h : w.Accounted) (b : Backend σ) (requests : List Request) :
    (w.afterAll b requests).Accounted := by
  induction requests generalizing w with
  | nil => exact h
  | cons request rest ih => exact ih (h.after b request)

end World

namespace Runtime

variable {rt : Runtime σ} {r : Registry} {request : Request} {operation : Operation}

/-- Whatever is asked of the guest, the sandbox stays. -/
theorem sandbox?_of_answer (b : Backend σ) (r : Registry) (hready : rt.state = .ready)
    (hguest : request.operation? = some operation) :
    (rt.answer b r request).1.runtime.sandbox?.isSome := by
  rcases answer_guest_cases b r rt hguest with
    ⟨e, heq⟩ | ⟨digest, program, sandbox, hphase, x, t, -, heq⟩
  · obtain ⟨config, phase⟩ := rt
    cases phase with
    | ready => rw [heq]; rfl
    | _ => cases hready
  · rw [heq]
    unfold sandbox? phaseAfter
    cases fatalTrap? x <;> rfl

end Runtime

namespace World

/-- Whatever is asked of a runtime before it is dropped, at most one sandbox was loaded, it was
released as often as it was loaded, never before that, and nothing was asked of it afterwards.  A
trap in the guest releases nothing: the sandbox is there until the runtime is closed. -/
theorem afterAll_released (b : Backend σ) (r : Registry) (config : Config)
    (requests : List Request) :
    let w := (World.start r config).afterAll b requests
    let t := (w.after b .close).trace
    (t.loads ≤ 1 ∧ t.releases = t.loads) ∧
    (∀ before : Trace, before <+: t → before.releases ≤ before.loads) ∧
    (∀ (before after : Trace) entry, t = before ++ entry :: after → entry.call = .release →
      after = []) ∧
    ∀ request operation, w.runtime.state = .ready → request.operation? = some operation →
      ∀ entry ∈ (w.runtime.answer b w.registry request).1.trace, ∀ message,
        entry.failure? = some (.trap message true) → ∀ more, Request.close ∉ more →
          let w' := (w.after b request).afterAll b more
          w'.runtime.state = .failed ∧ w'.runtime.sandbox?.isSome ∧
            w'.trace.loads = 1 ∧ w'.trace.releases = 0 := by
  intro w t
  have haccounted : w.Accounted := (accounted_start r config).afterAll b requests
  have hover : t.Over := (haccounted.close b).1
  refine ⟨hover.counts, fun before => hover.releases_le,
    fun before after entry => hover.eq_nil_of_release, ?_⟩
  intro request operation hready hguest entry hentry message htrap more hopen
  have hruntime : (w.after b request).runtime =
      (w.runtime.answer b w.registry request).1.runtime := by rw [after_eq]
  have hfailed : (w.after b request).runtime.state = .failed := by
    rw [hruntime]
    exact Runtime.state_of_failure? (Runtime.answer_of_fatal b _ hready hguest hentry htrap).2
  have hsame := (afterAll_of_failed (b := b) hfailed more).2 hopen
  have hsandbox : ((w.after b request).afterAll b more).runtime.sandbox?.isSome := by
    rw [hsame, hruntime]
    exact Runtime.sandbox?_of_answer b w.registry hready hguest
  refine ⟨hsame ▸ hfailed, hsandbox, ?_⟩
  exact (((haccounted.after b request).afterAll b more).held hsandbox).counts

/-- A runtime whose only export traps fatally. -/
def trapWorld : World Scripted.State :=
  (World.start .primitives .standard).afterAll (Scripted.backend Cells.trapScript)
    [.instantiate [] .empty]

theorem afterAll_released_trap :
    (trapWorld.after (Scripted.backend Cells.trapScript) .close).trace.releases =
      (trapWorld.after (Scripted.backend Cells.trapScript) .close).trace.loads ∧
    ∀ more, Request.close ∉ more →
      let w := (trapWorld.after (Scripted.backend Cells.trapScript) (.callMulti "boom" [])).afterAll
        (Scripted.backend Cells.trapScript) more
      w.runtime.sandbox?.isSome ∧ w.trace.releases = 0 := by
  obtain ⟨⟨-, hreleases⟩, -, -, htrap⟩ := afterAll_released (Scripted.backend Cells.trapScript)
    .primitives .standard [.instantiate [] .empty]
  refine ⟨hreleases, fun more hopen => ?_⟩
  obtain ⟨-, hsandbox, -, hnone⟩ := htrap (.callMulti "boom" []) .call rfl rfl
    ⟨.invoke "boom" [] (.error (.trap "gone" true)), []⟩ (List.mem_singleton.2 rfl) "gone" rfl
    more hopen
  exact ⟨hsandbox, hnone⟩

end World

end GuestBridge
