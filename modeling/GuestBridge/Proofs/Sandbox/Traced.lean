import GuestBridge.Sandbox.Backend
import GuestBridge.Proofs.Fallible

/-!
# Requests in order

`Trace.Asks` says that a trace asks for keys in order, up to the first request that fails.  This is
the trace of a walk over keys that makes one request for each, and the walk does the same where
nothing is traced (`mapM_perform`).  `GuestMemory.traced` is guest memory that keeps what is asked
of it.
-/

namespace GuestBridge

variable {σ μ κ α : Type}

/-- The trace asks for the keys in order, up to the first request that fails, and was answered with
these answers or this failure. -/
inductive Trace.Asks (call : κ → Except SandboxError α → SandboxCall) :
    List κ → Trace → Except SandboxError (List α) → Prop where
  | done : Asks call [] [] (.ok [])
  | answered {key : κ} {keys : List κ} {a : α} {events : List HostEvent} {t : Trace}
      {answers : Except SandboxError (List α)} (h : Asks call keys t answers) :
      Asks call (key :: keys) (⟨call key (.ok a), events⟩ :: t) (answers.map (a :: ·))
  | failed {key : κ} {keys : List κ} {e : SandboxError} {events : List HostEvent} :
      Asks call (key :: keys) [⟨call key (.error e), events⟩] (.error e)

/-- An operation adds an entry with its answer to the trace. -/
theorem perform_from {op : σ → Reply σ α} {t : Traced σ} {answer : Except SandboxError α} {s : σ}
    {events : List HostEvent} (h : op t.sandbox = ⟨answer, s, events⟩)
    (entry : Except SandboxError α → SandboxCall) :
    (Backend.perform op entry).from t = (answer, ⟨s, t.trace ++ [⟨entry answer, events⟩]⟩) := by
  rw [Backend.perform, Fallible.from_ofFunction, h]

/-- On the states that `state` makes of a state and a trace, the second computation does what the
first does, and adds its request with the answer to the trace. -/
def Fallible.TracedBy {τ : Type} (state : σ → Trace → τ)
    (call : Except SandboxError α → SandboxCall) (c : Fallible σ SandboxError α)
    (c' : Fallible τ SandboxError α) : Prop :=
  ∀ s t, ∃ events, c'.from (state s t) =
    ((c.from s).1, state (c.from s).2 (t ++ [⟨call (c.from s).1, events⟩]))

/-- A walk does with a trace what it does without one, and the trace asks for the keys in order. -/
theorem mapM_tracedBy {τ : Type} {state : σ → Trace → τ} {ask : κ → Fallible σ SandboxError α}
    {ask' : κ → Fallible τ SandboxError α} {call : κ → Except SandboxError α → SandboxCall}
    (hask : ∀ key, (ask key).TracedBy state (call key) (ask' key)) (keys : List κ) (s : σ)
    (t : Trace) :
    ∃ answers s' added, (keys.mapM ask).from s = (answers, s') ∧
      (keys.mapM ask').from (state s t) = (answers, state s' (t ++ added)) ∧
      Trace.Asks call keys added answers := by
  induction keys generalizing s t with
  | nil => exact ⟨.ok [], s, [], rfl, by rw [List.append_nil]; rfl, .done⟩
  | cons key keys ih =>
      obtain ⟨events, htraced⟩ := hask key s t
      rw [List.mapM_cons, List.mapM_cons, Fallible.from_bind, Fallible.from_bind, htraced]
      rcases (ask key).from s with ⟨answer, s₁⟩
      cases answer with
      | error e => exact ⟨.error e, s₁, _, rfl, rfl, .failed⟩
      | ok a =>
          obtain ⟨answers, s', added, hrest, hrest', hasks⟩ :=
            ih s₁ (t ++ [⟨call key (.ok a), events⟩])
          refine ⟨answers.map (a :: ·), s', ⟨call key (.ok a), events⟩ :: added, ?_, ?_,
            hasks.answered⟩
          · dsimp only
            rw [bind_pure_comp, Fallible.from_map, hrest]
          · dsimp only
            rw [bind_pure_comp, Fallible.from_map, hrest', List.append_assoc]
            rfl

/-- A sandbox does with a trace what it does without one, and the trace asks for the keys in
order. -/
theorem mapM_perform (ask : κ → Fallible σ SandboxError α) (op : κ → σ → Reply σ α)
    (hask : ∀ key s, (ask key).from s = ((op key s).result, (op key s).state))
    (call : κ → Except SandboxError α → SandboxCall) (keys : List κ) (t : Traced σ) :
    ∃ answers s added, (keys.mapM ask).from t.sandbox = (answers, s) ∧
      (keys.mapM fun key => Backend.perform (op key) (call key)).from t =
        (answers, ⟨s, t.trace ++ added⟩) ∧ Trace.Asks call keys added answers := by
  have htraced : ∀ key, (ask key).TracedBy Traced.mk (call key)
      (Backend.perform (op key) (call key)) := by
    intro key s t
    rw [hask]
    exact ⟨(op key s).events, rfl⟩
  exact mapM_tracedBy htraced keys t.sandbox t.trace

/-- A walk that makes one request for each key leaves a trace that asks for them in order. -/
theorem mapM_perform_asks (op : κ → σ → Reply σ α)
    (call : κ → Except SandboxError α → SandboxCall) (keys : List κ) (t : Traced σ) :
    ∃ answers s added,
      (keys.mapM fun key => Backend.perform (op key) (call key)).from t =
        (answers, ⟨s, t.trace ++ added⟩) ∧ Trace.Asks call keys added answers := by
  obtain ⟨answers, s, added, -, htraced, hasks⟩ := mapM_perform
    (fun key => .ofFunction fun s => ((op key s).result, (op key s).state)) op (fun _ _ => rfl)
    call keys t
  exact ⟨answers, s, added, htraced, hasks⟩

/-- The reply of a computation in which nothing happens in the host. -/
def Fallible.reply (c : Fallible μ SandboxError α) (s : μ) : Reply μ α :=
  ⟨(c.from s).1, (c.from s).2, []⟩

/-- Guest memory that keeps what is asked of it. -/
def GuestMemory.traced (mem : GuestMemory μ) : GuestMemory (Traced μ) where
  alloc bytes := Backend.perform (mem.alloc bytes).reply (.alloc bytes)
  read address length := Backend.perform (mem.read address length).reply (.read address length)

end GuestBridge
