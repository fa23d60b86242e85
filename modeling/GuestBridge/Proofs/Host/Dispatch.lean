import GuestBridge.Host.Dispatch
import GuestBridge.Proofs.Call.Texts
import GuestBridge.Proofs.Runtime.Ends
import GuestBridge.Sandbox.Arena

/-!
# The steps of a call of the host

A call of a host function is taken apart into `HostStep`s: what it asks of guest memory, the run of
the body and the fault, in order.  `GuestMemory.logged` and `HostSide.logged` keep them without
changing what the call does, and `HostCalls` tells which steps there can be and what they come to:
the arguments are read, the body is run once on values of the declared kinds, and its answer is
placed, each only if nothing failed before (`dispatch_logged`).

So the words of an answer are those of the declared result, and a fault is fatal just when the body
or guest memory failed fatally (`dispatch_typed`).
-/

namespace GuestBridge

variable {μ α : Type}

/-! ## The body -/

namespace HostFunction

variable {f : HostFunction} {past : HostHistory} {ctx : HostContext} {v : Value}
  {e : HostCallError}

theorem callAfter_eq_ok_iff :
    f.callAfter past ctx = .ok v ↔ f.body past ctx = .ok v ∧ v.kind = f.result := by
  cases hbody : f.body past ctx with
  | error e => simp [callAfter, hbody]
  | ok v' =>
      simp only [callAfter, hbody, Except.ok.injEq]
      split_ifs with hkind
      · simp only [Except.ok.injEq]
        exact ⟨fun h => ⟨h, h ▸ hkind⟩, And.left⟩
      · simp only [false_iff, not_and]
        rintro rfl
        exact hkind

theorem callAfter_of_wrong_kind (hbody : f.body past ctx = .ok v) (hkind : v.kind ≠ f.result) :
    f.callAfter past ctx = .error (.failed (wrongResult ctx.function v.kind f.result)) := by
  rw [callAfter, hbody]
  exact if_neg hkind

theorem isFatal_iff_of_callAfter (h : f.callAfter past ctx = .error e) :
    e.isFatal = true ↔ ∃ message, f.body past ctx = .error (.fatal message) := by
  cases hbody : f.body past ctx with
  | error cause =>
      rw [callAfter, hbody] at h
      cases h
      cases e <;> simp [HostCallError.isFatal]
  | ok v =>
      have hkind : v.kind ≠ f.result := by
        intro hkind
        cases h.symm.trans (callAfter_eq_ok_iff.2 ⟨hbody, hkind⟩)
      cases h.symm.trans (callAfter_of_wrong_kind hbody hkind)
      simp [HostCallError.isFatal]

end HostFunction

/-! ## Where a call leads -/

theorem mapM_id_map_some (words : List Word) : (words.map some).mapM id = some words := by
  induction words with
  | nil => rfl
  | cons w words ih => simp [ih]

theorem HostSide.call_from (host : HostSide μ) (f : HostFunction) (ctx : HostContext) (s : μ) :
    (host.call f ctx).from s =
      (f.callAfter (host.past s) ctx, host.ran ⟨f, host.past s, ctx⟩ s) :=
  rfl

section Run

variable (mem : GuestMemory μ) (host : HostSide μ) (name : String) (f : HostFunction)
  (words : List Word) (operands : List (Option Word)) (s : μ)

theorem dispatchCall_words_from :
    (dispatchCall mem host name f (words.map some)).from s =
      match (liftValues mem f.params words).from s with
      | (.error e, s) => (.error ⟨name, .memory e⟩, s)
      | (.ok args, s) =>
          let r : HostRun := ⟨f, host.past s, ⟨name, args⟩⟩
          match f.callAfter r.past r.context with
          | .error e => (.error ⟨name, .call e⟩, host.ran r s)
          | .ok v => (forFunction name (lowerValues mem [v])).from (host.ran r s) := by
  rw [dispatchCall, mapM_id_map_some]
  dsimp only
  rw [Fallible.from_bind, forFunction, Fallible.from_adapt]
  rcases (liftValues mem f.params words).from s with ⟨e | args, s₁⟩
  · rfl
  · dsimp only [Except.mapError]
    rw [Fallible.from_bind, Fallible.from_adapt, HostSide.call_from]
    cases f.callAfter (host.past s₁) ⟨name, args⟩ <;> rfl

theorem dispatch_from :
    (dispatch mem host name f operands).from s =
      match (dispatchCall mem host name f operands).from s with
      | (.ok out, s) => (.ok out, s)
      | (.error fault, s) => (.error fault, host.failed fault s) := by
  rw [dispatch, Fallible.from_tryCatch]
  rcases (dispatchCall mem host name f operands).from s with ⟨fault | out, s₁⟩ <;> rfl

end Run

section Rules

variable {mem : GuestMemory μ} {host : HostSide μ}

/-- What guest memory and the host lead to, a call leads to. -/
theorem dispatch_leads {R : μ → μ → Prop} [IsPreorder μ R] (hmem : mem.Leads R)
    (hran : ∀ r s, R s (host.ran r s)) (hfailed : ∀ fault s, R s (host.failed fault s))
    (name : String) (f : HostFunction) (operands : List (Option Word)) :
    (dispatch mem host name f operands).Leads R := by
  have hcall : (dispatchCall mem host name f operands).Leads R := by
    rw [dispatchCall]
    cases operands.mapM id with
    | none => exact Fallible.leads_throw _
    | some words =>
        have hbody : ∀ ctx, (host.call f ctx).Leads R := fun _ s => hran _ s
        exact ((liftValues_leads hmem _ _).adapt _).bind fun args =>
          ((hbody _).adapt _).bind fun v => (lowerValues_leads hmem [v]).adapt _
  intro s
  have hs := hcall s
  rw [dispatch_from]
  rcases hfrom : (dispatchCall mem host name f operands).from s with ⟨fault | out, s'⟩
  · rw [hfrom] at hs
    exact IsTrans.trans _ _ _ hs (hfailed fault s')
  · rwa [hfrom] at hs

/-- What guest memory and the runs of bodies keep, a call keeps that answers. -/
theorem dispatch_keeps {P : μ → Prop} (hmem : mem.Keeps P)
    (hran : ∀ r s, P s → P (host.ran r s)) (name : String) (f : HostFunction)
    (operands : List (Option Word)) : (dispatch mem host name f operands).Keeps P := by
  have hcall : (dispatchCall mem host name f operands).Keeps P := by
    rw [dispatchCall]
    cases operands.mapM id with
    | none => exact Fallible.keeps_throw _
    | some words =>
        have hbody : ∀ ctx, (host.call f ctx).Keeps P := by
          rintro ctx s v s' hs hfrom
          obtain rfl : host.ran _ s = s' := congrArg Prod.snd hfrom
          exact hran _ s hs
        exact ((liftValues_keeps hmem _ _).adapt _).bind fun args =>
          ((hbody _).adapt _).bind fun v => (lowerValues_keeps hmem [v]).adapt _
  intro s out s' hs hfrom
  rw [dispatch_from] at hfrom
  rcases hcalled : (dispatchCall mem host name f operands).from s with ⟨fault | out', s''⟩
  · rw [hcalled] at hfrom
    cases hfrom
  · rw [hcalled] at hfrom
    cases hfrom
    exact hcall s out s' hs hcalled

end Rules

/-! ## Steps -/

/-- Something that is asked of guest memory, with its answer, a run of a body, or a fault. -/
inductive HostStep where
  | asked (entry : TraceEntry)
  | ran (r : HostRun)
  | failed (fault : HostFault)

namespace HostStep

/-- The run of the body. -/
def run? : HostStep → Option HostRun
  | ran r => some r
  | _ => none

/-- The error that guest memory answered with. -/
def failure? : HostStep → Option SandboxError
  | asked entry => entry.failure?
  | _ => none

end HostStep

/-- The runs of the body among steps. -/
def bodyRuns (steps : List HostStep) : List HostRun :=
  steps.filterMap HostStep.run?

/-- The errors of guest memory among steps. -/
def memoryFailures (steps : List HostStep) : List SandboxError :=
  steps.filterMap HostStep.failure?

@[simp]
theorem bodyRuns_nil : bodyRuns [] = [] :=
  rfl

@[simp]
theorem memoryFailures_nil : memoryFailures [] = [] :=
  rfl

@[simp]
theorem bodyRuns_append (steps more : List HostStep) :
    bodyRuns (steps ++ more) = bodyRuns steps ++ bodyRuns more :=
  List.filterMap_append

@[simp]
theorem bodyRuns_asked (t : Trace) : bodyRuns (t.map .asked) = [] := by
  simp [bodyRuns, List.filterMap_map, Function.comp_def, HostStep.run?]

@[simp]
theorem memoryFailures_append (steps more : List HostStep) :
    memoryFailures (steps ++ more) = memoryFailures steps ++ memoryFailures more :=
  List.filterMap_append

@[simp]
theorem memoryFailures_asked (t : Trace) :
    memoryFailures (t.map .asked) = t.filterMap TraceEntry.failure? := by
  simp [memoryFailures, List.filterMap_map, Function.comp_def, HostStep.failure?]

@[simp]
theorem memoryFailures_ran (r : HostRun) (steps : List HostStep) :
    memoryFailures (.ran r :: steps) = memoryFailures steps :=
  rfl

@[simp]
theorem memoryFailures_failed (fault : HostFault) (steps : List HostStep) :
    memoryFailures (.failed fault :: steps) = memoryFailures steps :=
  rfl

@[simp]
theorem bodyRuns_ran (r : HostRun) (steps : List HostStep) :
    bodyRuns (.ran r :: steps) = r :: bodyRuns steps :=
  rfl

@[simp]
theorem bodyRuns_failed (fault : HostFault) (steps : List HostStep) :
    bodyRuns (.failed fault :: steps) = bodyRuns steps :=
  rfl

/-- A state, and the steps so far. -/
structure Logged (μ : Type) where
  state : μ
  steps : List HostStep

/-- Asks something of guest memory and keeps it with its answer. -/
def logged (op : GuestM μ α) (entry : Except SandboxError α → SandboxCall) : GuestM (Logged μ) α :=
  .ofFunction fun l =>
    let (answer, s) := op.from l.state
    (answer, ⟨s, l.steps ++ [.asked ⟨entry answer, []⟩]⟩)

/-- Guest memory that keeps what is asked of it among the steps. -/
def GuestMemory.logged (mem : GuestMemory μ) : GuestMemory (Logged μ) where
  alloc bytes := GuestBridge.logged (mem.alloc bytes) (.alloc bytes)
  read address length := GuestBridge.logged (mem.read address length) (.read address length)

/-- A host that keeps the runs of bodies and the faults among the steps, too. -/
def HostSide.logged (host : HostSide μ) : HostSide (Logged μ) where
  past l := host.past l.state
  ran r l := ⟨host.ran r l.state, l.steps ++ [.ran r]⟩
  failed fault l := ⟨host.failed fault l.state, l.steps ++ [.failed fault]⟩

/-! ## Requests -/

/-- The errors that guest memory answered with are what the outcome fails with, and a fatal outcome
is one of them. -/
structure Trace.Accounts (t : Trace) (answer : Except SandboxError α) : Prop where
  fails : ∀ e ∈ t.filterMap TraceEntry.failure?, answer = .error e
  fatal : ∀ e, answer = .error e → e.isFatal = true → e ∈ t.filterMap TraceEntry.failure?

/-- Requests of which one failed account for its error. -/
theorem Trace.Accounts.of_error {β : Type} {t : Trace} {e : SandboxError}
    (h : ∀ e', e' ∈ t.filterMap TraceEntry.failure? ↔
      (.error e : Except SandboxError β) = .error e') :
    t.Accounts (.error e : Except SandboxError α) := by
  refine ⟨fun e' he' => ?_, fun e' he' _ => (h e').2 ?_⟩
  · cases (h e').1 he'
    rfl
  · cases he'
    rfl

/-- Requests that were all answered account for every outcome that is not fatal. -/
theorem Trace.Accounts.of_ok {β : Type} {t : Trace} {b : β} {answer : Except SandboxError α}
    (h : ∀ e, e ∈ t.filterMap TraceEntry.failure? ↔ (.ok b : Except SandboxError β) = .error e)
    (hplain : ∀ e, answer = .error e → ¬ e.isFatal) : t.Accounts answer :=
  ⟨fun e he => (nomatch (h e).1 he), fun e he hfatal => absurd hfatal (hplain e he)⟩

theorem SandboxError.isFatal_iff {e : SandboxError} :
    e.isFatal = true ↔ ∃ message, e = .trap message true := by
  cases e <;> simp [isFatal]

theorem Trace.Accounts.isFatal_iff {t : Trace} {e : SandboxError}
    (h : t.Accounts (.error e : Except SandboxError α)) :
    e.isFatal = true ↔ ∃ message, .trap message true ∈ t.filterMap TraceEntry.failure? := by
  refine ⟨fun hfatal => ?_, fun ⟨message, hmem⟩ => ?_⟩
  · obtain ⟨message, rfl⟩ := SandboxError.isFatal_iff.1 hfatal
    exact ⟨message, h.fatal _ rfl hfatal⟩
  · cases h.fails _ hmem
    rfl

theorem Trace.Accounts.failures {t : Trace} {a : α}
    (h : t.Accounts (.ok a : Except SandboxError α)) :
    t.filterMap TraceEntry.failure? = [] :=
  List.eq_nil_iff_forall_not_mem.2 fun e he => nomatch h.fails e he

/-- Requests are made up to the first that fails. -/
theorem Trace.Asks.mem_failures {κ : Type} {call : κ → Except SandboxError α → SandboxCall}
    (hok : ∀ key a events, TraceEntry.failure? ⟨call key (.ok a), events⟩ = none)
    (herror : ∀ key e events, TraceEntry.failure? ⟨call key (.error e), events⟩ = some e)
    {keys : List κ} {t : Trace} {answers : Except SandboxError (List α)}
    (h : Trace.Asks call keys t answers) {e : SandboxError} :
    e ∈ t.filterMap TraceEntry.failure? ↔ answers = .error e := by
  induction h with
  | done => simp
  | @answered key _ a events _ answers _ ih =>
      rw [List.filterMap_cons_none (hok key a events), ih]
      cases answers <;> simp [Except.map]
  | @failed key _ cause events =>
      rw [List.filterMap_cons_some (herror key cause events)]
      simp [eq_comm]

/-- What is kept among the steps is the trace of the requests. -/
theorem tracedBy_logged (op : GuestM μ α) (entry : Except SandboxError α → SandboxCall)
    (steps : List HostStep) :
    op.TracedBy (fun s t => Logged.mk s (steps ++ t.map .asked)) entry (logged op entry) := by
  refine fun s t => ⟨[], ?_⟩
  rw [logged, Fallible.from_ofFunction]
  dsimp only
  rw [List.map_append, ← List.append_assoc]
  rfl

theorem mapM_logged {κ : Type} (ask : κ → GuestM μ α)
    (call : κ → Except SandboxError α → SandboxCall) (keys : List κ) (s : μ)
    (steps : List HostStep) :
    ∃ answers s' asked, (keys.mapM ask).from s = (answers, s') ∧
      (keys.mapM fun key => logged (ask key) (call key)).from ⟨s, steps⟩ =
        (answers, ⟨s', steps ++ asked.map .asked⟩) ∧ Trace.Asks call keys asked answers := by
  obtain ⟨answers, s', asked, hplain, hlogged, hasks⟩ :=
    mapM_tracedBy (fun key => tracedBy_logged (ask key) (call key) steps) keys s []
  rw [List.map_nil, List.append_nil] at hlogged
  exact ⟨answers, s', asked, hplain, hlogged, hasks⟩

/-! ## Arguments and answers -/

/-- What is asked of guest memory to read the arguments of a function off words, and what it comes
to. -/
inductive ReadsArgs (f : HostFunction) (words : List Word) :
    Trace → Except SandboxError (List Value) → Prop where
  | unread {read : Trace} {e : SandboxError}
      (hread : Trace.Asks SandboxCall.readSlice (liftedSlices f.params words) read (.error e)) :
      ReadsArgs f words read (.error e)
  /-- The words are of other types than those of the parameters. -/
  | refused {read : Trace} {parts : List Bytes} (fault : AbiFault)
      (hread : Trace.Asks SandboxCall.readSlice (liftedSlices f.params words) read (.ok parts))
      (htypes : words.map Word.type ≠ f.signature.wireParams) :
      ReadsArgs f words read (.error (.abi fault))
  | read {read : Trace} {parts : List Bytes} {args : List Value}
      (hread : Trace.Asks SandboxCall.readSlice (liftedSlices f.params words) read (.ok parts))
      (hkinds : args.map Value.kind = f.params) : ReadsArgs f words read (.ok args)

/-- What is asked of guest memory to place the answer of a function, and what it comes to. -/
inductive PlacesAnswer (v : Value) : Trace → Except SandboxError (List Word) → Prop where
  | tooLong (bytes : Nat) : PlacesAnswer v [] (.error (.memory (.tooLong bytes)))
  | unplaced {placed : Trace} {e : SandboxError}
      (hplaced : Trace.Asks .alloc (placedTexts [v]) placed (.error e)) :
      PlacesAnswer v placed (.error e)
  | placed {placed : Trace} {addresses : List UInt32}
      (hplaced : Trace.Asks .alloc (placedTexts [v]) placed (.ok addresses)) :
      PlacesAnswer v placed (.ok (wordsAt [v] addresses))

theorem mem_failures_readSlice {keys : List (UInt32 × UInt32)} {t : Trace}
    {parts : Except SandboxError (List Bytes)} (h : Trace.Asks SandboxCall.readSlice keys t parts)
    {e : SandboxError} : e ∈ t.filterMap TraceEntry.failure? ↔ parts = .error e :=
  h.mem_failures (fun _ _ _ => rfl) fun _ _ _ => rfl

theorem mem_failures_alloc {keys : List Bytes} {t : Trace}
    {addresses : Except SandboxError (List UInt32)} (h : Trace.Asks .alloc keys t addresses)
    {e : SandboxError} : e ∈ t.filterMap TraceEntry.failure? ↔ addresses = .error e :=
  h.mem_failures (fun _ _ _ => rfl) fun _ _ _ => rfl

theorem ReadsArgs.accounts {f : HostFunction} {words : List Word} {read : Trace}
    {args : Except SandboxError (List Value)} (h : ReadsArgs f words read args) :
    read.Accounts args := by
  cases h with
  | unread hread => exact .of_error fun _ => mem_failures_readSlice hread
  | refused fault hread =>
      refine .of_ok (fun _ => mem_failures_readSlice hread) ?_
      rintro e ⟨⟩
      exact Bool.false_ne_true
  | read hread => exact .of_ok (fun _ => mem_failures_readSlice hread) nofun

theorem PlacesAnswer.accounts {v : Value} {placed : Trace} {out : Except SandboxError (List Word)}
    (h : PlacesAnswer v placed out) : placed.Accounts out := by
  cases h with
  | tooLong bytes =>
      refine ⟨nofun, ?_⟩
      rintro e ⟨⟩ hfatal
      exact absurd hfatal Bool.false_ne_true
  | unplaced hplaced => exact .of_error fun _ => mem_failures_alloc hplaced
  | placed hplaced => exact .of_ok (fun _ => mem_failures_alloc hplaced) nofun

section Marshal

variable (mem : GuestMemory μ) (s : μ) (steps : List HostStep)

theorem liftValues_logged (f : HostFunction) (words : List Word) :
    ∃ args s' read, (liftValues mem f.params words).from s = (args, s') ∧
      (liftValues mem.logged f.params words).from ⟨s, steps⟩ =
        (args, ⟨s', steps ++ read.map .asked⟩) ∧ ReadsArgs f words read args := by
  obtain ⟨finish, heq, hjudged⟩ := exists_liftValues_eq f.params words
  obtain ⟨parts, s', read, hplain, hlogged, hread⟩ :=
    mapM_logged mem.readSlice SandboxCall.readSlice (liftedSlices f.params words) s steps
  have hargs : (liftValues mem f.params words).from s = (parts >>= finish, s') := by
    rw [heq]
    exact Fallible.from_bind_mk_pure hplain finish
  refine ⟨parts >>= finish, s', read, hargs, ?_, ?_⟩
  · rw [heq]
    exact Fallible.from_bind_mk_pure hlogged finish
  · cases parts with
    | error e => exact .unread hread
    | ok bytes =>
        change (liftValues mem f.params words).from s = (finish bytes, s') at hargs
        change ReadsArgs f words read (finish bytes)
        by_cases htypes : words.map Word.type = wireTypes f.params
        · obtain ⟨args, hfinish⟩ := (hjudged bytes).exists_ok htypes
          rw [hfinish] at hargs ⊢
          exact .read hread (liftValues_types hargs).1
        · obtain ⟨fault, hfinish⟩ := (hjudged bytes).exists_fault htypes
          rw [hfinish]
          exact .refused fault hread htypes

/-- A value whose text does not fit is not lowered, and nothing is asked on its behalf. -/
theorem exists_lowerValues_of_not_fits {v : Value} (h : ¬ v.Fits) :
    ∃ bytes, ∀ {μ : Type} (mem : GuestMemory μ),
      lowerValues mem [v] = throw (.memory (.tooLong bytes)) := by
  simp only [Value.Fits, not_forall] at h
  obtain ⟨text, rfl, hlong⟩ := h
  refine ⟨(Text.encode text).length, fun mem => ?_⟩
  rw [lowerValues, lowerValue_string, if_pos (Nat.not_lt.1 hlong)]
  rfl

theorem lowerValues_logged (v : Value) :
    ∃ out s' placed, (lowerValues mem [v]).from s = (out, s') ∧
      (lowerValues mem.logged [v]).from ⟨s, steps⟩ = (out, ⟨s', steps ++ placed.map .asked⟩) ∧
      PlacesAnswer v placed out := by
  by_cases hfits : v.Fits
  · obtain ⟨addresses, s', placed, hplain, hlogged, hplaced⟩ :=
      mapM_logged mem.alloc .alloc (placedTexts [v]) s steps
    have heq := fun {μ : Type} => @lowerValues_eq μ [v] (List.forall_mem_singleton.2 hfits)
    refine ⟨addresses.map (wordsAt [v]), s', placed, ?_, ?_, ?_⟩
    · rw [heq, bind_pure_comp, Fallible.from_map, hplain]
    · rw [heq, bind_pure_comp, Fallible.from_map]
      exact congrArg (fun answered => (answered.1.map (wordsAt [v]), answered.2)) hlogged
    · cases addresses with
      | error e => exact .unplaced hplaced
      | ok addresses => exact .placed hplaced
  · obtain ⟨bytes, hlower⟩ := exists_lowerValues_of_not_fits hfits
    rw [hlower, hlower]
    exact ⟨_, s, [], rfl, by rw [List.map_nil, List.append_nil]; rfl, .tooLong bytes⟩

end Marshal

/-! ## Calls -/

/-- The steps of a call of a host function on words, and what it comes to. -/
inductive HostCalls (name : String) (f : HostFunction) (words : List Word) :
    List HostStep → Except HostFault (List Word) → Prop where
  /-- The arguments are not read, or the words are not those of arguments. -/
  | unread {read : Trace} {e : SandboxError} (hread : ReadsArgs f words read (.error e)) :
      HostCalls name f words (read.map .asked ++ [.failed ⟨name, .memory e⟩])
        (.error ⟨name, .memory e⟩)
  /-- The function is run and fails. -/
  | failed {read : Trace} {args : List Value} {past : HostHistory} {e : HostCallError}
      (hread : ReadsArgs f words read (.ok args))
      (hcall : f.callAfter past ⟨name, args⟩ = .error e) :
      HostCalls name f words
        (read.map .asked ++ [.ran ⟨f, past, ⟨name, args⟩⟩, .failed ⟨name, .call e⟩])
        (.error ⟨name, .call e⟩)
  /-- The function answers with a text that is not placed. -/
  | unplaced {read placed : Trace} {args : List Value} {past : HostHistory} {v : Value}
      {e : SandboxError} (hread : ReadsArgs f words read (.ok args))
      (hcall : f.callAfter past ⟨name, args⟩ = .ok v) (hplaced : PlacesAnswer v placed (.error e)) :
      HostCalls name f words
        (read.map .asked ++ .ran ⟨f, past, ⟨name, args⟩⟩ :: placed.map .asked ++
          [.failed ⟨name, .memory e⟩])
        (.error ⟨name, .memory e⟩)
  /-- The guest is answered. -/
  | answered {read placed : Trace} {args : List Value} {past : HostHistory} {v : Value}
      {out : List Word} (hread : ReadsArgs f words read (.ok args))
      (hcall : f.callAfter past ⟨name, args⟩ = .ok v) (hplaced : PlacesAnswer v placed (.ok out)) :
      HostCalls name f words
        (read.map .asked ++ .ran ⟨f, past, ⟨name, args⟩⟩ :: placed.map .asked) (.ok out)

/-- The steps of every call are those of `HostCalls`, and keeping them changes nothing. -/
theorem dispatch_logged (mem : GuestMemory μ) (host : HostSide μ) (name : String)
    (f : HostFunction) (words : List Word) (s : μ) :
    ∃ answer s' steps, (dispatch mem host name f (words.map some)).from s = (answer, s') ∧
      (dispatch mem.logged host.logged name f (words.map some)).from ⟨s, []⟩ =
        (answer, ⟨s', steps⟩) ∧
      HostCalls name f words steps answer := by
  obtain ⟨args, s₁, read, hlift, hlift', hread⟩ := liftValues_logged mem s [] f words
  rw [List.nil_append] at hlift'
  simp only [dispatch_from, dispatchCall_words_from, hlift, hlift']
  cases args with
  | error e => exact ⟨_, _, _, rfl, rfl, .unread hread⟩
  | ok args =>
      dsimp only [HostSide.logged]
      cases hcall : f.callAfter (host.past s₁) ⟨name, args⟩ with
      | error e =>
          refine ⟨_, _, _, rfl, rfl, ?_⟩
          simpa using HostCalls.failed hread hcall
      | ok v =>
          have hran := lowerValues_logged mem (host.ran ⟨f, host.past s₁, ⟨name, args⟩⟩ s₁)
            (read.map .asked ++ [.ran ⟨f, host.past s₁, ⟨name, args⟩⟩]) v
          obtain ⟨out, s₂, placed, hlower, hlower', hplaced⟩ := hran
          simp only [forFunction, Fallible.from_adapt, hlower, hlower']
          cases out with
          | error e =>
              refine ⟨_, _, _, rfl, rfl, ?_⟩
              simpa using HostCalls.unplaced hread hcall hplaced
          | ok out =>
              refine ⟨_, _, _, rfl, rfl, ?_⟩
              simpa using HostCalls.answered hread hcall hplaced

section Outcome

variable {name : String} {f : HostFunction} {words out : List Word} {steps : List HostStep}
  {answer : Except HostFault (List Word)} {fault : HostFault}

/-- The body is run once, on values of the declared kinds, or not at all. -/
theorem HostCalls.bodyRuns (h : HostCalls name f words steps answer) :
    GuestBridge.bodyRuns steps = [] ∨
      ∃ past args, GuestBridge.bodyRuns steps = [⟨f, past, ⟨name, args⟩⟩] ∧
        args.map Value.kind = f.params := by
  cases h with
  | unread => exact .inl (by simp)
  | @failed read args past _ hread | @unplaced read _ args past _ _ hread
  | @answered read _ args past _ _ hread =>
      cases hread with
      | read _ hkinds => exact .inr ⟨past, args, by simp, hkinds⟩

theorem HostCalls.answer_types (h : HostCalls name f words steps (.ok out)) :
    out.map Word.type = f.signature.wireResults ∧
      ∃ r v, GuestBridge.bodyRuns steps = [r] ∧ r.outcome = .ok v ∧ v.kind = f.result := by
  cases h with
  | @answered read placed args past v _ hread hcall hplaced =>
      obtain ⟨hbody, hkind⟩ := HostFunction.callAfter_eq_ok_iff.1 hcall
      refine ⟨?_, ⟨f, past, ⟨name, args⟩⟩, v, by simp, hbody, hkind⟩
      cases hplaced with
      | placed =>
          rw [types_wordsAt, List.map_singleton, hkind]
          rfl

theorem HostCalls.isFatal_iff (h : HostCalls name f words steps (.error fault)) :
    fault.isFatal = true ↔
      (∃ r ∈ GuestBridge.bodyRuns steps, ∃ message, r.outcome = .error (.fatal message)) ∨
        ∃ message, .trap message true ∈ memoryFailures steps := by
  cases h with
  | @unread read e hread => simpa [HostFault.isFatal] using hread.accounts.isFatal_iff
  | @failed read args past e hread hcall =>
      have hfatal := HostFunction.isFatal_iff_of_callAfter hcall
      simpa [HostFault.isFatal, HostRun.outcome, hread.accounts.failures] using hfatal
  | @unplaced read placed args past v e hread hcall hplaced =>
      have hbody := (HostFunction.callAfter_eq_ok_iff.1 hcall).1
      have hfatal := hplaced.accounts.isFatal_iff
      simpa [HostFault.isFatal, HostRun.outcome, hread.accounts.failures, hbody] using hfatal

/-- Nothing is asked after the body has answered with a value of another kind. -/
theorem HostCalls.of_wrong_kind (h : HostCalls name f words steps answer) {r : HostRun}
    (hr : r ∈ GuestBridge.bodyRuns steps) {v : Value} (hbody : r.outcome = .ok v)
    (hkind : v.kind ≠ f.result) :
    ∃ (fault : HostFault) (read : Trace), answer = .error fault ∧ fault.isFatal = false ∧
      steps = read.map .asked ++ [.ran r, .failed fault] := by
  cases h with
  | unread => simp at hr
  | @failed read args past e hread hcall =>
      obtain rfl : r = ⟨f, past, ⟨name, args⟩⟩ := by simpa using hr
      rw [HostFunction.callAfter_of_wrong_kind hbody hkind] at hcall
      cases hcall
      exact ⟨_, read, rfl, rfl, rfl⟩
  | @unplaced _ _ args past _ _ _ hcall | @answered _ _ args past _ _ _ hcall =>
      obtain rfl : r = ⟨f, past, ⟨name, args⟩⟩ := by simpa using hr
      rw [HostFunction.callAfter_of_wrong_kind hbody hkind] at hcall
      cases hcall

/-- Only for a failure of guest memory is the body not run on words of the declared types. -/
theorem HostCalls.exists_failure (h : HostCalls name f words steps answer)
    (htypes : words.map Word.type = f.signature.wireParams)
    (hnone : GuestBridge.bodyRuns steps = []) :
    ∃ e ∈ memoryFailures steps, answer = .error ⟨name, .memory e⟩ := by
  cases h with
  | @unread read e hread =>
      cases hread with
      | unread hread => exact ⟨e, by simpa using (mem_failures_readSlice hread).2 rfl, rfl⟩
      | refused fault _ hother => exact absurd htypes hother
  | _ => simp at hnone

/-- The only fault that is noted is that of the answer. -/
theorem HostCalls.failed_mem_iff (h : HostCalls name f words steps answer) :
    .failed fault ∈ steps ↔ answer = .error fault := by
  cases h <;> simp [eq_comm]

end Outcome

/-- A call of a host function on words of its parameters runs the body at most once, on values of
the declared kinds, and not at all only when an argument could not be read.  It answers only if the
body did with a value of the declared kind, and with words of the types of the result.  It fails
fatally just when the body or guest memory does.  When the body answers with a value of another
kind, the call fails, not fatally, and asks nothing of guest memory any more.  What the host takes
note of as a fault is just what the call fails with. -/
theorem dispatch_typed (mem : GuestMemory μ) (host : HostSide μ) (name : String)
    (f : HostFunction) (words : List Word) (htypes : words.map Word.type = f.signature.wireParams)
    (s : μ) :
    ∃ answer s' steps, (dispatch mem host name f (words.map some)).from s = (answer, s') ∧
      (dispatch mem.logged host.logged name f (words.map some)).from ⟨s, []⟩ =
        (answer, ⟨s', steps⟩) ∧
      (bodyRuns steps).length ≤ 1 ∧
      (∀ r ∈ bodyRuns steps, r.function = f ∧ r.context.function = name ∧
        r.context.args.map Value.kind = f.params) ∧
      (bodyRuns steps = [] → ∃ e ∈ memoryFailures steps, answer = .error ⟨name, .memory e⟩) ∧
      (∀ out, answer = .ok out → out.map Word.type = f.signature.wireResults ∧
        ∃ r v, bodyRuns steps = [r] ∧ r.outcome = .ok v ∧ v.kind = f.result) ∧
      (∀ fault, answer = .error fault → (fault.isFatal = true ↔
        (∃ r ∈ bodyRuns steps, ∃ message, r.outcome = .error (.fatal message)) ∨
          ∃ message, .trap message true ∈ memoryFailures steps)) ∧
      (∀ r ∈ bodyRuns steps, ∀ v, r.outcome = .ok v → v.kind ≠ f.result →
        ∃ (fault : HostFault) (read : Trace), answer = .error fault ∧ fault.isFatal = false ∧
          steps = read.map .asked ++ [.ran r, .failed fault]) ∧
      ∀ fault, .failed fault ∈ steps ↔ answer = .error fault := by
  obtain ⟨answer, s', steps, hplain, hlogged, hcalls⟩ := dispatch_logged mem host name f words s
  refine ⟨answer, s', steps, hplain, hlogged, ?_, ?_, hcalls.exists_failure htypes, ?_, ?_,
    fun r hr v hbody hkind => hcalls.of_wrong_kind hr hbody hkind,
    fun fault => hcalls.failed_mem_iff⟩
  · rcases hcalls.bodyRuns with hnone | ⟨past, args, hone, -⟩
    · simp [hnone]
    · simp [hone]
  · rcases hcalls.bodyRuns with hnone | ⟨past, args, hone, hkinds⟩
    · simp [hnone]
    · simp [hone, hkinds]
  · rintro out rfl
    exact hcalls.answer_types
  · rintro fault rfl
    exact hcalls.isFatal_iff

/-- A function that takes a text and answers with it, once. -/
def echo : HostFunction :=
  ⟨[.string], .string, fun past ctx =>
    if past.isEmpty then .ok (ctx.args.headD (.string "")) else .error (.fatal "worn out")⟩

/-- An arena that has a text at its first address, and no call before. -/
def greetingArena : Arena × HostHistory :=
  ((Arena.zeroed 16 64 []).poke 8 [104, 105], [])

/-- The memory of the arena, and a host that keeps the calls beside it. -/
def besideHistory : GuestMemory (Arena × HostHistory) where
  alloc bytes := .ofFunction fun s =>
    let (answer, arena) := (Arena.memory.alloc bytes).from s.1
    (answer, arena, s.2)
  read address length := .ofFunction fun s =>
    let (answer, arena) := (Arena.memory.read address length).from s.1
    (answer, arena, s.2)

@[inherit_doc besideHistory]
def keepHistory : HostSide (Arena × HostHistory) where
  past s := s.2
  ran r s := (s.1, r.context :: s.2)
  failed _ s := s

/-- The text is read from its address and placed at the next one that is free.  The next call
fails. -/
theorem dispatch_typed_echo :
    let first := (dispatch besideHistory keepHistory "echo" echo
      [some (.i32 8), some (.i32 2)]).from greetingArena
    let second := (dispatch besideHistory keepHistory "echo" echo
      [some (.i32 8), some (.i32 2)]).from first.2
    [Word.i32 8, .i32 2].map Word.type = echo.signature.wireParams ∧
      first.1 = .ok [.i32 16, .i32 2] ∧
      [Word.i32 16, .i32 2].map Word.type = echo.signature.wireResults ∧
      second.1 = .error ⟨"echo", .call (.fatal "worn out")⟩ := by
  intro first second
  obtain ⟨answer, s', steps, hrun, -, -, -, -, hwords, -⟩ :=
    dispatch_typed besideHistory keepHistory "echo" echo [.i32 8, .i32 2] rfl greetingArena
  have hanswer : first.1 = .ok [.i32 16, .i32 2] := by decide +kernel
  have hrun' : first = (answer, s') := hrun
  refine ⟨rfl, hanswer, ?_, by decide +kernel⟩
  rw [hrun'] at hanswer
  exact (hwords _ hanswer).1

end GuestBridge
