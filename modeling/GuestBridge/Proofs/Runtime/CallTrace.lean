import GuestBridge.Proofs.Call.Texts
import GuestBridge.Proofs.Runtime.Refusals

/-!
# The trace of a call

`Trace.Calls` tells everything that a call asks of a sandbox, and what it comes to: the texts of the
arguments are placed in order, the function is run once on words that carry their addresses, and the
texts of the results are read in order; nothing is asked any more once something fails.  Words that
are not of the types of the results are found out on the way, and the texts that stand before the
first such word have been read by then.

Every call that fits its function has such a trace, and one for a single result is the call for any
results but for the form of its answer (`Runtime.callMulti_traced`).  So a read does not mean that
the words that came back were of the types (`Runtime.not_callMulti_reads_fitting`).
-/

namespace GuestBridge

variable {σ : Type}

/-- The trace and the outcome of a call of a function with the arguments. -/
inductive Trace.Calls (name : String) (s : Signature) (args : List Value) :
    Trace → Except SandboxError (List Value) → Prop where
  /-- A text of an argument is not placed. -/
  | unplaced {placed : Trace} {e : SandboxError}
      (hplaced : Trace.Asks .alloc (placedTexts args) placed (.error e)) :
      Trace.Calls name s args placed (.error e)
  /-- The function is run and fails. -/
  | failed {placed : Trace} {addresses : List UInt32} {e : SandboxError} {events : List HostEvent}
      (hplaced : Trace.Asks .alloc (placedTexts args) placed (.ok addresses)) :
      Trace.Calls name s args
        (placed ++ [⟨.invoke name (wordsAt args addresses) (.error e), events⟩]) (.error e)
  /-- A text of a result is not read. -/
  | unread {placed read : Trace} {addresses : List UInt32} {words : List Word} {e : SandboxError}
      {events : List HostEvent}
      (hplaced : Trace.Asks .alloc (placedTexts args) placed (.ok addresses))
      (htypes : words.map Word.type = s.wireResults)
      (hread : Trace.Asks SandboxCall.readSlice (textSlices s.results words) read (.error e)) :
      Trace.Calls name s args
        (placed ++ ⟨.invoke name (wordsAt args addresses) (.ok words), events⟩ :: read) (.error e)
  /-- The call is answered. -/
  | answered {placed read : Trace} {addresses : List UInt32} {words : List Word}
      {parts : List Bytes} {values : List Value} {events : List HostEvent}
      (hplaced : Trace.Asks .alloc (placedTexts args) placed (.ok addresses))
      (htypes : words.map Word.type = s.wireResults)
      (hread : Trace.Asks SandboxCall.readSlice (textSlices s.results words) read (.ok parts))
      (hkinds : values.map Value.kind = s.results) :
      Trace.Calls name s args
        (placed ++ ⟨.invoke name (wordsAt args addresses) (.ok words), events⟩ :: read) (.ok values)
  /-- The words that come back are of other types than those of the results.  They are refused at
  once if there are more or fewer of them.  If not, they are refused at the first word of another
  type, when the texts before it, other than empty ones, have been read in order. -/
  | refused {placed read : Trace} {addresses : List UInt32} {words : List Word}
      {parts : Except SandboxError (List Bytes)} {events : List HostEvent} (fault : AbiFault)
      (hplaced : Trace.Asks .alloc (placedTexts args) placed (.ok addresses))
      (htypes : words.map Word.type ≠ s.wireResults)
      (hread : Trace.Asks SandboxCall.readSlice (liftedSlices s.results words) read parts) :
      Trace.Calls name s args
        (placed ++ ⟨.invoke name (wordsAt args addresses) (.ok words), events⟩ :: read)
        (parts.bind fun _ => .error (.abi fault))

/-! ## Marshalling -/

/-- Lowering places the texts in order, and if all are placed, makes the words of the addresses. -/
theorem lowerValues_asks (b : Backend σ) {vs : List Value} (hfits : ∀ v ∈ vs, v.Fits)
    (t : Traced σ) :
    ∃ addresses sandbox placed,
      (lowerValues b.memory vs).from t =
        (addresses.map (wordsAt vs), ⟨sandbox, t.trace ++ placed⟩) ∧
      Trace.Asks .alloc (placedTexts vs) placed addresses := by
  obtain ⟨addresses, sandbox, placed, hfrom, hasks⟩ :=
    mapM_perform_asks b.alloc .alloc (placedTexts vs) t
  refine ⟨addresses, sandbox, placed, ?_, hasks⟩
  rw [lowerValues_eq hfits, bind_pure_comp, Fallible.from_map]
  exact congrArg (fun answered => (answered.1.map (wordsAt vs), answered.2)) hfrom

/-- Lifting reads the slices in order, and if all are read, judges the words by their types. -/
theorem liftValues_asks (b : Backend σ) (kinds : List Kind) (words : List Word) (t : Traced σ) :
    ∃ answer sandbox read parts,
      (liftValues b.memory kinds words).from t = (answer, ⟨sandbox, t.trace ++ read⟩) ∧
      Trace.Asks SandboxCall.readSlice (liftedSlices kinds words) read parts ∧
      (∀ e, parts = .error e → answer = .error e) ∧
      ∀ bytes, parts = .ok bytes → Judged (words.map Word.type = wireTypes kinds) answer := by
  obtain ⟨finish, heq, hjudged⟩ := exists_liftValues_eq kinds words
  obtain ⟨parts, sandbox, read, hfrom, hasks⟩ := mapM_perform_asks
    (fun slice : UInt32 × UInt32 => b.read slice.1 slice.2) SandboxCall.readSlice
    (liftedSlices kinds words) t
  refine ⟨parts >>= finish, sandbox, read, parts, ?_, hasks, ?_, ?_⟩
  · rw [heq]
    exact Fallible.from_bind_mk_pure hfrom finish
  · rintro e rfl
    rfl
  · rintro bytes rfl
    exact hjudged bytes

/-- Words of the types tell where all texts are. -/
theorem liftedSlices_of_types {kinds : List Kind} {words : List Word}
    (h : words.map Word.type = wireTypes kinds) :
    liftedSlices kinds words = textSlices kinds words :=
  if_pos (by rw [← h, List.length_map])

namespace Runtime

/-! ## Calls -/

/-- What comes back from a function is read, or refused. -/
theorem liftValues_calls (b : Backend σ) {name : String} {s : Signature} {args : List Value}
    {placed : Trace} {addresses : List UInt32} {words : List Word} {events : List HostEvent}
    (hplaced : Trace.Asks .alloc (placedTexts args) placed (.ok addresses)) (sandbox : σ) :
    ∃ x t, (liftValues b.memory s.results words).from
        ⟨sandbox, placed ++ [⟨.invoke name (wordsAt args addresses) (.ok words), events⟩]⟩ =
          (x, t) ∧ Trace.Calls name s args t.trace x := by
  obtain ⟨x, sandbox', read, parts, hfrom, hread, herror, hjudged⟩ := liftValues_asks b s.results
    words ⟨sandbox, placed ++ [⟨.invoke name (wordsAt args addresses) (.ok words), events⟩]⟩
  refine ⟨x, _, hfrom, ?_⟩
  dsimp only
  rw [List.append_assoc, List.singleton_append]
  by_cases htypes : words.map Word.type = s.wireResults
  · rw [liftedSlices_of_types htypes] at hread
    cases parts with
    | error e =>
        obtain rfl := herror e rfl
        exact .unread hplaced htypes hread
    | ok bytes =>
        obtain ⟨values, rfl⟩ := (hjudged bytes rfl).exists_ok htypes
        exact .answered hplaced htypes hread (liftValues_types hfrom).1
  · cases parts with
    | error e =>
        obtain rfl := herror e rfl
        exact .refused .lengthWord hplaced htypes hread
    | ok bytes =>
        obtain ⟨fault, rfl⟩ := (hjudged bytes rfl).exists_fault htypes
        exact .refused fault hplaced htypes hread

/-- A call in a sandbox leaves the trace of a call. -/
theorem invokeWith_calls (b : Backend σ) (name : String) (s : Signature) {args : List Value}
    (hfits : ∀ v ∈ args, v.Fits) (sandbox : σ) :
    ∃ x t, (invokeWith b name s args).from ⟨sandbox, []⟩ = (x.mapError CallFault.sandbox, t) ∧
      Trace.Calls name s args t.trace x := by
  obtain ⟨addresses, sandbox₁, placed, hlower, hplaced⟩ := lowerValues_asks b hfits ⟨sandbox, []⟩
  rw [List.nil_append] at hlower
  rw [invokeWith, Fallible.from_bind, sandboxStep, Fallible.from_adapt, hlower]
  cases addresses with
  | error e => exact ⟨.error e, _, rfl, .unplaced hplaced⟩
  | ok addresses =>
      dsimp only [Except.map, Except.mapError]
      rcases hreply : b.invoke name (wordsAt args addresses) sandbox₁ with ⟨out, sandbox₂, events⟩
      have hinvoke : (b.traceInvoke name (wordsAt args addresses)).from ⟨sandbox₁, placed⟩ =
          (out, ⟨sandbox₂,
            placed ++ [⟨.invoke name (wordsAt args addresses) out, events⟩]⟩) :=
        perform_from hreply _
      rw [Fallible.from_bind, sandboxStep, Fallible.from_adapt, hinvoke]
      cases out with
      | error e => exact ⟨.error e, _, rfl, .failed hplaced⟩
      | ok words =>
          obtain ⟨x, t, hlift, hcalls⟩ := liftValues_calls b (s := s) hplaced sandbox₂
          refine ⟨x, t, ?_, hcalls⟩
          dsimp only [Except.mapError]
          rw [sandboxStep, Fallible.from_adapt, hlift]
          rfl

/-- A call that is prepared is made in the guest. -/
theorem callMulti_of_prepared {rt : Runtime σ} {digest : String} {program : Program} {sandbox : σ}
    (hphase : rt.phase = .ready digest program sandbox) {name : String} {s : Signature}
    {args : List Value} (hprepare : prepareCall program name args = .ok s) (b : Backend σ) :
    rt.callMulti b name args =
      inGuest rt.config digest program sandbox name (invokeWith b name s args) := by
  rw [callMulti, hphase]
  dsimp only
  rw [hprepare]

/-- A call for one result, of a function that has just one, does what the call for any results does
and answers with the only value. -/
theorem call_eq_of_single (b : Backend σ) {rt : Runtime σ} (hready : rt.state = .ready)
    {name : String} {s : Signature} {args : List Value} (hs : rt.signature? name = some s)
    (hkinds : args.map Value.kind = s.params) (hcount : s.results.length = 1) :
    let multi := rt.callMulti b name args
    let single := rt.call b name args
    single.trace = multi.trace ∧ single.runtime = multi.runtime ∧
      (∀ v, single.result = .ok v ↔ multi.result = .ok [v]) ∧
      ∀ e, single.result = .error e ↔ multi.result = .error e := by
  intro multi single
  obtain ⟨config, phase⟩ := rt
  cases phase with
  | ready digest program sandbox =>
      have hprepare : prepareCall program name args = .ok s := prepareCall_eq_ok_iff.2 ⟨hs, hkinds⟩
      have hmulti : multi = inGuest config digest program sandbox name (invokeWith b name s args) :=
        callMulti_of_prepared rfl hprepare b
      have hsingle : single =
          ⟨multi.result.bind (lastResult name), multi.runtime, multi.trace⟩ := by
        rw [hmulti]
        simp only [single, call, hprepare, if_neg (not_not.2 hcount)]
      rw [hsingle]
      refine ⟨rfl, rfl, ?_⟩
      cases hresult : multi.result with
      | error e => simp [Except.bind]
      | ok values =>
          obtain ⟨s', hs', hvalues, -⟩ := callMulti_ok hresult
          obtain rfl := Option.some.inj (hs.symm.trans hs')
          obtain ⟨v, rfl⟩ := exists_eq_singleton hvalues hcount
          simp [Except.bind, lastResult]
  | _ => cases hready

/-- A call that fits its function asks the sandbox to place the texts of the arguments in order,
then runs the function once on words that carry their addresses, and asks for the texts of the
results in order: for all of them if the words that come back are of the types of the results, and
if they are only as many, for those before the first word of another type.  It stops at the first
failure, which is what it reports.  A call for the only result of a function asks the same, leaves
the same runtime, and answers with the only value or the same error. -/
theorem callMulti_traced (b : Backend σ) {rt : Runtime σ} (hready : rt.state = .ready)
    {name : String} {s : Signature} {args : List Value} (hs : rt.signature? name = some s)
    (hkinds : args.map Value.kind = s.params) (hfits : ∀ v ∈ args, v.Fits) :
    let multi := rt.callMulti b name args
    let single := rt.call b name args
    (∃ x, Trace.Calls name s args multi.trace x ∧
      multi.result = x.mapError fun e => (CallFault.sandbox e).report name) ∧
    (s.results.length = 1 →
      single.trace = multi.trace ∧ single.runtime = multi.runtime ∧
        (∀ v, single.result = .ok v ↔ multi.result = .ok [v]) ∧
        ∀ e, single.result = .error e ↔ multi.result = .error e) := by
  intro multi single
  refine ⟨?_, fun hcount => call_eq_of_single b hready hs hkinds hcount⟩
  obtain ⟨config, phase⟩ := rt
  cases phase with
  | ready digest program sandbox =>
      have hprepare : prepareCall program name args = .ok s := prepareCall_eq_ok_iff.2 ⟨hs, hkinds⟩
      obtain ⟨x, t, hfrom, hcalls⟩ := invokeWith_calls b name s hfits sandbox
      have hmulti : multi = inGuest config digest program sandbox name (invokeWith b name s args) :=
        callMulti_of_prepared rfl hprepare b
      rw [hmulti, inGuest_eq_of_from hfrom]
      refine ⟨x, hcalls, ?_⟩
      cases x <;> rfl
  | _ => cases hready

/-- A sandbox whose exports answer with the words they are given, and whose memory holds the bytes
that were placed last. -/
def mirror : Backend Bytes where
  load _ _ _ := (.ok [], [])
  exports _ := []
  runInitializer _ s := ⟨.ok false, s, []⟩
  invoke _ words s := ⟨.ok words, s, []⟩
  alloc bytes _ := ⟨.ok 8, bytes, []⟩
  read _ _ s := ⟨.ok s, s, []⟩

/-- The export takes a text and answers with one. -/
def mirrorSignature : Signature :=
  ⟨[.string], [.string]⟩

/-- A runtime in working order that has the export. -/
def mirrorRuntime : Runtime Bytes :=
  ⟨.standard, .ready "" ⟨.ofList [("mirror", mirrorSignature)], .empty⟩ []⟩

theorem callMulti_traced_mirror :
    let multi := mirrorRuntime.callMulti mirror "mirror" [.string "hi"]
    let single := mirrorRuntime.call mirror "mirror" [.string "hi"]
    mirrorRuntime.state = .ready ∧ mirrorRuntime.signature? "mirror" = some mirrorSignature ∧
      multi.result = .ok [.string "hi"] ∧
      (∃ x, Trace.Calls "mirror" mirrorSignature [.string "hi"] multi.trace x) ∧
      single.trace = multi.trace ∧ single.result = .ok (.string "hi") := by
  intro multi single
  have hsignature : mirrorRuntime.signature? "mirror" = some mirrorSignature := by rfl
  have hfits : ∀ v ∈ [Value.string "hi"], v.Fits := by
    rintro v hv text rfl
    obtain rfl : text = "hi" := by simpa using hv
    decide
  have hanswer : multi.result = .ok [.string "hi"] := by cbv
  obtain ⟨⟨x, hcalls, -⟩, hsingle⟩ := callMulti_traced mirror rfl hsignature rfl hfits
  obtain ⟨htrace, -, hvalue, -⟩ := hsingle rfl
  exact ⟨rfl, hsignature, hanswer, ⟨x, hcalls⟩, htrace, (hvalue _).2 hanswer⟩

/-- A sandbox whose exports answer with the place of a text and a word too wide for an `i32`. -/
def misfit : Backend Unit where
  load _ _ _ := (.ok (), [])
  exports _ := []
  runInitializer _ s := ⟨.ok false, s, []⟩
  invoke _ _ s := ⟨.ok [.i32 8, .i32 2, .i64 0], s, []⟩
  alloc _ s := ⟨.ok 8, s, []⟩
  read _ _ s := ⟨.ok [104, 105], s, []⟩

/-- The export answers with a text and a number. -/
def misfitSignature : Signature :=
  ⟨[], [.string, .i32]⟩

@[inherit_doc mirrorRuntime]
def misfitRuntime : Runtime Unit :=
  ⟨.standard, .ready "" ⟨.ofList [("misfit", misfitSignature)], .empty⟩ ()⟩

/-- A sandbox may be asked for a text although the words it answered a call with are not of the
types of the results: the text stands before the word that is of another type. -/
theorem not_callMulti_reads_fitting :
    ¬ ∀ (σ : Type) (b : Backend σ) (rt : Runtime σ) (name : String) (s : Signature)
        (args : List Value), rt.state = .ready → rt.signature? name = some s →
      args.map Value.kind = s.params → (∀ v ∈ args, v.Fits) →
      ∀ placed sent words events read, (rt.callMulti b name args).trace =
          placed ++ ⟨.invoke name sent (.ok words), events⟩ :: read →
        words.map Word.type ≠ s.wireResults → read = [] := by
  intro hfitting
  have htrace : (misfitRuntime.callMulti misfit "misfit" []).trace =
      [] ++ ⟨.invoke "misfit" [] (.ok [.i32 8, .i32 2, .i64 0]), []⟩ ::
        [⟨.read 8 2 (.ok [104, 105]), []⟩] := rfl
  have hfits : ∀ v ∈ ([] : List Value), v.Fits := List.forall_mem_nil _
  exact List.cons_ne_nil _ _ (hfitting Unit misfit misfitRuntime "misfit" misfitSignature [] rfl
    rfl rfl hfits _ _ _ _ _ htrace (by decide))

end Runtime

end GuestBridge
