import GuestBridge.Proofs.Host.Dispatch
import GuestBridge.Wasm.Sandbox

/-!
# Whose fault a trap is

The fault of a host function is kept until an invocation reports it, and other requests may leave
one there.  Still, the trap of an invocation is reported with the fault that was recorded last
during that very invocation, and in the words of the engine if there was none
(`Engine.invoke_attributed`).  This is so on every engine.

An invocation begins with nothing to tell and no fault kept, so its log is `Attributed`: the fault
that is kept is the one that was recorded last.  A run of a body and a failed call both leave it so,
and whatever the engine does in between, it never touches the log; `run_carries` has it by induction
on the steps, with the runs of the allocator that host functions ask for among them.  On an engine
that ends a call when the host fails, an invocation that answers has recorded no fault
(`run_faultless`).
-/

namespace GuestBridge

/-! ## Faults among events -/

/-- The fault, if that is what happened. -/
def HostEvent.fault? : HostEvent → Option HostFault
  | .called _ => none
  | .failed fault => some fault

/-- The fault that was recorded last. -/
def lastFault (events : List HostEvent) : Option HostFault :=
  (events.filterMap HostEvent.fault?).getLast?

theorem lastFault_append_called (events : List HostEvent) (ctx : HostContext) :
    lastFault (events ++ [.called ctx]) = lastFault events := by
  simp [lastFault, HostEvent.fault?]

theorem lastFault_append_failed (events : List HostEvent) (fault : HostFault) :
    lastFault (events ++ [.failed fault]) = some fault := by
  simp [lastFault, HostEvent.fault?]

namespace Wasm

/-! ## Logs -/

namespace HostLog

variable {l : HostLog}

/-- The fault that was recorded last, of what has not been told yet. -/
def lastFault (l : HostLog) : Option HostFault :=
  GuestBridge.lastFault l.events.reverse

/-- The fault that is kept is the one that was recorded last. -/
def Attributed (l : HostLog) : Prop :=
  l.fault = l.lastFault

theorem lastFault_ran (r : HostRun) (l : HostLog) : (l.ran r).lastFault = l.lastFault := by
  rw [lastFault, ran, List.reverse_cons, lastFault_append_called]
  rfl

theorem Attributed.ran (h : l.Attributed) (r : HostRun) : (l.ran r).Attributed :=
  Eq.trans h (lastFault_ran r l).symm

theorem attributed_failed (fault : HostFault) (l : HostLog) : (l.failed fault).Attributed := by
  rw [Attributed, lastFault, failed, List.reverse_cons, lastFault_append_failed]

theorem attributed_keep_none (h : l.events = []) : (l.keep none).Attributed := by
  rw [Attributed, lastFault, keep, h]
  rfl

/-- A trap is reported with the fault that was recorded last, or else in the words of the engine. -/
theorem Attributed.report (h : l.Attributed) (message : String) :
    (∀ fault, l.lastFault = some fault →
      l.report message = .trap fault.message fault.isFatal) ∧
    (l.lastFault = none → l.report message = .trap message false) := by
  constructor
  · intro fault hfault
    rw [HostLog.report, h.trans hfault]
  · intro hnone
    rw [HostLog.report, h.trans hnone]

end HostLog

namespace Engine

variable {E : Engine} {config : Config} {limit : Nat}

/-! ## Runs -/

/-- If the fault that is kept is the one that was recorded last, it still is. -/
def Carries (s s' : E.State) : Prop :=
  s.log.Attributed → s'.log.Attributed

instance : IsPreorder E.State Carries where
  refl _ := id
  trans _ _ _ h h' := h' ∘ h

/-- What follows a call carries on. -/
def Runner.Carries (runner : E.Runner) : Prop :=
  ∀ t s, Engine.Carries s (runner t s).2

section Runner

variable {runner : E.Runner} (hrunner : runner.Carries)
include hrunner

theorem place_carries (waiting : Option E.Thread) (alloc : E.Func) (memory : E.Mem) (part : Bytes)
    (s : E.State) : Carries s (E.place runner waiting alloc memory part s).2 := by
  unfold place
  split_ifs
  · exact id
  · have hcall := hrunner (E.enter waiting alloc [.i32 (Int32.ofNat part.length)] 1) s
    split
    case h_2 hfrom =>
      rw [hfrom] at hcall
      dsimp only
      split <;> exact hcall
    all_goals
      rename_i hfrom
      rwa [hfrom] at hcall

theorem allocate_carries (waiting : E.Thread) (part : Bytes) (s : E.State) :
    Carries s (E.allocate config runner waiting part s).2 := by
  unfold allocate
  split
  · exact id
  · exact place_carries hrunner _ _ _ part s

theorem guestMemory_carries (waiting : E.Thread) :
    (E.guestMemory config runner waiting).Leads Carries :=
  ⟨allocate_carries hrunner waiting, fun _ _ _ => id⟩

theorem hostMemory_carries (byGuest : Bool) (waiting : E.Thread) :
    (E.hostMemory config runner byGuest waiting).Leads Carries := by
  cases byGuest with
  | false => exact ⟨fun _ => Fallible.leads_throw _, fun _ _ => Fallible.leads_throw _⟩
  | true => exact guestMemory_carries hrunner waiting

end Runner

theorem callHost_carries {mem : GuestMemory E.State} (hmem : mem.Leads Carries) (i : LinkedImport)
    (args : List (Option Word)) (s : E.State) : Carries s (E.callHost mem i args s).2 :=
  dispatch_leads hmem (fun r _ h => h.ran r)
    (fun fault s _ => HostLog.attributed_failed fault s.log) _ _ _ s

/-- A run carries on from step to step. -/
theorem run_carries (config : Config) (limit : Nat) : (E.run config limit).Carries := by
  induction limit with
  | zero => exact fun t s => id
  | succ steps ih =>
      rintro t ⟨guest, log⟩
      rw [run]
      split
      case h_1 t guest _ => exact ih t ⟨guest, log⟩
      case h_2 | h_3 => exact id
      case h_4 i byGuest args t guest _ =>
        intro h
        refine ih _ _ (callHost_carries ?_ i args ⟨guest, log⟩ h)
        exact hostMemory_carries ih byGuest t

/-! ## Runs that answer -/

/-- No host function has failed since everything was told. -/
def State.Faultless (s : E.State) : Prop :=
  s.log.lastFault = none

/-- What follows a call answers only if no host function has failed. -/
def Runner.Unwinds (runner : E.Runner) : Prop :=
  ∀ t s results s', s.Faultless → runner t s = (.ok results, s') → s'.Faultless

section Unwinds

variable {runner : E.Runner} (hrunner : runner.Unwinds)
include hrunner

theorem place_faultless {waiting : Option E.Thread} {alloc : E.Func} {memory : E.Mem}
    {part : Bytes} {s s' : E.State} {address : UInt32} (hs : s.Faultless)
    (h : E.place runner waiting alloc memory part s = (.ok address, s')) : s'.Faultless := by
  unfold place at h
  split_ifs at h
  · cases h
  · split at h
    · cases h
    next hcall =>
      have hlog := hrunner _ s _ _ hs hcall
      dsimp only at h
      split at h <;> cases h
      exact hlog
    · cases h

theorem guestMemory_keeps (waiting : E.Thread) :
    (E.guestMemory config runner waiting).Keeps State.Faultless := by
  refine ⟨fun part s address s' hs h => ?_, fun address length s part s' hs h => ?_⟩
  · replace h : E.allocate config runner waiting part s = (.ok address, s') := h
    unfold allocate at h
    split at h
    · cases h
    · exact place_faultless hrunner hs h
  · obtain rfl : s = s' := congrArg Prod.snd h
    exact hs

theorem hostMemory_keeps (byGuest : Bool) (waiting : E.Thread) :
    (E.hostMemory config runner byGuest waiting).Keeps State.Faultless := by
  cases byGuest with
  | false => exact ⟨fun _ => Fallible.keeps_throw _, fun _ _ => Fallible.keeps_throw _⟩
  | true => exact guestMemory_keeps hrunner waiting

end Unwinds

theorem callHost_faultless {mem : GuestMemory E.State} (hmem : mem.Keeps State.Faultless)
    {i : LinkedImport} {args : List (Option Word)} {s s' : E.State} {words : List Word}
    (hs : s.Faultless) (h : E.callHost mem i args s = (.ok words, s')) : s'.Faultless := by
  rw [callHost] at h
  rcases hfrom : (dispatch mem E.hostSide i.name.name i.binding args).from s with ⟨fault | out, s₁⟩
  · rw [hfrom] at h
    cases h
  · rw [hfrom] at h
    cases h
    refine dispatch_keeps hmem (fun r s hs => ?_) _ _ _ s _ _ hs hfrom
    exact (HostLog.lastFault_ran r s.log).trans hs

/-- A call does not answer any more when the host has failed. -/
theorem run_resume_error (hE : E.Unwinds) (config : Config) (limit : Nat) (t : E.Thread)
    (message : String) (s : E.State) :
    ∃ reason, (E.run config limit (E.resume t (.error message)) s).1 = .error reason := by
  cases limit with
  | zero => exact ⟨_, rfl⟩
  | succ steps =>
      obtain ⟨guest, log⟩ := s
      have hfailed := hE t message guest
      rcases hadvance : E.advance (E.resume t (.error message)) guest with ⟨progress, guest'⟩
      obtain rfl : progress = .failed message := by rwa [hadvance] at hfailed
      exact ⟨message, by rw [run, hadvance]⟩

/-- A run goes on from step to step as long as no host function fails. -/
theorem run_faultless (hE : E.Unwinds) (config : Config) (limit : Nat) :
    (E.run config limit).Unwinds := by
  induction limit with
  | zero => rintro t s results s' - ⟨⟩
  | succ steps ih =>
      rintro t ⟨guest, log⟩ results s' hs h
      rw [run] at h
      split at h
      case h_1 t guest _ => exact ih t ⟨guest, log⟩ results s' hs h
      case h_2 =>
        cases h
        exact hs
      case h_3 => cases h
      case h_4 i byGuest args t guest _ =>
        dsimp only at h
        rcases hcall : E.callHost (E.hostMemory config (run E config steps) byGuest t) i args
          ⟨guest, log⟩ with ⟨message | words, s₁⟩
        · rw [hcall] at h
          obtain ⟨reason, hreason⟩ := run_resume_error hE config steps t message s₁
          cases hreason.symm.trans (congrArg Prod.fst h)
        · rw [hcall] at h
          have hbefore : State.Faultless (E := E) ⟨guest, log⟩ := hs
          exact ih _ s₁ results s'
            (callHost_faultless (hostMemory_keeps ih byGuest t) hbefore hcall) h

/-! ## Requests -/

namespace Sandbox

/-- What can be asked of a sandbox. -/
inductive Request where
  | alloc (part : Bytes)
  | read (address length : UInt32)
  | runInitializer (entry : String)
  | invoke (name : String) (words : List Word)

variable {sb : E.Sandbox}

/-- The sandbox after a request, whatever the answer is. -/
def after (limit : Nat) (sb : E.Sandbox) : Request → E.Sandbox
  | .alloc part => (sb.alloc limit part).state
  | .read address length => (sb.read address length).state
  | .runInitializer entry => (sb.runInitializer limit entry).state
  | .invoke name words => (sb.invoke limit name words).state

/-- The sandbox after requests, one after the other. -/
def afterAll (limit : Nat) (sb : E.Sandbox) (requests : List Request) : E.Sandbox :=
  requests.foldl (after limit) sb

/-- What has happened in the host has been told in the answers. -/
def Told (sb : E.Sandbox) : Prop :=
  sb.state.log.events = []

theorem told_of_load {binary : Bytes} {host : HostBindings} {events : List HostEvent}
    (h : E.load limit binary host config = (.ok sb, events)) : sb.Told := by
  unfold load bringUp at h
  repeat' split at h
  all_goals cases h
  rfl

theorem invoke_told (name : String) (words : List Word) :
    (sb.invoke limit name words).state.Told := by
  unfold invoke
  split
  · rfl
  · dsimp only
    split
    · rfl
    · split <;> rfl

theorem after_told (r : Request) : (sb.after limit r).Told := by
  cases r with
  | alloc part =>
      unfold after alloc
      dsimp only
      split
      · rfl
      · split <;> rfl
  | read address length => rfl
  | runInitializer entry =>
      unfold after runInitializer
      dsimp only
      split
      · rfl
      · exact invoke_told entry []
  | invoke name words => exact invoke_told name words

theorem Told.afterAll (h : sb.Told) (requests : List Request) :
    (sb.afterAll limit requests).Told := by
  induction requests generalizing sb with
  | nil => exact h
  | cons r requests ih => exact ih (after_told r)

/-- Fuel is granted without a word to the host. -/
theorem log_of_refuelled {s : E.State} (h : sb.refuelled = .ok s) : s.log = sb.state.log := by
  unfold refuelled at h
  split at h
  · cases h
    rfl
  · split at h <;> cases h
    rfl

end Sandbox

open Sandbox

section Invoke

variable {sb : E.Sandbox} {name : String} {f : E.Func} {words : List Word} {s s' : E.State}

/-- An invocation does not see the fault that is kept, as it begins with none. -/
theorem invoke_keeping (hname : E.function? sb.state.guest name = some f)
    (kept : Option HostFault) :
    (sb.keeping kept).invoke limit name words = sb.invoke limit name words := by
  have hname' : E.function? (sb.keeping kept).state.guest name = some f := hname
  simp only [invoke, hname, hname']
  rfl

theorem invoke_of_error (hname : E.function? sb.state.guest name = some f)
    (hfuel : (sb.keeping none).refuelled = .ok s) {message : String}
    (hcall : sb.call limit f words s = (.error message, s')) :
    (sb.invoke limit name words).result = .error (s'.log.report message) ∧
      (sb.invoke limit name words).events = s'.log.events.reverse := by
  have hcall' : (sb.keeping none).call limit f words s = (.error message, s') := hcall
  simp only [invoke, hname, hfuel, hcall']
  exact ⟨rfl, rfl⟩

theorem invoke_of_ok (hname : E.function? sb.state.guest name = some f)
    (hfuel : (sb.keeping none).refuelled = .ok s) {results : List (Option Word)}
    (hcall : sb.call limit f words s = (.ok results, s')) :
    (sb.invoke limit name words).result = callAnswer name results ∧
      (sb.invoke limit name words).events = s'.log.events.reverse := by
  have hcall' : (sb.keeping none).call limit f words s = (.ok results, s') := hcall
  simp only [invoke, hname, hfuel, hcall']
  exact ⟨rfl, rfl⟩

/-- Placing bytes reports a trap of the allocator as one of its own, which is fatal. -/
theorem alloc_of_error {part : Bytes} (hpart : part.length < 0x80000000) {alloc : E.Func}
    {memory : E.Mem} (hfound : E.allocator sb.config sb.state.guest = .ok (alloc, memory))
    (hfuel : sb.refuelled = .ok s) {reason : String}
    (hcall : (E.run sb.config limit
      (E.enter none alloc [.i32 (Int32.ofNat part.length)] 1) s).1 = .error reason) :
    (sb.alloc limit part).result = .error (.trap (allocatorTrapped reason) true) := by
  rcases hrun : E.run sb.config limit
    (E.enter none alloc [.i32 (Int32.ofNat part.length)] 1) s with ⟨x, s'⟩
  obtain rfl : x = .error reason := by rwa [hrun] at hcall
  simp only [Sandbox.alloc, hfound, hfuel, place, if_neg (Nat.not_le.2 hpart), hrun]
  rfl

end Invoke

/-- When a guest traps in an invocation, whatever has been asked of its sandbox since that was
loaded, the trap has the message and the severity of the fault that was recorded last in that
invocation.  If there was none, it has the words of the engine and is not fatal.  On an engine that
ends a call when the host fails, there was none if the invocation answers.  No fault that was kept
before makes a difference, such as one from an allocator that trapped while bytes were to be placed,
which is reported there and then. -/
theorem invoke_attributed {binary : Bytes} {host : HostBindings} {loaded sb : E.Sandbox}
    {started : List HostEvent} (hload : E.load limit binary host config = (.ok loaded, started))
    {requests : List Sandbox.Request} (hsb : loaded.afterAll limit requests = sb) {name : String}
    {f : E.Func} (hname : E.function? sb.state.guest name = some f) {s : E.State}
    (hfuel : (sb.keeping none).refuelled = .ok s) (words : List Word) :
    let r := sb.invoke limit name words
    (∀ message, (sb.call limit f words s).1 = .error message →
      (∀ fault, lastFault r.events = some fault →
        r.result = .error (.trap fault.message fault.isFatal)) ∧
      (lastFault r.events = none → r.result = .error (.trap message false))) ∧
    (E.Unwinds → ∀ out, r.result = .ok out → lastFault r.events = none) ∧
    (∀ kept, (sb.keeping kept).invoke limit name words = r) ∧
    ∀ (part : Bytes) (alloc : E.Func) (memory : E.Mem) (s : E.State) (reason : String),
      part.length < 0x80000000 → E.allocator sb.config sb.state.guest = .ok (alloc, memory) →
      sb.refuelled = .ok s →
      (E.run sb.config limit
        (E.enter none alloc [.i32 (Int32.ofNat part.length)] 1) s).1 = .error reason →
        (sb.alloc limit part).result = .error (.trap (allocatorTrapped reason) true) := by
  intro r
  have htold : sb.state.log.events = [] := hsb ▸ (told_of_load hload).afterAll requests
  have hbegin : s.log = sb.state.log.keep none := log_of_refuelled hfuel
  have hattributed : s.log.Attributed := hbegin ▸ HostLog.attributed_keep_none htold
  refine ⟨fun message hmessage => ?_, fun hE out hout => ?_, invoke_keeping hname,
    fun _ _ _ _ _ hpart hfound hfuel => alloc_of_error hpart hfound hfuel⟩
  · have hcarried : (sb.call limit f words s).2.log.Attributed :=
      run_carries sb.config limit _ s hattributed
    rcases hcall : sb.call limit f words s with ⟨x, s'⟩
    rw [hcall] at hmessage hcarried
    obtain rfl : x = .error message := hmessage
    obtain ⟨hresult, hevents⟩ := invoke_of_error hname hfuel hcall
    obtain ⟨hsome, hnone⟩ := hcarried.report message
    simp only [r, hresult, hevents, Except.error.injEq]
    exact ⟨hsome, hnone⟩
  · rcases hcall : sb.call limit f words s with ⟨message | results, s'⟩
    · cases hout.symm.trans (invoke_of_error hname hfuel hcall).1
    · have hfaultless : s.Faultless := hattributed.symm.trans (hbegin ▸ rfl)
      simp only [r, (invoke_of_ok hname hfuel hcall).2]
      exact run_faultless hE sb.config limit _ s results s' hfaultless hcall

end Engine

/-- A host function that has room at the second call only. -/
def room : HostFunction :=
  ⟨[], .i32, fun past _ => if past.length = 1 then .ok (.i32 0) else .error (.fatal "no room")⟩

/-- Asks the host for room. -/
def roomAsker : GuestFunction :=
  ⟨⟨[.word .i32], [.word .i32]⟩, [], [.call 0]⟩

/-- Traps at once. -/
def stopper : GuestFunction :=
  ⟨⟨[], [.word .i32]⟩, [], [.unreachable]⟩

/-- A module whose allocator is `roomAsker`. -/
def stopping : Module where
  types := [stopper.type, roomAsker.type]
  imports := [⟨⟨"env", "room"⟩, .function (bindingType room)⟩]
  functions := [roomAsker, stopper]
  memory := some ⟨0, none⟩
  globals := []
  exports :=
    .ofList [("alloc", ⟨.function, 1⟩), ("memory", ⟨.memory, 0⟩), ("stop", ⟨.function, 2⟩)]
  start := none
  data := []

namespace stopping

def sections : List Section :=
  [⟨1, [0x02, 0x60, 0x00, 0x01, 0x7F, 0x60, 0x01, 0x7F, 0x01, 0x7F]⟩,
    ⟨2, [0x01, 0x03, 0x65, 0x6E, 0x76, 0x04, 0x72, 0x6F, 0x6F, 0x6D, 0x00, 0x00]⟩,
    ⟨3, [0x02, 0x01, 0x00]⟩,
    ⟨5, [0x01, 0x00, 0x00]⟩,
    ⟨7, [0x03, 0x05, 0x61, 0x6C, 0x6C, 0x6F, 0x63, 0x00, 0x01,
      0x06, 0x6D, 0x65, 0x6D, 0x6F, 0x72, 0x79, 0x02, 0x00,
      0x04, 0x73, 0x74, 0x6F, 0x70, 0x00, 0x02]⟩,
    ⟨10, [0x02, 0x04, 0x00, 0x10, 0x00, 0x0B, 0x03, 0x00, 0x00, 0x0B]⟩]

def binary : Bytes :=
  moduleHeader ++ sections.flatMap fun s => s.id :: UInt8.ofNat s.content.length :: s.content

def host : HostBindings :=
  (HostBindings.empty.insert "room" room).2

/-- The module as it is up at first. -/
def loaded : Sandbox where
  code := stopping
  config := .standard
  state :=
    ⟨⟨⟨stopping, [.host ⟨⟨"env", "room"⟩, room⟩, .guest roomAsker, .guest stopper]⟩,
      ⟨.zeros 0, [], none⟩⟩, .empty⟩

theorem ofSections_sections : Module.ofSections sections = some stopping := by
  have htypes : readPart sections 1 [] (readVector readFuncType) = some stopping.types := rfl
  have himports : readPart sections 2 [] (readVector (readImport stopping.types)) =
      some stopping.imports := by decide +kernel
  have hexports : readPart sections 7 [] (readVector readExport) =
      some [("alloc", ⟨.function, 1⟩), ("memory", ⟨.memory, 0⟩), ("stop", ⟨.function, 2⟩)] := by
    decide +kernel
  rw [Module.ofSections]
  simp only [htypes, Option.bind_eq_bind, Option.bind_some, himports, hexports]
  rfl

theorem load_binary : Module.load binary = some stopping := by
  have hheader : expectBytes moduleHeader binary = some ((), binary.drop 8) := rfl
  have hsections : readSections (binary.drop 8) = some sections := by decide +kernel
  rw [Module.load, Module.read]
  simp only [hheader, hsections, Option.bind_eq_bind, Option.bind_some]
  change ((Module.ofSections sections).filter Module.isOrderly).bind _ = _
  rw [ofSections_sections]
  rfl

theorem compile_binary :
    interpreter.compile Config.standard.fuelPerCall.isSome binary = .ok stopping := by
  change (Module.load binary).elim _ _ = _
  rw [load_binary]
  rfl

theorem load_eq : interpreter.load maxSteps binary host .standard = (.ok loaded, []) := by
  rw [Engine.load, compile_binary]
  rfl

/-- The module after its allocator has failed in the host. -/
def failed : Sandbox :=
  loaded.afterAll maxSteps [.alloc [1, 2]]

/-- The module after it was also asked for room once more. -/
def answered : Sandbox :=
  loaded.afterAll maxSteps [.alloc [1, 2], .invoke "alloc" [.i32 1]]

end stopping

open stopping

/-- The allocator fails in the host, which leaves a fault behind.  A function that traps after that
is reported in the words of the engine.  The allocator, when it is invoked, finds room in the host
and records no fault, and when it is invoked again, it is reported with a fault of its own. -/
theorem invoke_attributed_stopping :
    interpreter.load maxSteps binary host .standard = (.ok loaded, []) ∧
      (loaded.alloc maxSteps [1, 2]).result =
        .error (.trap "allocator trapped: host function `room` failed: fatal: no room" true) ∧
      failed.state.log.fault = some ⟨"room", .call (.fatal "no room")⟩ ∧
      (failed.invoke maxSteps "stop" []).result =
        .error (.trap "wasm `unreachable` instruction executed" false) ∧
      (failed.invoke maxSteps "alloc" [.i32 1]).result = .ok [.i32 0] ∧
      lastFault (failed.invoke maxSteps "alloc" [.i32 1]).events = none ∧
      (answered.invoke maxSteps "alloc" [.i32 1]).result =
        .error (.trap "host function `room` failed: fatal: no room" true) := by
  have hloaded : loaded.afterAll maxSteps [] = loaded := rfl
  have hfirst : interpreter.function? loaded.state.guest "stop" = some (.guest stopper) := rfl
  have hstop : interpreter.function? failed.state.guest "stop" = some (.guest stopper) := rfl
  have halloc : interpreter.function? failed.state.guest "alloc" = some (.guest roomAsker) := rfl
  have hagain : interpreter.function? answered.state.guest "alloc" = some (.guest roomAsker) := rfl
  have hanswer : (failed.invoke maxSteps "alloc" [.i32 1]).result = .ok [.i32 0] := rfl
  refine ⟨load_eq, ?_, rfl, ?_, hanswer, ?_, ?_⟩
  · have hplacing := (Engine.invoke_attributed load_eq hloaded hfirst rfl []).2.2.2
    exact hplacing [1, 2] (.guest roomAsker) () loaded.state
      "host function `room` failed: fatal: no room" (by decide) rfl rfl rfl
  · have htrap := (Engine.invoke_attributed load_eq rfl hstop rfl []).1 Trap.unreachable.message rfl
    exact htrap.2 rfl
  · have hunwinds := (Engine.invoke_attributed load_eq rfl halloc rfl [.i32 1]).2.1
    exact hunwinds interpreter_unwinds _ hanswer
  · have htrap := (Engine.invoke_attributed load_eq rfl hagain rfl [.i32 1]).1 _ rfl
    exact htrap.1 ⟨"room", .call (.fatal "no room")⟩ rfl

end Wasm

end GuestBridge
