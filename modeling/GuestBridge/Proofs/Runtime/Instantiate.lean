import GuestBridge.Proofs.Layout.Staging
import GuestBridge.Proofs.Runtime.World
import GuestBridge.Proofs.SortedMap
import GuestBridge.Sandbox.Scripted

/-!
# All or nothing

`BringUp.Course` lists the ways in which bringing up a module can go, each with everything that was
asked of the sandbox, and `bringUp_course` says that there is no other.  Over a well-formed registry
the structs of a module that were staged can always be committed (`commitStaged_of_stage`), so the
last step never fails.  A module is therefore brought up in full, or nothing is left of it: the
registry is as it was, and a sandbox that was loaded is released.
-/

namespace GuestBridge

variable {σ : Type} {b : Backend σ}

/-! ## The table of functions -/

section Table

variable {metadata : Metadata} {lookup : DeclaredSignature.Lookup} {initializer : Option String}
  {start table : SortedMap String Signature} {found : List ExportInfo}

/-- The functions of a table are those it started with, and the exports but for the initializer. -/
theorem exportSignatures_isSome_iff
    (h : exportSignatures metadata lookup initializer start found = .ok table) {name : String} :
    (table.get? name).isSome ↔
      (start.get? name).isSome ∨ initializer ≠ some name ∧ ∃ e ∈ found, e.name = name := by
  induction found generalizing start with
  | nil =>
      cases h
      simp
  | cons e rest ih =>
      rw [exportSignatures] at h
      split_ifs at h with hinit
      · rw [ih h]
        have hne : initializer ≠ some name → e.name ≠ name := fun hne heq => hne (heq ▸ hinit)
        grind
      · split at h
        · cases h
        · rw [ih h, SortedMap.get?_insert]
          grind

/-- Every export but for the initializer is settled in a table. -/
theorem exportSignatures_settled
    (h : exportSignatures metadata lookup initializer start found = .ok table) {e : ExportInfo}
    (he : e ∈ found) (hinit : initializer ≠ some e.name) :
    ∃ s, exportSignature metadata lookup e = .ok s := by
  induction found generalizing start with
  | nil => cases he
  | cons e' rest ih =>
      rw [exportSignatures] at h
      split_ifs at h with hinit'
      · rcases List.mem_cons.1 he with rfl | he
        · exact (hinit hinit').elim
        · exact ih h he
      · split at h
        · cases h
        · rename_i s hs
          rcases List.mem_cons.1 he with rfl | he
          · exact ⟨s, hs⟩
          · exact ih h he

/-- A table is refused for the signature of an export. -/
theorem exportSignatures_error {cause : InstantiationError}
    (h : exportSignatures metadata lookup initializer start found = .error cause) :
    ∃ e ∈ found, ∃ fault, cause = .signature e.name fault := by
  induction found generalizing start with
  | nil => cases h
  | cons e rest ih =>
      have hrest : ∀ {start'}, exportSignatures metadata lookup initializer start' rest =
          .error cause → ∃ e' ∈ e :: rest, ∃ fault, cause = .signature e'.name fault := by
        intro start' h'
        obtain ⟨e', he', hfault⟩ := ih h'
        exact ⟨e', List.mem_cons_of_mem _ he', hfault⟩
      rw [exportSignatures] at h
      split_ifs at h
      · exact hrest h
      · split at h
        · rename_i cause' hcause
          cases h
          unfold exportSignature at hcause
          split at hcause
          · cases hcause
          · split at hcause
            · cases hcause
              exact ⟨e, List.mem_cons_self, _, rfl⟩
            · split_ifs at hcause
              cases hcause
              exact ⟨e, List.mem_cons_self, _, rfl⟩
        · exact hrest h

end Table

/-! ## The initializer -/

namespace Backend

/-- The sandbox after the initializer, if one is configured. -/
def entered (b : Backend σ) (initializer : Option String) (sandbox : σ) : σ :=
  match initializer with
  | none => sandbox
  | some entry => (b.runInitializer entry sandbox).state

/-- The initializer does not fail, if one is configured. -/
def Enters (b : Backend σ) (initializer : Option String) (sandbox : σ) : Prop :=
  ∀ entry, initializer = some entry → ∃ ran, (b.runInitializer entry sandbox).result = .ok ran

/-- What is asked of a sandbox for the initializer, if one is configured. -/
def entryTrace (b : Backend σ) (initializer : Option String) (sandbox : σ) : Trace :=
  match initializer with
  | none => []
  | some entry =>
      let reply := b.runInitializer entry sandbox
      [⟨.runInitializer entry reply.result, reply.events⟩]

end Backend

/-- The initializer is run once if one is configured, and its failure is reported under its name. -/
theorem runEntry_from (b : Backend σ) (initializer : Option String) (t : Traced σ) :
    ∃ x, (runEntry b initializer).from t =
        (x, ⟨b.entered initializer t.sandbox, t.trace ++ b.entryTrace initializer t.sandbox⟩) ∧
      (x = .ok () → b.Enters initializer t.sandbox) ∧
      ∀ cause, x = .error cause → ∃ entry e, initializer = some entry ∧
        (b.runInitializer entry t.sandbox).result = .error e ∧
        cause = .initializer entry e.message := by
  cases initializer with
  | none =>
      refine ⟨.ok (), by simp [runEntry, Backend.entered, Backend.entryTrace], ?_, ?_⟩
      · rintro - _ ⟨⟩
      · rintro _ ⟨⟩
  | some entry =>
      rw [runEntry, Fallible.from_bind, Fallible.from_adapt]
      cases hreply : (b.runInitializer entry t.sandbox).result with
      | error e =>
          refine ⟨.error (.initializer entry e.message), ?_, ?_, fun cause hcause => ?_⟩
          · simp [Backend.traceInitializer, Backend.perform, hreply, Except.mapError,
              Backend.entered, Backend.entryTrace]
          · rintro ⟨⟩
          · cases hcause
            exact ⟨entry, e, rfl, hreply, rfl⟩
      | ok ran =>
          refine ⟨.ok (), ?_, fun _ => ?_, ?_⟩
          · simp [Backend.traceInitializer, Backend.perform, hreply, Except.mapError,
              Backend.entered, Backend.entryTrace]
          · rintro _ ⟨⟩
            exact ⟨ran, hreply⟩
          · rintro _ ⟨⟩

/-! ## The structs of a module -/

/-- Structs that were staged on a well-formed registry are declared by committing them. -/
theorem commitStaged_of_stage {r : Registry} (h : r.WellFormed) {decls : List StructDecl}
    {staged : Staged} (hstage : r.stage decls = .ok staged) :
    ∃ descriptors r', r.declare decls = .ok (descriptors, r') ∧ commitStaged r staged = .ok r' := by
  obtain ⟨rfl, hbuild⟩ := Registry.stage_eq_ok_iff.1 hstage
  have hb : (r.build .allowedIfIdentical staged.decls).map r.extend =
      .ok (r.extend staged.built) := by rw [hbuild]; rfl
  obtain ⟨descriptors, hdeclare⟩ := h.exists_addBatch hb
  rw [commitStaged]
  split_ifs with hempty
  · refine ⟨[], r, ?_, rfl⟩
    rw [List.isEmpty_iff.1 hempty]
    rfl
  · refine ⟨descriptors, r.extend staged.built, hdeclare, ?_⟩
    rw [Registry.commit, Registry.declare, hdeclare]

theorem commitStaged_error {r : Registry} {staged : Staged} {cause : InstantiationError}
    (h : commitStaged r staged = .error cause) : ∃ e, cause = .registry e := by
  rw [commitStaged] at h
  split_ifs at h
  split at h
  · cases h
  · cases h
    exact ⟨_, rfl⟩

namespace InstantiationError

/-- The module is refused for its metadata or for its structs. -/
inductive OfModule : InstantiationError → Prop where
  | metadata (e : MetadataError) : OfModule (.metadata e)
  | registry (e : RegistryError) : OfModule (.registry e)

theorem not_ofModule_ofLoad (e : SandboxError) : ¬ (ofLoad e).OfModule := by
  cases e <;> rintro ⟨⟩

theorem ofLoad_ne_signature {e : SandboxError} {name : String} {fault : SignatureFault} :
    ofLoad e ≠ .signature name fault := by
  cases e <;> rintro ⟨⟩

end InstantiationError

/-! ## What was asked for -/

/-- A sandbox was loaded. -/
def TraceEntry.loaded (entry : TraceEntry) : Bool :=
  match entry.call with
  | .load (.ok _) => true
  | _ => false

/-- The sandbox was released. -/
def TraceEntry.released (entry : TraceEntry) : Bool :=
  match entry.call with
  | .release => true
  | _ => false

/-- The initializer that was run. -/
def TraceEntry.initializer? (entry : TraceEntry) : Option String :=
  match entry.call with
  | .runInitializer entry _ => some entry
  | _ => none

/-- How many sandboxes were loaded. -/
def Trace.loads (t : Trace) : Nat :=
  t.countP TraceEntry.loaded

/-- How often a sandbox was released. -/
def Trace.releases (t : Trace) : Nat :=
  t.countP TraceEntry.released

/-- The initializers that were run, in order. -/
def Trace.initializers (t : Trace) : List String :=
  t.filterMap TraceEntry.initializer?

/-- How many sandboxes a trace loads, how often it releases one, and which initializers it runs. -/
def Trace.Counts (t : Trace) (loads releases : Nat) (initializers : List String) : Prop :=
  t.loads = loads ∧ t.releases = releases ∧ t.initializers = initializers

theorem Trace.Counts.release {t : Trace} {loads releases : Nat} {initializers : List String}
    (h : t.Counts loads releases initializers) :
    Trace.Counts (t ++ [⟨.release, []⟩]) loads (releases + 1) initializers := by
  obtain ⟨rfl, rfl, rfl⟩ := h
  simp [Counts, loads, releases, initializers, TraceEntry.loaded, TraceEntry.released,
    TraceEntry.initializer?]

/-! ## Courses -/

/-- A module whose metadata is read, whose structs are staged and whose sandbox is loaded. -/
structure Opened (b : Backend σ) (config : Config) (r : Registry) (bytecode : Bytes)
    (host : HostBindings) where
  found : Option Metadata
  staged : Staged
  sandbox : σ
  events : List HostEvent
  find_eq : Metadata.find config.metadataSection bytecode = .ok found
  stage_eq : r.stage (found.getD .empty).structs = .ok staged
  load_eq : b.load bytecode host config = (.ok sandbox, events)

section Course

variable {config : Config} {r : Registry} {bytecode : Bytes} {host : HostBindings}

namespace Opened

/-- There is only one way to get there. -/
theorem eq (o o' : Opened b config r bytecode host) : o = o' := by
  obtain ⟨found, staged, sandbox, events, hfind, hstage, hload⟩ := o
  obtain ⟨found', staged', sandbox', events', hfind', hstage', hload'⟩ := o'
  obtain rfl := Except.ok.inj (hfind.symm.trans hfind')
  obtain rfl := Except.ok.inj (hstage.symm.trans hstage')
  obtain ⟨hsandbox, rfl⟩ := Prod.mk.inj (hload.symm.trans hload')
  obtain rfl := Except.ok.inj hsandbox
  rfl

def metadata (o : Opened b config r bytecode host) : Metadata :=
  o.found.getD .empty

/-- The function table that its exports come to. -/
def table (o : Opened b config r bytecode host) :
    Except InstantiationError (SortedMap String Signature) :=
  exportSignatures o.metadata (o.staged.lookup r) config.initializer .empty (b.exports o.sandbox)

/-- Every export but for the initializer has its signature. -/
def Settled (o : Opened b config r bytecode host) : Prop :=
  ∀ e ∈ b.exports o.sandbox, config.initializer ≠ some e.name →
    ∃ s, exportSignature o.metadata (o.staged.lookup r) e = .ok s

/-- What was asked of the sandbox so far. -/
def trace (o : Opened b config r bytecode host) : Trace :=
  [⟨.load (.ok ()), o.events⟩, ⟨.exports (b.exports o.sandbox), []⟩]

/-- What was asked of the sandbox when its initializer is done. -/
def enteredTrace (o : Opened b config r bytecode host) : Trace :=
  o.trace ++ b.entryTrace config.initializer o.sandbox

theorem trace_counts (o : Opened b config r bytecode host) : o.trace.Counts 1 0 [] :=
  ⟨rfl, rfl, rfl⟩

theorem enteredTrace_counts (o : Opened b config r bytecode host) :
    o.enteredTrace.Counts 1 0 config.initializer.toList := by
  unfold enteredTrace Backend.entryTrace
  cases config.initializer <;> exact ⟨rfl, rfl, rfl⟩

theorem settled (o : Opened b config r bytecode host) {table : SortedMap String Signature}
    (h : o.table = .ok table) : o.Settled :=
  fun _ he hinit => exportSignatures_settled h he hinit

/-- The table holds the exports but for the initializer, each with the words of one of its name. -/
theorem table_ok (o : Opened b config r bytecode host) {table : SortedMap String Signature}
    (h : o.table = .ok table) :
    (∀ name, name ∈ table.keys ↔
      config.initializer ≠ some name ∧ ∃ e ∈ b.exports o.sandbox, e.name = name) ∧
    ∀ name s, table.get? name = some s → ∃ e ∈ b.exports o.sandbox, e.name = name ∧
      s.wireParams = e.params ∧ s.wireResults = e.results := by
  refine ⟨fun name => ?_, fun name s hs => ?_⟩
  · rw [SortedMap.mem_keys_iff, exportSignatures_isSome_iff h]
    simp
  · rcases exportSignatures_get? h hs with hnone | ⟨-, he⟩
    · simp at hnone
    · exact he

end Opened

variable (b config r bytecode host) in
/-- The ways in which bringing up a module can go.  In all that fail and had a sandbox it is
released last. -/
inductive BringUp.Course : BringUp σ → Prop where
  | unread {e : MetadataError} (h : Metadata.find config.metadataSection bytecode = .error e) :
      Course ⟨.error (.metadata e), []⟩
  | unstaged {found : Option Metadata} {e : RegistryError}
      (hfind : Metadata.find config.metadataSection bytecode = .ok found)
      (h : r.stage (found.getD .empty).structs = .error e) :
      Course ⟨.error (.registry e), []⟩
  | unloaded {e : SandboxError} {events : List HostEvent}
      (h : b.load bytecode host config = (.error e, events)) :
      Course ⟨.error (.ofLoad e), [⟨.load (.error e), events⟩]⟩
  | unsettled (o : Opened b config r bytecode host) {cause : InstantiationError}
      (h : o.table = .error cause) :
      Course ⟨.error cause, o.trace ++ [⟨.release, []⟩]⟩
  | unentered (o : Opened b config r bytecode host) {table : SortedMap String Signature}
      {entry : String} {e : SandboxError} (htable : o.table = .ok table)
      (hentry : config.initializer = some entry)
      (h : (b.runInitializer entry o.sandbox).result = .error e) :
      Course ⟨.error (.initializer entry e.message), o.enteredTrace ++ [⟨.release, []⟩]⟩
  | uncommitted (o : Opened b config r bytecode host) {table : SortedMap String Signature}
      {cause : InstantiationError} (htable : o.table = .ok table)
      (h : commitStaged r o.staged = .error cause) :
      Course ⟨.error cause, o.enteredTrace ++ [⟨.release, []⟩]⟩
  | up (o : Opened b config r bytecode host) {table : SortedMap String Signature} {r' : Registry}
      (htable : o.table = .ok table) (henters : b.Enters config.initializer o.sandbox)
      (hcommit : commitStaged r o.staged = .ok r') :
      Course ⟨.ok (⟨table, o.metadata⟩, b.entered config.initializer o.sandbox, r'),
        o.enteredTrace⟩

theorem prepare_from (metadata : Metadata) (staged : Staged) (found : List ExportInfo)
    (t : Traced σ) :
    (prepare b config r metadata staged found).from t =
      match exportSignatures metadata (staged.lookup r) config.initializer .empty found with
      | .error cause => (.error cause, t)
      | .ok table =>
          match (runEntry b config.initializer).from t with
          | (.error cause, t') => (.error cause, t')
          | (.ok _, t') => ((commitStaged r staged).map fun r' => (⟨table, metadata⟩, r'), t') := by
  rw [prepare, Fallible.from_bind, Fallible.from_mk_pure]
  cases exportSignatures metadata (staged.lookup r) config.initializer .empty found with
  | error cause => rfl
  | ok table =>
      dsimp only
      rw [Fallible.from_bind]
      rcases (runEntry b config.initializer).from t with ⟨cause | u, t'⟩
      · rfl
      · dsimp only
        rw [Fallible.from_bind, Fallible.from_mk_pure]
        cases commitStaged r staged <;> rfl

theorem Opened.loadStaged_course (o : Opened b config r bytecode host) :
    BringUp.Course b config r bytecode host
      (loadStaged b config r bytecode host o.metadata o.staged) := by
  simp only [loadStaged, o.load_eq, prepare_from]
  cases htable : o.table with
  | error cause =>
      rw [Opened.table] at htable
      simp only [htable]
      exact .unsettled o htable
  | ok table =>
      rw [Opened.table] at htable
      obtain ⟨x, hx, henters, hcause⟩ :=
        runEntry_from b config.initializer (⟨o.sandbox, o.trace⟩ : Traced σ)
      rw [Opened.trace] at hx
      simp only [htable, hx]
      cases x with
      | error cause =>
          obtain ⟨entry, e, hentry, hrun, rfl⟩ := hcause cause rfl
          exact .unentered o htable hentry hrun
      | ok u =>
          cases hcommit : commitStaged r o.staged with
          | error cause => exact .uncommitted o htable hcommit
          | ok r' => exact .up o htable (henters rfl) hcommit

variable (b config r bytecode host) in
/-- Bringing up a module goes in no other way. -/
theorem bringUp_course :
    BringUp.Course b config r bytecode host (bringUp b config r bytecode host) := by
  unfold bringUp
  split
  · rename_i e hfind
    exact .unread hfind
  · rename_i found hfind
    dsimp only
    split
    · rename_i e hstage
      exact .unstaged hfind hstage
    · rename_i staged hstage
      rcases hload : b.load bytecode host config with ⟨e | sandbox, events⟩
      · simp only [loadStaged, hload]
        exact .unloaded hload
      · exact Opened.loadStaged_course ⟨found, staged, sandbox, events, hfind, hstage, hload⟩

namespace BringUp.Course

variable {up : BringUp σ} (h : Course b config r bytecode host up)
include h

theorem of_ok {program : Program} {sandbox : σ} {r' : Registry}
    (hok : up.result = .ok (program, sandbox, r')) :
    ∃ o : Opened b config r bytecode host, o.table = .ok program.exports ∧
      program.metadata = o.metadata ∧ sandbox = b.entered config.initializer o.sandbox ∧
      commitStaged r o.staged = .ok r' ∧ up.trace = o.enteredTrace := by
  cases h with
  | up o htable _ hcommit =>
      cases hok
      exact ⟨o, htable, rfl, rfl, hcommit, rfl⟩
  | _ => cases hok

/-- Over a well-formed registry, a module is up just when it is loaded, its functions have their
signatures and its initializer does not fail. -/
theorem isOk_iff (hr : r.WellFormed) : up.result.isOk ↔ ∃ o : Opened b config r bytecode host,
    o.table.isOk ∧ b.Enters config.initializer o.sandbox := by
  constructor
  · intro hok
    cases h with
    | up o htable henters _ => exact ⟨o, by rw [htable]; rfl, henters⟩
    | _ => cases hok
  · rintro ⟨o, htable, henters⟩
    cases h with
    | unread hfind => cases hfind.symm.trans o.find_eq
    | unstaged hfind hstage =>
        obtain rfl := Except.ok.inj (hfind.symm.trans o.find_eq)
        cases hstage.symm.trans o.stage_eq
    | unloaded hload => cases hload.symm.trans o.load_eq
    | unsettled o' htable' =>
        rw [o.eq o', htable'] at htable
        cases htable
    | unentered o' _ hentry hrun =>
        obtain ⟨ran, hran⟩ := henters _ hentry
        rw [o.eq o'] at hran
        cases hrun.symm.trans hran
    | uncommitted o' _ hcommit =>
        obtain ⟨descriptors, r', -, hcommit'⟩ := commitStaged_of_stage hr o'.stage_eq
        cases hcommit.symm.trans hcommit'
    | up => rfl

/-- A sandbox that was loaded in vain is released, once. -/
theorem releases_eq {e : InstantiationError} (he : up.result = .error e) :
    up.trace.releases = up.trace.loads ∧ up.trace.loads ≤ 1 := by
  cases h with
  | unread _ | unstaged _ _ | unloaded _ => exact ⟨rfl, Nat.zero_le 1⟩
  | unsettled o _ =>
      obtain ⟨hloads, hreleases, -⟩ := o.trace_counts.release
      exact ⟨hreleases.trans hloads.symm, hloads.le⟩
  | unentered o _ _ _ | uncommitted o _ _ =>
      obtain ⟨hloads, hreleases, -⟩ := o.enteredTrace_counts.release
      exact ⟨hreleases.trans hloads.symm, hloads.le⟩
  | up o _ _ _ => cases he

/-- The initializer is run at most once, and only when every other export has its signature. -/
theorem initializers_eq :
    up.trace.initializers = [] ∨ ∃ o : Opened b config r bytecode host,
      up.trace.initializers = config.initializer.toList ∧ o.Settled := by
  cases h with
  | unread _ | unstaged _ _ | unloaded _ => exact .inl rfl
  | unsettled o _ => exact .inl o.trace_counts.release.2.2
  | unentered o htable _ _ | uncommitted o htable _ =>
      exact .inr ⟨o, o.enteredTrace_counts.release.2.2, o.settled htable⟩
  | up o htable _ _ => exact .inr ⟨o, o.enteredTrace_counts.2.2, o.settled htable⟩

/-- A signature is refused before the initializer is run. -/
theorem initializers_of_signature {name : String} {fault : SignatureFault}
    (he : up.result = .error (.signature name fault)) : up.trace.initializers = [] := by
  cases h with
  | unsettled o _ => exact o.trace_counts.release.2.2
  | uncommitted o _ hcommit =>
      obtain ⟨e, hregistry⟩ := commitStaged_error hcommit
      rw [hregistry] at he
      cases he
  | unloaded _ => exact (InstantiationError.ofLoad_ne_signature (Except.error.inj he)).elim
  | _ => cases he

/-- Over a well-formed registry, the metadata or the structs of a module are refused before
anything is asked of a sandbox. -/
theorem trace_of_refused (hr : r.WellFormed) {cause : InstantiationError} (hcause : cause.OfModule)
    (he : up.result = .error cause) : up.trace = [] := by
  cases h with
  | unread _ | unstaged _ _ => rfl
  | unloaded _ =>
      cases he
      exact (InstantiationError.not_ofModule_ofLoad _ hcause).elim
  | unsettled o htable =>
      cases he
      obtain ⟨e, -, fault, rfl⟩ := exportSignatures_error htable
      cases hcause
  | unentered o _ _ _ =>
      cases he
      cases hcause
  | uncommitted o _ hcommit =>
      obtain ⟨descriptors, r', -, hcommit'⟩ := commitStaged_of_stage hr o.stage_eq
      cases hcommit.symm.trans hcommit'
  | up o _ _ _ => cases he

end BringUp.Course

end Course

namespace Runtime

variable {rt : Runtime σ}

/-- Bringing up a module over a registry that was reached is all or nothing.  It is up just when its
metadata is read, its structs fit, it is loaded, its functions have their signatures and its
initializer does not fail.  Then the registry is what declaring its structs makes of it, and the
runtime has its sandbox, its metadata and its exports but for the initializer, each with the words
of one of that name.  When it is not up, the registry is as it was, the runtime has none of this,
and a sandbox that was loaded was released once.  A module that is refused for its metadata or its
structs is not loaded, and the initializer is run at most once, after the signatures of all other
exports are settled. -/
theorem instantiate_all_or_nothing (b : Backend σ) (requests : List RegistryRequest)
    (h : rt.state = .uninstantiated) (bytecode : Bytes) (host : HostBindings) :
    let r := Registry.primitives.afterAll requests
    let out := (rt.instantiate b r bytecode host).1
    let r' := (rt.instantiate b r bytecode host).2
    (out.result.isOk ↔ ∃ o : Opened b rt.config r bytecode host,
      o.table.isOk ∧ b.Enters rt.config.initializer o.sandbox) ∧
    (out.result = .ok () → ∃ o : Opened b rt.config r bytecode host,
      (∃ descriptors, r.declare o.metadata.structs = .ok (descriptors, r')) ∧
      out.runtime.state = .ready ∧
      out.runtime.sandbox? = some (b.entered rt.config.initializer o.sandbox) ∧
      out.runtime.metadata = o.metadata ∧
      (∀ name, name ∈ out.runtime.exports.keys ↔
        rt.config.initializer ≠ some name ∧ ∃ e ∈ b.exports o.sandbox, e.name = name) ∧
      (∀ name s, out.runtime.signature? name = some s → ∃ e ∈ b.exports o.sandbox,
        e.name = name ∧ s.wireParams = e.params ∧ s.wireResults = e.results) ∧
      out.trace.Counts 1 0 rt.config.initializer.toList) ∧
    (∀ e, out.result = .error e → ∃ cause, e = .instantiation cause ∧ r' = r ∧
      out.runtime.state = .failed ∧ out.runtime.sandbox? = none ∧
      out.runtime.metadata = .empty ∧ out.runtime.exports = .empty ∧
      out.trace.releases = out.trace.loads ∧ out.trace.loads ≤ 1 ∧
      (cause.OfModule → out.trace = []) ∧
      (∀ name fault, cause = .signature name fault → out.trace.initializers = [])) ∧
    (out.trace.initializers = [] ∨ ∃ o : Opened b rt.config r bytecode host,
      out.trace.initializers = rt.config.initializer.toList ∧ o.Settled) := by
  intro r out r'
  have hr : r.WellFormed := Registry.wellFormed_afterAll requests
  have hcourse := bringUp_course b rt.config r bytecode host
  have hinit := hcourse.initializers_eq
  rcases instantiate_cases b r rt bytecode host with
    ⟨-, program, sandbox, r₁, hup, heq⟩ | ⟨-, cause, hup, heq⟩ | ⟨hphase, -⟩
  · obtain ⟨hout, hr'⟩ : out = _ ∧ r' = r₁ := Prod.mk.inj heq
    have hisOk := hcourse.isOk_iff hr
    rw [hup] at hisOk
    rw [hout, hr']
    refine ⟨hisOk, fun _ => ?_, nofun, hinit⟩
    obtain ⟨o, htable, hmetadata, hsandbox, hcommit, htrace⟩ := hcourse.of_ok hup
    obtain ⟨descriptors, r₂, hdeclare, hcommit'⟩ := commitStaged_of_stage hr o.stage_eq
    obtain rfl : r₂ = r₁ := Except.ok.inj (hcommit'.symm.trans hcommit)
    obtain ⟨hkeys, hwords⟩ := o.table_ok htable
    refine ⟨o, ⟨descriptors, hdeclare⟩, rfl, congrArg some hsandbox, hmetadata, hkeys, hwords, ?_⟩
    rw [htrace]
    exact o.enteredTrace_counts
  · obtain ⟨hout, hr'⟩ : out = _ ∧ r' = r := Prod.mk.inj heq
    have hisOk := hcourse.isOk_iff hr
    rw [hup] at hisOk
    rw [hout, hr']
    refine ⟨hisOk, nofun, fun e he => ?_, hinit⟩
    obtain ⟨hreleases, hloads⟩ := hcourse.releases_eq hup
    refine ⟨cause, (Except.error.inj he).symm, rfl, rfl, rfl, rfl, rfl, hreleases, hloads,
      fun hcause => hcourse.trace_of_refused hr hcause hup, ?_⟩
    rintro name fault rfl
    exact hcourse.initializers_of_signature hup
  · obtain ⟨config, phase⟩ := rt
    cases phase with
    | uninstantiated => exact (hphase rfl).elim
    | _ => cases h

/-- A sandbox that traps in its initializer. -/
def faltering : Scripted.Script where
  exports := [⟨"_initialize", [], []⟩, ⟨"run", [.i32], []⟩]
  arena := .zeroed 64 256 []
  loadFailure := none
  initializer := .error (.trap "not today" false)
  actions := []

theorem instantiate_faltering :
    let out := (instantiate (Scripted.backend faltering) .primitives (new .standard) [] .empty).1
    out.result = .error (.instantiation (.initializer "_initialize" "not today")) ∧
      out.runtime.sandbox? = none ∧ out.trace.loads = 1 ∧ out.trace.releases = 1 := by
  intro out
  have hresult : out.result =
      .error (.instantiation (.initializer "_initialize" "not today")) := by rfl
  have hloads : out.trace.loads = 1 := by rfl
  obtain ⟨-, -, herror, -⟩ := instantiate_all_or_nothing (Scripted.backend faltering) []
    (rfl : (new .standard).state = .uninstantiated) [] .empty
  obtain ⟨cause, -, -, -, hsandbox, -, -, hreleases, -⟩ := herror _ hresult
  exact ⟨hresult, hsandbox, hloads, hreleases.trans hloads⟩

end Runtime

end GuestBridge
