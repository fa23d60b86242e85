import GuestBridge.Proofs.Fallible
import GuestBridge.Wasm.Sandbox

/-!
# The imports of a module

`Import.Faulty` tells what is wrong with an import by itself.  Linking stops at the first import
that it blames: one without a function in the host, or one of another type than its binding unless
it was met before under the same names (`Import.Blamed`).  Then loading fails with the error of this
import, on whatever engine and whatever else is in the module, and nothing of the module runs
(`Engine.load_blames`).

A module that imports nothing with two types fails with the error of the first faulty import
(`Engine.load_of_consistent`).  One that does may have a faulty import that is never blamed
(`not_load_first_faulty`).
-/

namespace GuestBridge

namespace Wasm

variable {host : HostBindings} {hostModule : String}

/-! ## Faults -/

/-- The import is not a function with a binding of its type, for the error. -/
inductive Import.Faulty (host : HostBindings) (hostModule : String) (i : Import) :
    SandboxError → Prop where
  | notFunction (h : i.type.function? = none) :
      Import.Faulty host hostModule i (.unresolvedImport i.name)
  | unbound (h : host.resolve i.name hostModule = none) :
      Import.Faulty host hostModule i (.unresolvedImport i.name)
  | differs {type : FuncType} {f : HostFunction} (htype : i.type.function? = some type)
      (hf : host.resolve i.name hostModule = some f) (h : type ≠ bindingType f) :
      Import.Faulty host hostModule i (.importSignature i.name type.text (bindingType f).text)

/-- The import is faulty, and this shows when the names in `met` have been met: for another type
than that of the binding an import is blamed only when it is the first of its names. -/
def Import.Blamed (host : HostBindings) (hostModule : String) (met : List ImportName) (i : Import)
    (e : SandboxError) : Prop :=
  i.Faulty host hostModule e ∧ (e = .unresolvedImport i.name ∨ i.name ∉ met)

/-- None of the imports is blamed when those before it have been met, after the names in `met`. -/
def NoneBlamed (host : HostBindings) (hostModule : String) (met : List ImportName)
    (imports : List Import) : Prop :=
  ∀ before i after e, imports = before ++ i :: after →
    ¬ i.Blamed host hostModule (before.map Import.name ++ met) e

namespace Import

variable {i : Import} {met met' : List ImportName} {e : SandboxError}

theorem Blamed.congr (hmet : ∀ n, n ∈ met ↔ n ∈ met') (h : i.Blamed host hostModule met e) :
    i.Blamed host hostModule met' e :=
  ⟨h.1, h.2.imp_right fun hnew hmem => hnew ((hmet _).2 hmem)⟩

/-- An import that has a binding is not blamed when its names have been met. -/
theorem not_blamed_of_mem {type : FuncType} {f : HostFunction}
    (htype : i.type.function? = some type) (hf : host.resolve i.name hostModule = some f)
    (hmem : i.name ∈ met) : ¬ i.Blamed host hostModule met e := by
  rintro ⟨hfaulty, hshown⟩
  cases hfaulty with
  | notFunction hnone => cases htype.symm.trans hnone
  | unbound hnone => cases hf.symm.trans hnone
  | differs => exact hshown.elim nofun fun hnew => hnew hmem

theorem not_faulty_of_fits {f : HostFunction} (htype : i.type.function? = some (bindingType f))
    (hf : host.resolve i.name hostModule = some f) : ¬ i.Faulty host hostModule e := by
  intro hfaulty
  cases hfaulty with
  | notFunction hnone => cases htype.symm.trans hnone
  | unbound hnone => cases hf.symm.trans hnone
  | differs htype' hf' hne =>
      cases hf.symm.trans hf'
      exact hne (Option.some.inj (htype'.symm.trans htype))

theorem exists_binding (h : ¬ i.Faulty host hostModule (.unresolvedImport i.name)) :
    ∃ type f, i.type.function? = some type ∧ host.resolve i.name hostModule = some f := by
  cases htype : i.type.function? with
  | none => exact (h (.notFunction htype)).elim
  | some type =>
      cases hf : host.resolve i.name hostModule with
      | none => exact (h (.unbound hf)).elim
      | some f => exact ⟨type, f, rfl, rfl⟩

end Import

theorem noneBlamed_nil (met : List ImportName) : NoneBlamed host hostModule met [] := by
  intro before i after e h
  cases before <;> cases h

theorem mem_names_cons {met : List ImportName} (i : Import) (before : List Import)
    (n : ImportName) :
    n ∈ (i :: before).map Import.name ++ met ↔ n ∈ before.map Import.name ++ i.name :: met := by
  simp only [List.map_cons, List.cons_append, List.mem_append, List.mem_cons]
  exact or_left_comm

theorem noneBlamed_cons_iff {met : List ImportName} {i : Import} {rest : List Import} :
    NoneBlamed host hostModule met (i :: rest) ↔
      (∀ e, ¬ i.Blamed host hostModule met e) ∧
        NoneBlamed host hostModule (i.name :: met) rest := by
  refine ⟨fun h => ⟨fun e => h [] i rest e rfl, fun before j after e hrest hblamed => ?_⟩,
    fun ⟨hi, hrest⟩ before j after e himports hblamed => ?_⟩
  · exact h (i :: before) j after e (by rw [hrest, List.cons_append])
      (hblamed.congr fun n => (mem_names_cons i before n).symm)
  · cases before with
    | nil =>
        obtain ⟨rfl, -⟩ := List.cons.inj himports
        exact hi e hblamed
    | cons b before =>
        obtain ⟨rfl, hrest'⟩ := List.cons.inj himports
        exact hrest before j after e hrest' (hblamed.congr (mem_names_cons _ before))

theorem noneBlamed_of_sound {met : List ImportName} {imports : List Import}
    (h : ∀ i ∈ imports, ∀ e, ¬ i.Faulty host hostModule e) :
    NoneBlamed host hostModule met imports := by
  intro before i after e himports hblamed
  exact h i (by simp [himports]) e hblamed.1

/-! ## Linking -/

section Link

variable {met met' : List ImportName} {i : Import} {before after imports : List Import}
  {e : SandboxError}

/-- What is linked does not depend on the order in which names were met. -/
theorem linkAfter_congr (hmet : ∀ n, n ∈ met ↔ n ∈ met') :
    linkAfter host hostModule met imports = linkAfter host hostModule met' imports := by
  induction imports generalizing met met' with
  | nil => rfl
  | cons i rest ih =>
      have hnext : ∀ n, n ∈ i.name :: met ↔ n ∈ i.name :: met' := fun n => by
        simp only [List.mem_cons, hmet]
      simp only [linkAfter, hmet, ih hmet, ih hnext]

/-- The blamed import ends linking. -/
theorem linkAfter_cons_of_blamed (h : i.Blamed host hostModule met e) (rest : List Import) :
    linkAfter host hostModule met (i :: rest) = .error e := by
  obtain ⟨hfaulty, hshown⟩ := h
  cases hfaulty with
  | notFunction htype => rw [linkAfter, htype]
  | unbound hf => cases htype : i.type.function? <;> rw [linkAfter, hf, htype]
  | differs htype hf hne =>
      have hnew : i.name ∉ met := hshown.resolve_left nofun
      rw [linkAfter, htype, hf]
      dsimp only
      rw [if_neg hnew, if_pos hne]

/-- An import that is not blamed is linked to its binding, unless its names have been met before.
They have been met from then on. -/
theorem linkAfter_cons_of_not_blamed (h : ∀ e, ¬ i.Blamed host hostModule met e) :
    ∃ f new, host.resolve i.name hostModule = some f ∧
      (i.name ∈ met ∧ new = [] ∨ new = [⟨i.name, f⟩]) ∧
      ∀ rest, linkAfter host hostModule met (i :: rest) =
        (linkAfter host hostModule (i.name :: met) rest).map (new ++ ·) := by
  obtain ⟨type, f, htype, hf⟩ := Import.exists_binding fun hfault => h _ ⟨hfault, .inl rfl⟩
  by_cases hmet : i.name ∈ met
  · refine ⟨f, [], hf, .inl ⟨hmet, rfl⟩, fun rest => ?_⟩
    have hsame : linkAfter host hostModule (i.name :: met) rest =
        linkAfter host hostModule met rest :=
      linkAfter_congr fun n => ⟨fun hn => (List.mem_cons.1 hn).elim (· ▸ hmet) id,
        List.mem_cons_of_mem i.name⟩
    rw [linkAfter, htype, hf, hsame]
    dsimp only
    rw [if_pos hmet]
    cases linkAfter host hostModule met rest <;> rfl
  · refine ⟨f, [⟨i.name, f⟩], hf, .inr rfl, fun rest => ?_⟩
    have hfits : ¬ type ≠ bindingType f := fun hne => h _ ⟨.differs htype hf hne, .inr hmet⟩
    rw [linkAfter, htype, hf]
    dsimp only
    rw [if_neg hmet, if_neg hfits]
    rfl

/-- Linking gets past imports none of which is blamed, and their names have been met from then
on. -/
theorem linkAfter_append (hbefore : NoneBlamed host hostModule met before) :
    ∃ new, ∀ rest, linkAfter host hostModule met (before ++ rest) =
      (linkAfter host hostModule (before.map Import.name ++ met) rest).map (new ++ ·) := by
  induction before generalizing met with
  | nil =>
      refine ⟨[], fun rest => ?_⟩
      rw [List.nil_append, List.map_nil, List.nil_append]
      cases linkAfter host hostModule met rest <;> rfl
  | cons b before ih =>
      obtain ⟨hb, hrest⟩ := noneBlamed_cons_iff.1 hbefore
      obtain ⟨f, first, -, -, hfirst⟩ := linkAfter_cons_of_not_blamed hb
      obtain ⟨others, hothers⟩ := ih hrest
      refine ⟨first ++ others, fun rest => ?_⟩
      rw [List.cons_append, hfirst, hothers, map_append_map,
        linkAfter_congr fun n => (mem_names_cons b before n).symm]

/-- Linking ends with the first import that is blamed. -/
theorem linkAfter_of_blamed (hbefore : NoneBlamed host hostModule met before)
    (hi : i.Blamed host hostModule (before.map Import.name ++ met) e) :
    linkAfter host hostModule met (before ++ i :: after) = .error e := by
  obtain ⟨new, hlink⟩ := linkAfter_append hbefore
  rw [hlink, linkAfter_cons_of_blamed hi]
  rfl

/-- Linking never ends for the type of an import whose names have been met. -/
theorem linkAfter_ne_importSignature {name : ImportName} {expected bound : String}
    (hname : name ∈ met) :
    linkAfter host hostModule met imports ≠ .error (.importSignature name expected bound) := by
  induction imports generalizing met with
  | nil => exact nofun
  | cons i rest ih =>
      by_cases hblamed : ∃ e, i.Blamed host hostModule met e
      · obtain ⟨e, hfaulty, hshown⟩ := hblamed
        rw [linkAfter_cons_of_blamed ⟨hfaulty, hshown⟩]
        rintro ⟨⟩
        cases hfaulty
        exact hshown.elim nofun fun hnew => hnew hname
      · obtain ⟨f, new, -, -, hlink⟩ := linkAfter_cons_of_not_blamed (not_exists.1 hblamed)
        rw [hlink, ne_eq, map_eq_error_iff]
        exact ih (List.mem_cons_of_mem i.name hname)

/-- Imports none of which is blamed are linked to their bindings, those apart whose names have been
met before. -/
theorem linkAfter_of_noneBlamed (h : NoneBlamed host hostModule met imports) :
    ∃ linked, linkAfter host hostModule met imports = .ok linked ∧
      (∀ l ∈ linked, host.resolve l.name hostModule = some l.binding) ∧
      ∀ i ∈ imports, i.name ∈ met ∨ ∃ l ∈ linked, l.name = i.name := by
  induction imports generalizing met with
  | nil => exact ⟨[], rfl, by simp, by simp⟩
  | cons i rest ih =>
      obtain ⟨hi, hrest⟩ := noneBlamed_cons_iff.1 h
      obtain ⟨f, new, hf, hnew, hlink⟩ := linkAfter_cons_of_not_blamed hi
      obtain ⟨others, hothers, hbound, hfound⟩ := ih hrest
      have hfirst : i.name ∈ met ∨ ∃ l ∈ new, l.name = i.name := by
        rcases hnew with ⟨hmet, -⟩ | rfl
        · exact .inl hmet
        · exact .inr ⟨_, List.mem_singleton_self _, rfl⟩
      refine ⟨new ++ others, by rw [hlink, hothers]; rfl, fun l hl => ?_, fun j hj => ?_⟩
      · rcases List.mem_append.1 hl with hl | hl
        · rcases hnew with ⟨-, rfl⟩ | rfl
          · cases hl
          · obtain rfl := List.mem_singleton.1 hl
            exact hf
        · exact hbound l hl
      · have hsame : i.name = j.name → j.name ∈ met ∨ ∃ l ∈ new ++ others, l.name = j.name := by
          intro hname
          rw [← hname]
          exact hfirst.imp_right fun ⟨l, hl, hname⟩ => ⟨l, List.mem_append_left _ hl, hname⟩
        rcases List.mem_cons.1 hj with rfl | hj
        · exact hsame rfl
        · rcases hfound j hj with hmet | ⟨l, hl, hname⟩
          · rcases List.mem_cons.1 hmet with hname | hmet
            · exact hsame hname.symm
            · exact .inl hmet
          · exact .inr ⟨l, List.mem_append_right _ hl, hname⟩

/-- Imports none of which is blamed are linked, and each finds its binding under its names. -/
theorem link_of_noneBlamed (h : NoneBlamed host hostModule [] imports) :
    ∃ linked, link host hostModule imports = .ok linked ∧
      ∀ i ∈ imports, ∃ l, linkedTo linked i.name = some l ∧
        host.resolve i.name hostModule = some l.binding := by
  obtain ⟨linked, hlink, hbound, hfound⟩ := linkAfter_of_noneBlamed h
  refine ⟨linked, hlink, fun i hi => ?_⟩
  obtain ⟨l, hl, hname⟩ := (hfound i hi).resolve_left List.not_mem_nil
  have hsome : (linkedTo linked i.name).isSome := List.find?_isSome.2 ⟨l, hl, by simpa using hname⟩
  obtain ⟨l', hl'⟩ := Option.isSome_iff_exists.1 hsome
  have hname' : l'.name = i.name := by simpa using List.find?_some hl'
  exact ⟨l', hl', hname' ▸ hbound l' (List.mem_of_find?_eq_some hl')⟩

end Link

/-! ## Loading -/

namespace Engine

variable {E : Engine} {limit : Nat} {binary : Bytes} {code : E.Code} {config : Config}
  {linked : List LinkedImport} {before after : List Import} {i : Import} {e : SandboxError}

/-- Bringing up a module fails with no error that blames an import. -/
theorem bringUp_ne_importError (name : ImportName) (expected bound : String) :
    (E.bringUp limit code linked config).1 ≠ .error (.unresolvedImport name) ∧
      (E.bringUp limit code linked config).1 ≠ .error (.importSignature name expected bound) := by
  rw [bringUp]
  split
  · exact ⟨nofun, nofun⟩
  · split
    · rename_i message s _
      rw [HostLog.report]
      split <;> exact ⟨nofun, nofun⟩
    · exact ⟨nofun, nofun⟩

section Load

variable (hcompile : E.compile config.fuelPerCall.isSome binary = .ok code)
include hcompile

theorem load_of_link_error (hlink : link host config.hostModule (E.imports code) = .error e) :
    E.load limit binary host config = (.error e, []) := by
  rw [load, hcompile]
  dsimp only
  rw [hlink]

theorem load_of_link_ok (hlink : link host config.hostModule (E.imports code) = .ok linked) :
    E.load limit binary host config = E.bringUp limit code linked config := by
  rw [load, hcompile]
  dsimp only
  rw [hlink]

theorem load_of_blamed (himports : E.imports code = before ++ i :: after)
    (hbefore : NoneBlamed host config.hostModule [] before)
    (hi : i.Blamed host config.hostModule (before.map Import.name) e) :
    E.load limit binary host config = (.error e, []) := by
  refine load_of_link_error hcompile ?_
  rw [himports]
  exact linkAfter_of_blamed hbefore (by rwa [List.append_nil])

/-- The names of an import that is faulty, but has been met before, are not those in the error of
loading. -/
theorem load_ne_importSignature {name : ImportName} {expected bound : String}
    (himports : E.imports code = before ++ i :: after)
    (hbefore : NoneBlamed host config.hostModule [] before)
    (hname : name ∈ before.map Import.name) :
    (E.load limit binary host config).1 ≠ .error (.importSignature name expected bound) := by
  cases hlink : link host config.hostModule (E.imports code) with
  | ok linked =>
      rw [load_of_link_ok hcompile hlink]
      exact (bringUp_ne_importError name expected bound).2
  | error e =>
      rw [load_of_link_error hcompile hlink]
      rintro ⟨⟩
      -- the names have been met once linking is past `before`, and behind it they cannot end it
      obtain ⟨new, happend⟩ := linkAfter_append hbefore
      rw [link, himports, happend, map_eq_error_iff] at hlink
      exact linkAfter_ne_importSignature (List.mem_append_left _ hname) hlink

/-- The error of loading is that of the first faulty import just when this is without a function in
the host, or the first of its names. -/
theorem load_eq_error_iff (himports : E.imports code = before ++ i :: after)
    (hbefore : ∀ b ∈ before, ∀ e, ¬ b.Faulty host config.hostModule e)
    (hi : i.Faulty host config.hostModule e) :
    E.load limit binary host config = (.error e, []) ↔
      e = .unresolvedImport i.name ∨ i.name ∉ before.map Import.name := by
  refine ⟨fun hload => ?_, fun hshown =>
    load_of_blamed hcompile himports (noneBlamed_of_sound hbefore) ⟨hi, hshown⟩⟩
  cases hi with
  | notFunction | unbound => exact .inl rfl
  | differs =>
      refine .inr fun hname => ?_
      exact load_ne_importSignature hcompile himports (noneBlamed_of_sound hbefore) hname
        (congrArg Prod.fst hload)

/-- An engine that compares the types of imports does not bring up a module with a faulty import
that is never blamed. -/
theorem load_of_unblamed (hE : E.ComparesTypes)
    (hnone : NoneBlamed host config.hostModule [] (E.imports code)) (hi : i ∈ E.imports code)
    (hfaulty : i.Faulty host config.hostModule e) :
    ∃ reason, E.load limit binary host config = (.error (.load reason), []) := by
  obtain ⟨linked, hlink, hbound⟩ := link_of_noneBlamed hnone
  obtain ⟨l, hl, hf⟩ := hbound i hi
  have hdiffers : i.type.function? ≠ some (bindingType l.binding) := fun htype =>
    Import.not_faulty_of_fits htype hf hfaulty
  obtain ⟨reason, hreason⟩ := hE code linked config.fuelPerCall i hi l hl hdiffers
  refine ⟨reason, ?_⟩
  rw [load_of_link_ok hcompile hlink, bringUp, hreason]

end Load

/-- Nothing has happened in the host when a module with a faulty import does not load.  The error is
that of the first faulty import just when this is without a function in the host or the first of its
names, and it is always that of the first blamed import.  If no import is blamed, none is named by
the error, and a faulty one is left to the engine to find. -/
theorem load_blames (limit : Nat)
    (hcompile : E.compile config.fuelPerCall.isSome binary = .ok code) :
    (∀ before i after e, E.imports code = before ++ i :: after →
      (∀ b ∈ before, ∀ e, ¬ b.Faulty host config.hostModule e) →
      i.Faulty host config.hostModule e →
        (E.load limit binary host config = (.error e, []) ↔
          e = .unresolvedImport i.name ∨ i.name ∉ before.map Import.name)) ∧
    (∀ before i after e, E.imports code = before ++ i :: after →
      NoneBlamed host config.hostModule [] before →
      i.Blamed host config.hostModule (before.map Import.name) e →
        E.load limit binary host config = (.error e, [])) ∧
    (NoneBlamed host config.hostModule [] (E.imports code) →
      (∀ name expected bound,
        (E.load limit binary host config).1 ≠ .error (.unresolvedImport name) ∧
          (E.load limit binary host config).1 ≠ .error (.importSignature name expected bound)) ∧
      (E.ComparesTypes → (∃ i ∈ E.imports code, ∃ e, i.Faulty host config.hostModule e) →
        ∃ reason, E.load limit binary host config = (.error (.load reason), []))) := by
  refine ⟨fun before i after e himports => load_eq_error_iff hcompile himports,
    fun before i after e himports => load_of_blamed hcompile himports, fun hnone => ⟨?_, ?_⟩⟩
  · intro name expected bound
    obtain ⟨linked, hlink, -⟩ := link_of_noneBlamed hnone
    rw [load_of_link_ok hcompile hlink]
    exact bringUp_ne_importError name expected bound
  · rintro hE ⟨i, hi, e, hfaulty⟩
    exact load_of_unblamed hcompile hE hnone hi hfaulty

/-- A module that imports nothing with two types does not load if there is a faulty import, for the
error of the first one. -/
theorem load_of_consistent (limit : Nat)
    (hcompile : E.compile config.fuelPerCall.isSome binary = .ok code)
    (hconsistent : ∀ i ∈ E.imports code, ∀ j ∈ E.imports code, i.name = j.name → i.type = j.type)
    (himports : E.imports code = before ++ i :: after)
    (hbefore : ∀ b ∈ before, ∀ e, ¬ b.Faulty host config.hostModule e)
    (hi : i.Faulty host config.hostModule e) :
    E.load limit binary host config = (.error e, []) := by
  rw [load_eq_error_iff hcompile himports hbefore hi]
  cases hi with
  | notFunction | unbound => exact .inl rfl
  | differs htype hf hne =>
      -- an import of these names before this one would have the same type, and be faulty too
      refine .inr fun hname => ?_
      obtain ⟨b, hb, hsame⟩ := List.mem_map.1 hname
      have htypes : b.type = i.type :=
        hconsistent b (by simp [himports, hb]) i (by simp [himports]) hsame
      exact hbefore b hb _ (.differs (htypes ▸ htype) (hsame ▸ hf) hne)

end Engine

/-- The machine compares the types of imports. -/
theorem interpreter_comparesTypes : interpreter.ComparesTypes := by
  intro m linked fuel i hi l hl hdiffers
  change ∃ reason, Guest.ofModule m linked fuel = .error reason
  unfold Guest.ofModule
  cases himported : m.imports.mapM (Import.callee linked) with
  | error reason => exact ⟨reason, rfl⟩
  | ok imported =>
      obtain ⟨c, hc⟩ := exists_of_mapM_eq_ok himported hi
      rw [Import.callee, hl] at hc
      dsimp only at hc
      rw [if_neg hdiffers] at hc
      cases hc

/-! ## A module that imports a function with two types -/

/-- The type of a function that takes nothing and answers a word. -/
def answering (t : WireType) : FuncType :=
  ⟨[], [.word t]⟩

/-- The import of `env.f` as a function that answers a word. -/
def importAnswering (t : WireType) : Import :=
  ⟨⟨"env", "f"⟩, .function (answering t)⟩

/-- A function that takes nothing and answers a value. -/
def always (v : Value) : HostFunction :=
  ⟨[], v.kind, fun _ _ => .ok v⟩

/-- A host with an `f` that takes nothing and answers a value. -/
def hostAnswering (v : Value) : HostBindings :=
  (HostBindings.empty.insert "f" (always v)).2

/-- A module that imports `env.f` with two types. -/
def retyping : Module where
  types := [answering .i32, answering .i64]
  imports := [importAnswering .i32, importAnswering .i64]
  functions := []
  memory := none
  globals := []
  exports := .empty
  start := none
  data := []

namespace retyping

def typesSection : Section :=
  ⟨1, [0x02, 0x60, 0x00, 0x01, 0x7F, 0x60, 0x00, 0x01, 0x7E]⟩

def importsSection : Section :=
  ⟨2, [0x02, 0x03, 0x65, 0x6E, 0x76, 0x01, 0x66, 0x00, 0x00,
    0x03, 0x65, 0x6E, 0x76, 0x01, 0x66, 0x00, 0x01]⟩

def binary : Bytes :=
  moduleHeader ++ 0x01 :: 0x09 :: typesSection.content ++ 0x02 :: 0x11 :: importsSection.content

theorem ofSections_sections :
    Module.ofSections [typesSection, importsSection] = some retyping := by
  have htypes : readPart [typesSection, importsSection] 1 [] (readVector readFuncType) =
      some retyping.types := rfl
  have himports : readPart [typesSection, importsSection] 2 []
      (readVector (readImport retyping.types)) = some retyping.imports := by decide +kernel
  rw [Module.ofSections]
  simp only [htypes, Option.bind_eq_bind, Option.bind_some, himports]
  rfl

theorem compile_binary :
    interpreter.compile Config.standard.fuelPerCall.isSome binary = .ok retyping := by
  have hheader : expectBytes moduleHeader binary = some ((), binary.drop 8) := rfl
  have hsections : readSections (binary.drop 8) = some [typesSection, importsSection] := by
    decide +kernel
  change (Module.load binary).elim _ _ = _
  rw [Module.load, Module.read]
  simp only [hheader, hsections, Option.bind_eq_bind, Option.bind_some]
  change (((Module.ofSections [typesSection, importsSection]).filter
    Module.isOrderly).bind _).elim _ _ = _
  rw [ofSections_sections]
  rfl

theorem imports_eq : interpreter.imports retyping = [importAnswering .i32, importAnswering .i64] :=
  rfl

theorem importAnswering_faulty {t : WireType} {v : Value}
    (h : answering t ≠ bindingType (always v)) :
    (importAnswering t).Faulty (hostAnswering v) Config.standard.hostModule
      (.importSignature ⟨"env", "f"⟩ (answering t).text (bindingType (always v)).text) :=
  .differs (f := always v) rfl rfl h

theorem not_first_faulty (e : SandboxError) :
    ¬ (importAnswering .i32).Faulty (hostAnswering (.i32 21)) Config.standard.hostModule e :=
  Import.not_faulty_of_fits (f := always (.i32 21)) rfl rfl

theorem noneBlamed :
    NoneBlamed (hostAnswering (.i32 21)) Config.standard.hostModule [] retyping.imports := by
  refine noneBlamed_cons_iff.2 ⟨fun e hblamed => not_first_faulty e hblamed.1, ?_⟩
  refine noneBlamed_cons_iff.2 ⟨fun e => ?_, noneBlamed_nil _⟩
  exact Import.not_blamed_of_mem (f := always (.i32 21)) rfl rfl (List.mem_singleton.2 rfl)

end retyping

open retyping

/-- Without a host the first of the imports is blamed, and also with one that answers the other
type.  With a host that answers the first type none is. -/
theorem load_blames_retyping :
    interpreter.compile Config.standard.fuelPerCall.isSome retyping.binary = .ok retyping ∧
      interpreter.load maxSteps retyping.binary .empty .standard =
        (.error (.unresolvedImport ⟨"env", "f"⟩), []) ∧
      interpreter.load maxSteps retyping.binary (hostAnswering (.i64 21)) .standard =
        (.error (.importSignature ⟨"env", "f"⟩ "() -> (i32)" "() -> (i64)"), []) ∧
      ∃ reason, interpreter.load maxSteps retyping.binary (hostAnswering (.i32 21)) .standard =
        (.error (.load reason), []) := by
  refine ⟨compile_binary, ?_, ?_, ?_⟩
  · have hunbound : (importAnswering .i32).Faulty .empty Config.standard.hostModule
        (.unresolvedImport ⟨"env", "f"⟩) := .unbound rfl
    have hiff := (Engine.load_blames maxSteps compile_binary).1 [] _ _ _ imports_eq
      (fun _ hb => absurd hb List.not_mem_nil) hunbound
    exact hiff.2 (.inl rfl)
  · have hfaulty := importAnswering_faulty (t := .i32) (v := .i64 21) (by decide)
    exact (Engine.load_blames maxSteps compile_binary).2.1 [] _ _ _ imports_eq (noneBlamed_nil _)
      ⟨hfaulty, .inr List.not_mem_nil⟩
  · have hfaulty := importAnswering_faulty (t := .i64) (v := .i32 21) (by decide)
    exact ((Engine.load_blames maxSteps compile_binary).2.2 noneBlamed).2 interpreter_comparesTypes
      ⟨importAnswering .i64, List.mem_cons_of_mem _ (List.mem_singleton.2 rfl), _, hfaulty⟩

/-- The error of loading need not be that of the first faulty import: with a host that answers the
first type, the second import of `retyping` is faulty and is not what the error names. -/
theorem not_load_first_faulty :
    ¬ ∀ (E : Engine) (limit : Nat) (binary : Bytes) (code : E.Code) (host : HostBindings)
        (config : Config) (before after : List Import) (i : Import) (e : SandboxError),
      E.compile config.fuelPerCall.isSome binary = .ok code →
      E.imports code = before ++ i :: after →
      (∀ b ∈ before, ∀ e, ¬ b.Faulty host config.hostModule e) →
      i.Faulty host config.hostModule e → E.load limit binary host config = (.error e, []) := by
  intro hfirst
  have hbefore : ∀ b ∈ [importAnswering .i32], ∀ e,
      ¬ b.Faulty (hostAnswering (.i32 21)) Config.standard.hostModule e := by
    rintro b hb e
    obtain rfl := List.mem_singleton.1 hb
    exact not_first_faulty e
  have hfaulty := importAnswering_faulty (t := .i64) (v := .i32 21) (by decide)
  have hclaimed := hfirst interpreter maxSteps retyping.binary retyping (hostAnswering (.i32 21))
    .standard [importAnswering .i32] [] (importAnswering .i64) _ compile_binary imports_eq hbefore
    hfaulty
  exact Engine.load_ne_importSignature compile_binary imports_eq (noneBlamed_of_sound hbefore)
    (List.mem_singleton.2 rfl) (congrArg Prod.fst hclaimed)

end Wasm

end GuestBridge
