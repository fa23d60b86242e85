import GuestBridge.Proofs.Layout.Confluence

/-!
# What operations answer

`Registry.answer` is what an operation on a registry answers, beside the registry after it
(`Registry.after`).  An operation that answers with descriptors has added a batch
(`addBatch_of_answer`), and every other one leaves the registry as it was.  So all there is to tell
is how a registry grows by a batch (`Registry.Declares`) and what the batch answers:
`Registry.AppendOnly`.
-/

namespace GuestBridge

/-- The declarations that an operation checks. -/
def RegistryRequest.decls : RegistryRequest → List StructDecl
  | .registerStruct name size fields => [⟨name, size, fields⟩]
  | .register decls => decls
  | .declare decls => decls
  | .stage decls => decls
  | .commit staged => staged.decls

/-- What an operation on a registry answers: the descriptors of what is registered, or a batch that
is only checked. -/
inductive RegistryAnswer where
  | descriptors (ds : List TypeDescriptor)
  | staged (batch : Staged)

namespace Registry

/-- What an operation answers. -/
def answer (r : Registry) : RegistryRequest → Except RegistryError RegistryAnswer
  | .registerStruct name size fields =>
      (r.register [⟨name, size, fields⟩]).map fun out => .descriptors out.1
  | .register decls => (r.register decls).map fun out => .descriptors out.1
  | .declare decls => (r.declare decls).map fun out => .descriptors out.1
  | .stage decls => (r.stage decls).map .staged
  | .commit staged => (r.commit staged).map fun out => .descriptors out.1

section Answer

variable {r : Registry} {request : RegistryRequest}

/-- An operation that answers with descriptors has added its declarations. -/
theorem addBatch_of_answer {ds : List TypeDescriptor}
    (h : r.answer request = .ok (.descriptors ds)) :
    ∃ mode, r.addBatch mode request.decls = .ok (ds, r.after request) := by
  have hadded : ∀ {x : Except RegistryError (List TypeDescriptor × Registry)},
      x.map (fun out => RegistryAnswer.descriptors out.1) = .ok (.descriptors ds) →
        x = .ok (ds, r.orKept x) := by
    intro x hx
    obtain ⟨⟨ds', r'⟩, rfl, hds⟩ := map_eq_ok_iff.1 hx
    cases hds
    rfl
  cases request with
  | registerStruct name size fields => exact ⟨.refused, hadded h⟩
  | register decls => exact ⟨.refused, hadded h⟩
  | declare decls => exact ⟨.allowedIfIdentical, hadded h⟩
  | stage decls =>
      obtain ⟨staged, -, hstaged⟩ := map_eq_ok_iff.1 h
      cases hstaged
  | commit staged => exact ⟨.allowedIfIdentical, hadded h⟩

/-- An operation answers with descriptors, unless it only checks. -/
theorem eq_descriptors_of_answer {a : RegistryAnswer} (h : r.answer request = .ok a) :
    (∃ ds, a = .descriptors ds) ∨ ∃ decls, request = .stage decls := by
  have hadded : ∀ {x : Except RegistryError (List TypeDescriptor × Registry)},
      x.map (fun out => RegistryAnswer.descriptors out.1) = .ok a → ∃ ds, a = .descriptors ds := by
    intro x hx
    obtain ⟨⟨ds, r'⟩, -, rfl⟩ := map_eq_ok_iff.1 hx
    exact ⟨ds, rfl⟩
  cases request with
  | stage decls => exact .inr ⟨decls, rfl⟩
  | _ => exact .inl (hadded h)

/-- An operation that fails changes nothing. -/
theorem after_of_answer_error {e : RegistryError} (h : r.answer request = .error e) :
    r.after request = r := by
  have hkept : ∀ {x : Except RegistryError (List TypeDescriptor × Registry)},
      x.map (fun out => RegistryAnswer.descriptors out.1) = .error e → r.orKept x = r := by
    intro x hx
    cases x with
    | ok out => cases hx
    | error e' => rfl
  cases request with
  | registerStruct name size fields => exact hkept h
  | register decls => exact hkept h
  | declare decls => exact hkept h
  | stage decls => rfl
  | commit staged => exact hkept h

end Answer

/-- The new names of a grown registry are those of the declarations. -/
theorem Declares.isSome_get?_iff {r r' : Registry} {decls : List StructDecl}
    (h : r.Declares decls r') {name : String} (hnew : r.get? name = none) :
    (r'.get? name).isSome ↔ ∃ decl ∈ decls, decl.name = name := by
  constructor
  · intro hsome
    obtain ⟨d, hd⟩ := Option.isSome_iff_exists.1 hsome
    rcases h.only hd with hold | hdeclared
    · rw [hnew] at hold
      cases hold
    · exact hdeclared
  · rintro ⟨decl, hdecl, rfl⟩
    obtain ⟨d, hd, -⟩ := h.registered decl hdecl
    rw [hd]
    rfl

/-- A batch answers with what is registered under each declared name, and that is as declared. -/
theorem WellFormed.answered_of_addBatch {r : Registry} (h : r.WellFormed) {mode : Redeclaration}
    {decls : List StructDecl} {out : List TypeDescriptor × Registry}
    (hout : r.addBatch mode decls = .ok out) :
    List.Forall₂ (fun decl d => out.2.get? decl.name = some d ∧ d.name = decl.name ∧
      d.isStruct = true ∧ d.size = decl.size ∧
      d.fields.map FieldDecl.ofDescriptor = decl.fields) decls out.1 := by
  have hgrown := h.declares_of_addBatch hout
  have hfound := (addBatch_eq_ok_iff.1 hout).2
  have hmem := (List.forall₂_and_left decls out.1).2 ⟨fun _ hdecl => hdecl, hfound⟩
  refine hmem.imp fun decl d ⟨hdecl, hd⟩ => ?_
  obtain ⟨d', hd', hmatch⟩ := hgrown.registered decl hdecl
  obtain rfl : d = d' := Option.some.inj (hd.symm.trans hd')
  exact ⟨hd, hgrown.wellFormed.named hd, TypeDescriptor.matchesDecl_iff.1 hmatch⟩

/-- An operation keeps what is registered, and it changes nothing when it fails or only checks.
Every other operation answers with descriptors.  Then the names it has added are the declared ones
that were new, and each declaration is answered by the struct that is now registered under its name,
of the declared size and fields. -/
structure AppendOnly (r : Registry) (request : RegistryRequest) : Prop where
  kept : ∀ name d, r.get? name = some d → (r.after request).get? name = some d
  failed : ∀ e, r.answer request = .error e → r.after request = r
  staged : ∀ decls, request = .stage decls → r.after request = r
  answers : ∀ a, r.answer request = .ok a →
    (∃ ds, a = .descriptors ds) ∨ ∃ decls, request = .stage decls
  added : ∀ ds, r.answer request = .ok (.descriptors ds) → ∀ name, r.get? name = none →
    (((r.after request).get? name).isSome ↔ ∃ decl ∈ request.decls, decl.name = name)
  answered : ∀ ds, r.answer request = .ok (.descriptors ds) →
    List.Forall₂ (fun decl d => (r.after request).get? decl.name = some d ∧ d.name = decl.name ∧
      d.isStruct = true ∧ d.size = decl.size ∧
      d.fields.map FieldDecl.ofDescriptor = decl.fields) request.decls ds

/-- Every operation on a registry that a run reaches only appends to it, and all at once. -/
theorem afterAll_appendOnly (requests : List RegistryRequest) (request : RegistryRequest) :
    (primitives.afterAll requests).AppendOnly request := by
  have hwf := wellFormed_afterAll requests
  refine ⟨(hwf.after request).2, fun e he => after_of_answer_error he, ?_,
    fun a ha => eq_descriptors_of_answer ha, ?_, ?_⟩
  · rintro decls rfl
    rfl
  · intro ds hds name hnew
    obtain ⟨mode, hout⟩ := addBatch_of_answer hds
    exact (hwf.declares_of_addBatch hout).isSome_get?_iff hnew
  · intro ds hds
    obtain ⟨mode, hout⟩ := addBatch_of_answer hds
    exact hwf.answered_of_addBatch hout

/-- A registry that has the label but not the pair. -/
def labelRegistry : Registry :=
  primitives.afterAll [.register (pairBatch.drop 1)]

/-- Declaring the pair with its label adds the pair and answers with both, where registering them
changes nothing. -/
theorem afterAll_appendOnly_pair :
    (∀ a, labelRegistry.answer (.declare pairBatch) = .ok a → ∃ ds, a = .descriptors ds) ∧
      (∀ name, labelRegistry.get? name = none →
        (((labelRegistry.after (.declare pairBatch)).get? name).isSome ↔ name = "pair")) ∧
      (labelRegistry.after (.declare pairBatch)).get? "label" = some labelType ∧
      labelRegistry.after (.register pairBatch) = labelRegistry := by
  have hlabel : labelRegistry.get? "label" = some labelType := by cbv
  have hanswer : labelRegistry.answer (.declare pairBatch) =
      .ok (.descriptors [pairType, labelType]) := by cbv
  have hrefused : labelRegistry.answer (.register pairBatch) = .error (.duplicate "label") := by cbv
  have hdeclare : labelRegistry.AppendOnly (.declare pairBatch) := afterAll_appendOnly _ _
  have hregister : labelRegistry.AppendOnly (.register pairBatch) := afterAll_appendOnly _ _
  refine ⟨fun a ha => (hdeclare.answers a ha).resolve_right ?_, fun name hnew => ?_,
    hdeclare.kept _ _ hlabel, hregister.failed _ hrefused⟩
  · rintro ⟨decls, ⟨⟩⟩
  have hne : "label" ≠ name := by
    rintro rfl
    rw [hlabel] at hnew
    cases hnew
  rw [hdeclare.added _ hanswer name hnew]
  simp only [RegistryRequest.decls, pairBatch, List.mem_cons, List.not_mem_nil, or_false,
    exists_eq_or_imp, exists_eq_left]
  rw [or_iff_left hne, eq_comm]

end Registry

end GuestBridge
