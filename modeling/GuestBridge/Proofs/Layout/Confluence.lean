import GuestBridge.Proofs.Layout.Acceptance

/-!
# The order of declarations does not matter

A registry grows by given declarations in one way only (`Registry.Declares.unique`): field types are
told by their names, and so whatever agrees by name agrees all the way down.

Every way of adding makes a registry grow by what it adds, and what makes a batch acceptable says
nothing about its order.  So a batch may be permuted, registered struct by struct in an order of
dependency (`Registry.registerEach`), and two batches that can be declared in both orders come to
the same.
-/

namespace GuestBridge

namespace Registry

/-! ## The grown registry -/

section Unique

variable {r r₁ r₂ : Registry} {decls decls' : List StructDecl}

theorem Declares.extends_of_subset (h₁ : r.Declares decls r₁) (h₂ : r.Declares decls' r₂)
    (hsub : decls ⊆ decls') : r₁.Extends r₂ := by
  intro name d hd
  rcases h₁.only hd with hold | ⟨decl, hdecl, rfl⟩
  · exact h₂.extends_base _ _ hold
  obtain ⟨d', hd', -⟩ := h₂.registered decl (hsub hdecl)
  have hagree : d = d' := by
    refine h₁.wellFormed.agree h₂.wellFormed (fun {name e e'} he he' => ?_) hd hd'
    rcases h₁.only he with hold | ⟨decl, hdecl, rfl⟩
    · exact .inl (Option.some.inj ((h₂.extends_base _ _ hold).symm.trans he'))
    · obtain ⟨_, hthere, hmatch⟩ := h₁.registered decl hdecl
      obtain ⟨_, hthere', hmatch'⟩ := h₂.registered decl (hsub hdecl)
      obtain rfl := Option.some.inj (he.symm.trans hthere)
      obtain rfl := Option.some.inj (he'.symm.trans hthere')
      exact .inr ⟨decl, hmatch, hmatch'⟩
  rw [hd', hagree]

/-- A registry grows by the same declarations in one way only. -/
theorem Declares.unique (h₁ : r.Declares decls r₁) (h₂ : r.Declares decls' r₂)
    (hsub : decls ⊆ decls') (hsub' : decls' ⊆ decls) : r₁ = r₂ := by
  refine ext_get? fun name => Option.ext fun d => ?_
  exact ⟨h₁.extends_of_subset h₂ hsub name d, h₂.extends_of_subset h₁ hsub' name d⟩

end Unique

/-! ## Permuted batches -/

section Perm

variable {r : Registry} {mode : Redeclaration} {decls decls' : List StructDecl}

theorem NamesAdmitted.perm (h : r.NamesAdmitted mode decls) (hp : decls.Perm decls') :
    r.NamesAdmitted mode decls' :=
  ⟨((hp.map _).nodup_iff).1 h.1, fun decl hdecl => h.2 decl (hp.mem_iff.2 hdecl)⟩

theorem LayoutsFit.perm (h : r.LayoutsFit decls) (hp : decls.Perm decls') :
    r.LayoutsFit decls' := by
  have hfresh : ∀ decl, decl ∈ decls'.filter r.isNew ↔ decl ∈ decls.filter r.isNew := fun decl =>
    (hp.filter r.isNew).mem_iff.symm
  intro decl hdecl
  refine (h decl ((hfresh decl).1 hdecl)).congr fun f _ bytes => ?_
  simp only [SizedWith, hfresh]

/-- What is added in one order is added in every other, with the same result. -/
theorem WellFormed.exists_addBatch_perm (h : r.WellFormed)
    {out : List TypeDescriptor × Registry} (hout : r.addBatch mode decls = .ok out)
    (hp : decls.Perm decls') :
    ∃ descriptors, r.addBatch mode decls' = .ok (descriptors, out.2) := by
  obtain ⟨hnames, hacyclic, hfit⟩ := (h.judged_addBatch mode decls).ok_iff.1 ⟨out, hout⟩
  have hacyclic' : Acyclic (decls'.filter r.isNew) :=
    hacyclic.mono (hp.symm.filter r.isNew).subset
  obtain ⟨⟨descriptors, r'⟩, hout'⟩ :=
    (h.judged_addBatch mode decls').ok_iff.2 ⟨hnames.perm hp, hacyclic', hfit.perm hp⟩
  have hsame : r' = out.2 :=
    (h.declares_of_addBatch hout').unique (h.declares_of_addBatch hout) hp.symm.subset hp.subset
  exact ⟨descriptors, hsame ▸ hout'⟩

end Perm

/-! ## What a batch answers -/

theorem mem_zip_iff_of_forall₂ {α β : Type} {R : α → β → Prop} {l : List α} {l' : List β}
    (h : List.Forall₂ R l l') (hfun : ∀ a b b', R a b → R a b' → b = b') (a : α) (b : β) :
    (a, b) ∈ l.zip l' ↔ a ∈ l ∧ R a b := by
  induction h with
  | nil => simp
  | @cons x y l l' hxy hrest ih =>
      rw [List.zip_cons_cons, List.mem_cons, List.mem_cons, ih, Prod.mk.injEq]
      constructor
      · rintro (⟨rfl, rfl⟩ | ⟨ha, hb⟩)
        · exact ⟨.inl rfl, hxy⟩
        · exact ⟨.inr ha, hb⟩
      · rintro ⟨rfl | ha, hb⟩
        · exact .inl ⟨rfl, hfun _ _ _ hb hxy⟩
        · exact .inr ⟨ha, hb⟩

/-- A batch answers with the descriptor that is then registered under each declared name. -/
theorem mem_zip_iff_of_addBatch {r r' : Registry} {mode : Redeclaration}
    {decls : List StructDecl} {descriptors : List TypeDescriptor}
    (h : r.addBatch mode decls = .ok (descriptors, r')) (decl : StructDecl) (d : TypeDescriptor) :
    (decl, d) ∈ decls.zip descriptors ↔ decl ∈ decls ∧ r'.get? decl.name = some d := by
  refine mem_zip_iff_of_forall₂ (addBatch_eq_ok_iff.1 h).2 (fun _ _ _ hd hd' => ?_) decl d
  exact Option.some.inj (hd.symm.trans hd')

/-! ## Struct by struct -/

/-- Registers structs one at a time. -/
def registerEach (r : Registry) : List StructDecl → Except RegistryError Registry
  | [] => .ok r
  | decl :: rest => do
      let (_, r') ← r.register [decl]
      r'.registerEach rest

section Each

variable {r r' : Registry}

/-- A struct whose field types are all registered may be registered by itself. -/
theorem WellFormed.register_singleton (h : r.WellFormed) {decl : StructDecl} {d : TypeDescriptor}
    (hnew : r.get? decl.name = none) (hbuild : buildStruct decl r.get? = .ok d) :
    ∃ descriptors, r.register [decl] = .ok (descriptors, r.insert decl.name d) := by
  have hfit := exists_buildStruct_iff.1 ⟨d, hbuild⟩
  have hself : ∀ f ∈ decl.fields, decl.name ≠ f.type := by
    intro f hf heq
    obtain ⟨_, ⟨e, he, -⟩, -⟩ := hfit.size_ne_zero f hf
    rw [← heq, hnew] at he
    cases he
  have hnames : r.NamesAdmitted .refused [decl] :=
    ⟨List.nodup_singleton _, by simpa [admits_refused_iff] using hnew⟩
  have hfresh : [decl].filter r.isNew = [decl] := by
    simp [isNew, hnew]
  have hacyclic : Acyclic [decl] := by
    have hnone : ∀ a b, ¬ RefersWithin [decl] a b := by
      rintro a b ⟨⟨e, he, -, f, hf, rfl⟩, hb⟩
      obtain rfl := List.mem_singleton.1 he
      exact hself f hf (List.mem_singleton.1 hb).symm
    intro name hcycle
    obtain ⟨b, hb, -⟩ := Relation.TransGen.head'_iff.1 hcycle
    exact hnone _ _ hb
  have hlayouts : r.LayoutsFit [decl] := by
    intro e he
    rw [hfresh] at he ⊢
    obtain rfl := List.mem_singleton.1 he
    refine hfit.congr fun f hf bytes => ⟨fun hsized => ?_, .inl⟩
    rcases hsized with hsized | ⟨e', he', hname, -⟩
    · exact hsized
    · exact absurd (List.mem_singleton.1 he' ▸ hname) (hself f hf)
  obtain ⟨⟨descriptors, r'⟩, hout⟩ :=
    (h.judged_addBatch .refused [decl]).ok_iff.2 ⟨hnames, hfresh.symm ▸ hacyclic, hlayouts⟩
  have hadds : r.Adds [decl] (r.insert decl.name d) :=
    h.adds_cons hnew hbuild fun hwf => hwf.adds_nil
  have hsame : r' = r.insert decl.name d :=
    (h.declares_of_addBatch hout).unique hadds.declares (List.Subset.refl _) (List.Subset.refl _)
  exact ⟨descriptors, hsame ▸ hout⟩

/-- Registering one at a time is adding one by one. -/
theorem WellFormed.registerEach_of_addEach (h : r.WellFormed) {order : List StructDecl}
    (hd : DistinctNames order) (hnew : ∀ decl ∈ order, r.get? decl.name = none)
    (hadd : r.addEach order = .ok r') : r.registerEach order = .ok r' := by
  induction order generalizing r with
  | nil => exact hadd
  | cons decl rest ih =>
      rw [addEach] at hadd
      split at hadd
      · rename_i d hbuild
        rw [DistinctNames, List.map_cons, List.nodup_cons] at hd
        have hnone := hnew decl List.mem_cons_self
        obtain ⟨descriptors, hout⟩ := h.register_singleton hnone hbuild
        have hwf : (r.insert decl.name d).WellFormed := (h.declares_of_addBatch hout).wellFormed
        have hnew' : ∀ e ∈ rest, (r.insert decl.name d).get? e.name = none := by
          intro e he
          have hne : decl.name ≠ e.name := fun heq => hd.1 (heq ▸ List.mem_map_of_mem he)
          rw [get?_insert, if_neg hne]
          exact hnew e (List.mem_cons_of_mem _ he)
        rw [registerEach, hout]
        exact ih hwf hd.2 hnew' hadd
      · cases hadd

/-- A registered batch may be registered one at a time, each struct after those its fields name. -/
theorem WellFormed.registerEach_of_register (h : r.WellFormed) {decls order : List StructDecl}
    {out : List TypeDescriptor × Registry} (hout : r.register decls = .ok out)
    (hp : order.Perm decls) (hsettled : Settled decls order) :
    r.registerEach order = .ok out.2 := by
  obtain ⟨⟨hd, hadm⟩, -, hfit⟩ := (h.judged_addBatch .refused decls).ok_iff.1 ⟨out, hout⟩
  have hnew : ∀ decl ∈ decls, r.get? decl.name = none := fun decl hdecl =>
    admits_refused_iff.1 (hadm decl hdecl)
  have hfresh : decls.filter r.isNew = decls := by
    refine List.filter_eq_self.2 fun decl hdecl => ?_
    rw [isNew, hnew decl hdecl]
    rfl
  have hfitting : r.Fitting decls := ⟨hd, hnew, by rwa [LayoutsFit, hfresh] at hfit⟩
  have hstart : Settled decls ([] ++ order) := hsettled
  obtain ⟨r', hadd, hgrown⟩ := hfitting.exists_addEach hstart h.adds_nil.declares
  have hsame : r' = out.2 :=
    hgrown.unique (h.declares_of_addBatch hout) hp.subset hp.symm.subset
  refine hsame ▸ h.registerEach_of_addEach ?_ (fun decl hdecl => ?_) hadd
  · exact ((hp.map _).nodup_iff).2 hd
  · exact hnew decl (hp.subset hdecl)

end Each

/-- On any registry that a run reaches, a batch that is registered is registered in every order of
its declarations, with the same registry in the end and the same descriptor for each declaration.
The structs may also be registered one at a time, in any order in which each comes after those of
the batch that its fields name, and that makes the same registry.  Two batches that can be declared
one after the other in both orders make the same registry in both. -/
theorem afterAll_confluent (requests : List RegistryRequest) :
    (∀ decls descriptors r',
      (primitives.afterAll requests).register decls = .ok (descriptors, r') →
        (∀ decls', decls'.Perm decls → ∃ descriptors',
          (primitives.afterAll requests).register decls' = .ok (descriptors', r') ∧
            ∀ decl d, (decl, d) ∈ decls'.zip descriptors' ↔ (decl, d) ∈ decls.zip descriptors) ∧
        ∀ order, order.Perm decls →
          (∀ before decl after, order = before ++ decl :: after →
            ∀ f ∈ decl.fields, ∀ need ∈ decls, need.name = f.type → need ∈ before) →
          (primitives.afterAll requests).registerEach order = .ok r') ∧
    ∀ decls decls' first first' both both',
      (primitives.afterAll requests).declare decls = .ok first →
        first.2.declare decls' = .ok both →
      (primitives.afterAll requests).declare decls' = .ok first' →
        first'.2.declare decls = .ok both' →
      both.2 = both'.2 := by
  have hwf := wellFormed_afterAll requests
  generalize primitives.afterAll requests = r at hwf ⊢
  refine ⟨fun decls descriptors r' hout => ⟨fun decls' hp => ?_, fun order hp hafter => ?_⟩, ?_⟩
  · obtain ⟨descriptors', hout'⟩ := hwf.exists_addBatch_perm hout hp.symm
    refine ⟨descriptors', hout', fun decl d => ?_⟩
    rw [mem_zip_iff_of_addBatch hout', mem_zip_iff_of_addBatch hout, hp.mem_iff]
  · obtain ⟨⟨hd, -⟩, -⟩ := (hwf.judged_addBatch .refused decls).ok_iff.1 ⟨_, hout⟩
    refine hwf.registerEach_of_register hout hp ⟨hp.subset, hp.nodup_iff.2 hd.nodup, ?_⟩
    exact fun {before decl after} heq => hafter before decl after heq
  · intro decls decls' first first' both both' hfirst hboth hfirst' hboth'
    have hgrown := hwf.declares_of_addBatch hfirst
    have hgrown' := hwf.declares_of_addBatch hfirst'
    have hall := hgrown.append (hgrown.wellFormed.declares_of_addBatch hboth)
    have hall' := hgrown'.append (hgrown'.wellFormed.declares_of_addBatch hboth')
    refine hall.unique hall' ?_ ?_ <;> simp

/-- The registry of `pairBatch`. -/
def pairRegistry : Registry :=
  (primitives.insert "label" labelType).insert "pair" pairType

/-- The pair and its label, the other way round and one at a time; and the label declared by itself,
before and after both. -/
theorem afterAll_confluent_pair :
    primitives.registerEach pairBatch.reverse = .ok pairRegistry ∧
      (∃ descriptors, primitives.register pairBatch.reverse = .ok (descriptors, pairRegistry)) ∧
      ∃ first both first' both', primitives.declare (pairBatch.drop 1) = .ok first ∧
        first.2.declare pairBatch = .ok both ∧ primitives.declare pairBatch = .ok first' ∧
        first'.2.declare (pairBatch.drop 1) = .ok both' ∧ both.2 = both'.2 := by
  have hpair : primitives.register pairBatch = .ok ([pairType, labelType], pairRegistry) := by cbv
  have hfirst : primitives.declare (pairBatch.drop 1) =
      .ok ([labelType], primitives.insert "label" labelType) := by cbv
  have hboth : (primitives.insert "label" labelType).declare pairBatch =
      .ok ([pairType, labelType], pairRegistry) := by cbv
  have hboth' : pairRegistry.declare (pairBatch.drop 1) = .ok ([labelType], pairRegistry) := by cbv
  obtain ⟨hbatch, hdeclare⟩ := afterAll_confluent []
  obtain ⟨hperm, heach⟩ := hbatch _ _ _ hpair
  refine ⟨heach _ (List.reverse_perm _) ?_, ?_, _, _, _, _, hfirst, hboth, hpair, hboth', ?_⟩
  · intro before decl after heq f hf need hneed hname
    simp only [pairBatch, List.mem_cons, List.not_mem_nil, or_false] at hneed
    rcases before with _ | ⟨b, _ | ⟨b', rest⟩⟩
    · -- The label comes first, and its fields name no struct of the batch.
      obtain ⟨rfl, -⟩ := List.cons.inj heq
      simp only [List.mem_cons, List.not_mem_nil, or_false] at hf
      rcases hneed with rfl | rfl <;> rcases hf with rfl | rfl <;> exact absurd hname (by decide)
    · obtain ⟨rfl, htail⟩ := List.cons.inj heq
      obtain ⟨rfl, -⟩ := List.cons.inj htail
      simp only [List.mem_cons, List.not_mem_nil, or_false] at hf
      rcases hneed with rfl | rfl
      · rcases hf with rfl | rfl <;> exact absurd hname (by decide)
      · exact List.mem_cons_self
    · have hlength := congrArg List.length heq
      simp [pairBatch] at hlength
  · obtain ⟨descriptors, hout, -⟩ := hperm _ (List.reverse_perm _)
    exact ⟨descriptors, hout⟩
  · exact hdeclare _ _ _ _ _ _ hfirst hboth hpair hboth'

end Registry

end GuestBridge
