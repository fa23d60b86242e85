import GuestBridge.Module.Metadata
import GuestBridge.Proofs.Layout.Batch

/-!
# Staging under interleaving

A batch is staged on a registry `r` and committed later on a registry `r'` that has grown from `r`.
The staged view `r.extend staged.built` is a registry of its own.  As long as `r'` admits the batch,
both agree on every name they share (`Staging.agree`), so the checks of the commit meet the very
types that the checks of the staging met: no cycle arises (`Staging.exists_order`) and every struct
is built again as it was (`Staging.exists_addEach`).
-/

namespace GuestBridge

namespace Registry

/-- `r'` has grown from `r`, on which the batch `decls` was checked and came to `s`. -/
structure Staging (r s r' : Registry) (decls : List StructDecl) : Prop where
  base : r.WellFormed
  staged : (r.build .allowedIfIdentical decls).map r.extend = .ok s
  wellFormed : r'.WellFormed
  grown : r.Extends r'
  admits : ∀ decl ∈ decls, r'.Admits .allowedIfIdentical decl

namespace Staging

variable {r s r' : Registry} {decls : List StructDecl}

theorem adds (h : Staging r s r' decls) : r.Adds (decls.filter r.isNew) s :=
  h.base.adds_of_build h.staged

theorem distinct (h : Staging r s r' decls) : DistinctNames decls :=
  (build_eq_ok_iff.1 h.staged).1

/-- The staged view and the grown registry agree where both have a name. -/
theorem agree (h : Staging r s r' decls) {name : String} {d d' : TypeDescriptor}
    (hd : s.get? name = some d) (hd' : r'.get? name = some d') : d = d' := by
  refine h.adds.wellFormed.agree h.wellFormed (fun {name d₁ d₂} h₁ h₂ => ?_) hd hd'
  rcases h.adds.only h₁ with hold | ⟨decl, hdecl, rfl⟩
  · exact .inl (Option.some.inj ((h.grown _ _ hold).symm.trans h₂))
  · have hmem : decl ∈ decls := (List.mem_filter.1 hdecl).1
    obtain ⟨d, hd, hmatch⟩ := h.base.registered_of_build h.staged decl hmem
    obtain rfl : d = d₁ := Option.some.inj (hd.symm.trans h₁)
    exact .inr ⟨decl, hmatch, (h.admits decl hmem d₂ h₂).2⟩

theorem isNew_of_isNew (h : Staging r s r' decls) {decl : StructDecl}
    (hnew : r'.isNew decl = true) : r.isNew decl = true := by
  rw [isNew, Option.isNone_iff_eq_none] at hnew ⊢
  cases hget : r.get? decl.name with
  | none => rfl
  | some d => simp [h.grown _ _ hget] at hnew

/-- What is still new has an order of dependency, as all that was new had one. -/
theorem exists_order (h : Staging r s r' decls) :
    ∃ order, dependencyOrder (decls.filter r'.isNew) = .ok order := by
  obtain ⟨hd, -, order, horder, -⟩ := build_eq_ok_iff.1 h.staged
  have hdfresh : DistinctNames (decls.filter r.isNew) := hd.sublist List.filter_sublist
  obtain ⟨hsettled, hperm⟩ := dependencyOrder_ok hdfresh horder
  have hsub : decls.filter r'.isNew ⊆ decls.filter r.isNew := by
    intro decl hdecl
    obtain ⟨hmem, hnew⟩ := List.mem_filter.1 hdecl
    exact List.mem_filter.2 ⟨hmem, h.isNew_of_isNew hnew⟩
  cases hcommit : dependencyOrder (decls.filter r'.isNew) with
  | ok order' => exact ⟨order', rfl⟩
  | error c =>
      have hcycle := (dependencyOrder_error hcommit).transGen
      have hback := Relation.TransGen.mono (fun _ _ hab => hab.mono hsub) _ _ hcycle
      exact absurd hback (hsettled.not_transGen hdfresh hperm.symm.subset c.name)

/-- A type that the staged view has is there, once everything is that is still new. -/
theorem get?_of_staged (h : Staging r s r' decls) {name : String} {type : TypeDescriptor}
    (hs : s.get? name = some type)
    (hthere : ∀ decl ∈ decls, decl.name = name → ∃ d, r'.get? name = some d) :
    r'.get? name = some type := by
  rcases h.adds.only hs with hold | ⟨decl, hdecl, hname⟩
  · exact h.grown _ _ hold
  · obtain ⟨d, hd⟩ := hthere decl (List.mem_filter.1 hdecl).1 hname
    rw [h.agree hs hd, hd]

/-- A struct whose batch field types are there is built as it was staged, and may join. -/
theorem insert (h : Staging r s r' decls) {decl : StructDecl} (hdecl : decl ∈ decls)
    (hnew : r'.isNew decl = true)
    (hthere : ∀ f ∈ decl.fields, ∀ need ∈ decls, need.name = f.type →
      ∃ d, r'.get? f.type = some d) :
    ∃ d, buildStruct decl r'.get? = .ok d ∧ Staging r s (r'.insert decl.name d) decls := by
  have hfresh : decl ∈ decls.filter r.isNew := List.mem_filter.2 ⟨hdecl, h.isNew_of_isNew hnew⟩
  have hnone : r'.get? decl.name = none := Option.isNone_iff_eq_none.1 hnew
  obtain ⟨d, hd, hbuild⟩ := h.adds.built decl hfresh
  have hbuild' : buildStruct decl r'.get? = .ok d :=
    buildStruct_mono (fun f hf type hs => h.get?_of_staged hs (hthere f hf)) hbuild
  have hadds : r'.Adds [decl] (r'.insert decl.name d) :=
    h.wellFormed.adds_cons hnone hbuild' fun hwf => hwf.adds_nil
  refine ⟨d, hbuild', h.base, h.staged, hadds.wellFormed, h.grown.trans hadds.extends_base, ?_⟩
  intro decl' hdecl' e he
  rw [get?_insert] at he
  split_ifs at he with hname
  · obtain rfl : decl = decl' := h.distinct.eq_of_name hdecl hdecl' hname
    obtain ⟨d', hd', hmatch⟩ := h.base.registered_of_build h.staged decl hdecl
    obtain rfl : d = e := Option.some.inj he
    obtain rfl : d = d' := Option.some.inj (hd.symm.trans hd')
    exact ⟨rfl, hmatch⟩
  · exact h.admits decl' hdecl' e he

/-- Along an order of dependency of what is new to `r₀`, what a struct needs of the batch is there
as soon as all before it is. -/
theorem exists_need {r₀ : Registry} (hgrown : r₀.Extends r') {before rest : List StructDecl}
    {decl : StructDecl} (hsettled : Settled (decls.filter r₀.isNew) (before ++ decl :: rest))
    (hbefore : ∀ decl ∈ before, ∃ d, r'.get? decl.name = some d) :
    ∀ f ∈ decl.fields, ∀ need ∈ decls, need.name = f.type → ∃ d, r'.get? f.type = some d := by
  intro f hf need hneed hname
  cases hget : r₀.get? f.type with
  | some d => exact ⟨d, hgrown _ _ hget⟩
  | none =>
      have hfresh : need ∈ decls.filter r₀.isNew :=
        List.mem_filter.2 ⟨hneed, by rw [isNew, hname, hget]; rfl⟩
      have hneedbefore := hsettled.needs_before rfl f hf need hfresh hname
      exact hname ▸ hbefore need hneedbefore

/-- Along an order of dependency of what is new to `r₀`, every struct joins again. -/
theorem exists_addEach {r₀ : Registry} (h : Staging r s r' decls) (hgrown : r₀.Extends r')
    {before rest : List StructDecl}
    (hsettled : Settled (decls.filter r₀.isNew) (before ++ rest))
    (hbefore : ∀ decl ∈ before, ∃ d, r'.get? decl.name = some d)
    (hrest : ∀ decl ∈ rest, r'.isNew decl = true) (hd : DistinctNames rest) :
    ∃ r'', r'.addEach rest = .ok r'' := by
  induction rest generalizing r' before with
  | nil => exact ⟨r', rfl⟩
  | cons decl rest ih =>
      have hmem : decl ∈ decls.filter r₀.isNew := hsettled.subset (by simp)
      have hnew := hrest decl List.mem_cons_self
      have hthere := exists_need hgrown hsettled hbefore
      obtain ⟨d, hbuild, hstep⟩ := h.insert (List.mem_filter.1 hmem).1 hnew hthere
      have hnone : r'.get? decl.name = none := Option.isNone_iff_eq_none.1 hnew
      have hext : r'.Extends (r'.insert decl.name d) := extends_insert hnone d
      rw [DistinctNames, List.map_cons, List.nodup_cons] at hd
      have hsettled' : Settled (decls.filter r₀.isNew) ((before ++ [decl]) ++ rest) := by
        rwa [List.append_assoc, List.singleton_append]
      have hbefore' : ∀ decl' ∈ before ++ [decl],
          ∃ e, (r'.insert decl.name d).get? decl'.name = some e := by
        intro decl' hdecl'
        rcases List.mem_append.1 hdecl' with hold | hlast
        · obtain ⟨e, he⟩ := hbefore decl' hold
          exact ⟨e, hext _ _ he⟩
        · obtain rfl := List.mem_singleton.1 hlast
          exact ⟨d, by rw [get?_insert, if_pos rfl]⟩
      have hrest' : ∀ decl' ∈ rest, (r'.insert decl.name d).isNew decl' = true := by
        intro decl' hdecl'
        have hne : decl.name ≠ decl'.name := fun heq => hd.1 (heq ▸ List.mem_map_of_mem hdecl')
        rw [isNew, get?_insert, if_neg hne]
        exact hrest decl' (List.mem_cons_of_mem _ hdecl')
      obtain ⟨r'', hr''⟩ := ih hstep (hgrown.trans hext) hsettled' hbefore' hrest' hd.2
      exact ⟨r'', by rw [addEach, hbuild]; exact hr''⟩

/-- A registry that admits the batch accepts the commit. -/
theorem exists_commit (h : Staging r s r' decls) :
    ∃ out, r'.declare decls = .ok out := by
  obtain ⟨order, horder⟩ := h.exists_order
  have hdfresh : DistinctNames (decls.filter r'.isNew) := h.distinct.sublist List.filter_sublist
  obtain ⟨hsettled, hperm⟩ := dependencyOrder_ok hdfresh horder
  have hstart : Settled (decls.filter r'.isNew) ([] ++ order) := hsettled
  obtain ⟨r'', hadd⟩ := h.exists_addEach (.refl r') hstart (by simp)
    (fun decl hdecl => (List.mem_filter.1 (hperm.mem_iff.1 hdecl)).2)
    ((hperm.map _).nodup_iff.2 hdfresh)
  have hbuild : (r'.build .allowedIfIdentical decls).map r'.extend = .ok r'' :=
    build_eq_ok_iff.2 ⟨h.distinct, h.admits, order, horder, hadd⟩
  obtain ⟨descriptors, hok⟩ := h.wellFormed.exists_addBatch hbuild
  exact ⟨_, hok⟩

end Staging

/-! ## Committing what was staged -/

theorem stage_eq_ok_iff {r : Registry} {decls : List StructDecl} {staged : Staged} :
    r.stage decls = .ok staged ↔
      staged.decls = decls ∧ r.build .allowedIfIdentical decls = .ok staged.built := by
  obtain ⟨decls', built⟩ := staged
  rw [stage, bind_eq_ok_iff]
  simp only [pure, Except.pure, Except.ok.injEq, Staged.mk.injEq]
  constructor
  · rintro ⟨built', hb, rfl, rfl⟩
    exact ⟨rfl, hb⟩
  · rintro ⟨rfl, hb⟩
    exact ⟨built, hb, rfl, rfl⟩

/-- Looking up in a staged batch is looking up in the registry with what was built beside it. -/
theorem staged_lookup_eq_ok_iff {r : Registry} {staged : Staged} {name : String}
    {d : TypeDescriptor} :
    staged.lookup r name = .ok d ↔ (r.extend staged.built).get? name = some d := by
  rw [Staged.lookup, lookupBeside_eq, lookup_eq_ok_iff]

end Registry

namespace DeclaredSignature

theorem resolveParams_mono {lookup lookup' : Lookup}
    (h : ∀ name d, lookup name = .ok d → lookup' name = .ok d) {names : List String}
    {kinds : List Kind} (hok : resolveParams lookup names = .ok kinds) :
    resolveParams lookup' names = .ok kinds := by
  induction names generalizing kinds with
  | nil => exact hok
  | cons name rest ih =>
      rw [resolveParams, bind_eq_ok_iff] at hok ⊢
      obtain ⟨d, hd, hrest⟩ := hok
      refine ⟨d, h name d hd, ?_⟩
      cases hkind : d.boundaryKind with
      | none => simp [hkind, throw, throwThe, MonadExceptOf.throw] at hrest
      | some kind =>
          simp only [hkind, bind_eq_ok_iff] at hrest ⊢
          obtain ⟨tail, htail, hkinds⟩ := hrest
          exact ⟨tail, ih htail, hkinds⟩

theorem resolveResults_mono {lookup lookup' : Lookup}
    (h : ∀ name d, lookup name = .ok d → lookup' name = .ok d) {names : List String}
    {kinds : List Kind} (hok : resolveResults lookup names = .ok kinds) :
    resolveResults lookup' names = .ok kinds := by
  induction names generalizing kinds with
  | nil => exact hok
  | cons name rest ih =>
      simp only [resolveResults, bind_eq_ok_iff] at hok ⊢
      obtain ⟨d, hd, tail, htail, hkinds⟩ := hok
      exact ⟨d, h name d hd, tail, ih htail, hkinds⟩

/-- A signature resolves alike where its types are found alike. -/
theorem resolve_mono {lookup lookup' : Lookup}
    (h : ∀ name d, lookup name = .ok d → lookup' name = .ok d) {s : DeclaredSignature}
    {signature : Signature} (hok : s.resolve lookup = .ok signature) :
    s.resolve lookup' = .ok signature := by
  simp only [resolve, bind_eq_ok_iff] at hok ⊢
  obtain ⟨params, hparams, results, hresults, hsig⟩ := hok
  exact ⟨params, resolveParams_mono h hparams, results, resolveResults_mono h hresults, hsig⟩

end DeclaredSignature

namespace Registry

/-- A name that was found among the staged structs and in their registry is found in every registry
that admits the batch once it is committed, with the same descriptor. -/
theorem Staging.lookup_of_commit {r s r' : Registry} {decls : List StructDecl}
    (h : Staging r s r' decls) {out : List TypeDescriptor × Registry}
    (hout : r'.declare decls = .ok out) {name : String} {d : TypeDescriptor}
    (hd : s.get? name = some d) : out.2.get? name = some d := by
  have hbuild := (addBatch_eq_ok_iff.1 hout).1
  have hadds := h.wellFormed.adds_of_build hbuild
  have hregistered := h.wellFormed.registered_of_build hbuild
  have hafter : Staging r s out.2 decls := by
    refine ⟨h.base, h.staged, hadds.wellFormed, h.grown.trans hadds.extends_base, ?_⟩
    intro decl hdecl e he
    obtain ⟨e', he', hmatch⟩ := hregistered decl hdecl
    exact ⟨rfl, Option.some.inj (he'.symm.trans he) ▸ hmatch⟩
  refine hafter.get?_of_staged hd fun decl hdecl hname => ?_
  obtain ⟨e, he, -⟩ := hregistered decl hdecl
  exact ⟨e, hname ▸ he⟩

/-- A batch that was staged on a reached registry and is committed after any further run is accepted
exactly when each of its names is free or registered as it is declared; else some name of the batch
is refused as a duplicate.  Once it is accepted, all that the staged batch showed is registered with
the same descriptors, and declared signatures resolve as they did. -/
theorem commit_afterAll_of_stage (requests more : List RegistryRequest) {decls : List StructDecl}
    {staged : Staged} (h : (primitives.afterAll requests).stage decls = .ok staged) :
    ((∃ out, ((primitives.afterAll requests).afterAll more).commit staged = .ok out) ↔
      ∀ decl ∈ decls, ((primitives.afterAll requests).afterAll more).get? decl.name = none ∨
        ∃ d, ((primitives.afterAll requests).afterAll more).get? decl.name = some d ∧
          d.isStruct = true ∧ d.size = decl.size ∧
          d.fields.map FieldDecl.ofDescriptor = decl.fields) ∧
    (∀ e, ((primitives.afterAll requests).afterAll more).commit staged = .error e →
      ∃ decl ∈ decls, e = .duplicate decl.name) ∧
    ∀ out, ((primitives.afterAll requests).afterAll more).commit staged = .ok out →
      (∀ name d, staged.lookup (primitives.afterAll requests) name = .ok d →
        out.2.lookup name = .ok d) ∧
      ∀ (s : DeclaredSignature) signature,
        s.resolve (staged.lookup (primitives.afterAll requests)) = .ok signature →
        s.resolve out.2.lookup = .ok signature := by
  have hwf := wellFormed_afterAll requests
  obtain ⟨hwf', hgrown⟩ := hwf.afterAll more
  obtain ⟨rfl, hbuilt⟩ := stage_eq_ok_iff.1 h
  generalize primitives.afterAll requests = r at *
  generalize r.afterAll more = r' at *
  have hstaged : (r.build .allowedIfIdentical staged.decls).map r.extend =
      .ok (r.extend staged.built) := by rw [hbuilt]; rfl
  have hstaging : (∀ decl ∈ staged.decls, r'.Admits .allowedIfIdentical decl) →
      Staging r (r.extend staged.built) r' staged.decls :=
    fun hadm => ⟨hwf, hstaged, hwf', hgrown, hadm⟩
  have hadmits : ∀ out, r'.commit staged = .ok out →
      ∀ decl ∈ staged.decls, r'.Admits .allowedIfIdentical decl :=
    fun out hout => (build_eq_ok_iff.1 (addBatch_eq_ok_iff.1 hout).1).2.1
  simp only [← admits_allowed_iff]
  refine ⟨⟨fun ⟨out, hout⟩ => hadmits out hout, fun hadm => (hstaging hadm).exists_commit⟩,
    fun e he => ?_, fun out hout => ?_⟩
  · by_cases hadm : ∀ decl ∈ staged.decls, r'.Admits .allowedIfIdentical decl
    · obtain ⟨out, hout⟩ := (hstaging hadm).exists_commit
      rw [commit, hout] at he
      cases he
    · have hnot : ¬ (DistinctNames staged.decls ∧
          ∀ decl ∈ staged.decls, r'.Admits .allowedIfIdentical decl) := fun hall => hadm hall.2
      obtain ⟨decl, hdecl, hdup⟩ := build_eq_duplicate hnot
      refine ⟨decl, hdecl, ?_⟩
      rw [commit, declare, addBatch, hdup] at he
      exact (Except.error.inj he).symm
  · have hkeeps : ∀ name d, staged.lookup r name = .ok d → out.2.lookup name = .ok d := by
      intro name d hd
      rw [lookup_eq_ok_iff]
      exact (hstaging (hadmits out hout)).lookup_of_commit hout (staged_lookup_eq_ok_iff.1 hd)
    exact ⟨hkeeps, fun s signature hok => DeclaredSignature.resolve_mono hkeeps hok⟩

/-- A staged batch of which one struct is registered meanwhile. -/
theorem commit_afterAll_of_stage_pair :
    ∃ staged, primitives.stage pairBatch = .ok staged ∧
      ∃ out, (primitives.afterAll [.register (pairBatch.drop 1)]).commit staged = .ok out ∧
        out.2.lookup "pair" = .ok pairType := by
  have hstage : primitives.stage pairBatch =
      .ok ⟨pairBatch, .ofList [("label", labelType), ("pair", pairType)]⟩ := by cbv
  have hmeanwhile : primitives.afterAll [.register (pairBatch.drop 1)] =
      primitives.insert "label" labelType := by cbv
  obtain ⟨haccepts, -, hkeeps⟩ :=
    commit_afterAll_of_stage [] [.register (pairBatch.drop 1)] hstage
  have hready : primitives.afterAll [] = primitives := rfl
  rw [hready, hmeanwhile] at haccepts hkeeps
  obtain ⟨out, hout⟩ := haccepts.2 (by
    intro decl hdecl
    simp only [pairBatch, List.mem_cons, List.not_mem_nil, or_false] at hdecl
    obtain rfl | rfl := hdecl
    · exact Or.inl (by cbv)
    · exact Or.inr ⟨labelType, by cbv⟩)
  rw [hmeanwhile]
  exact ⟨_, hstage, out, hout, (hkeeps out hout).1 "pair" pairType (by cbv)⟩

end Registry

end GuestBridge
