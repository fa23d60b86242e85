import GuestBridge.Proofs.Layout.Confluence
import GuestBridge.Proofs.Layout.Staging

/-!
# Declaring again

`Registry.Holds r decls` says that each of the declarations is registered as it is declared.  A
batch that was added is held ever after, and so is every part of it (`Holds.mono`).  A batch that is
held leaves nothing to build (`Holds.build`), and so declaring it again is accepted without a
change, whatever its order; and only such a batch is (`WellFormed.exists_declare_self_iff`).
-/

namespace GuestBridge

namespace Registry

variable {r r' : Registry} {decls decls' : List StructDecl}

/-! ## Held batches -/

/-- Each of the declarations is registered as it is declared. -/
def Holds (r : Registry) (decls : List StructDecl) : Prop :=
  ∀ decl ∈ decls, ∃ d, r.get? decl.name = some d ∧ d.matchesDecl decl = true

theorem Holds.mono (h : r.Holds decls) (hext : r.Extends r') (hsub : decls' ⊆ decls) :
    r'.Holds decls' := by
  intro decl hdecl
  obtain ⟨d, hd, hmatch⟩ := h decl (hsub hdecl)
  exact ⟨d, hext _ _ hd, hmatch⟩

theorem Holds.admits (h : r.Holds decls) : ∀ decl ∈ decls, r.Admits .allowedIfIdentical decl := by
  intro decl hdecl d hd
  obtain ⟨d', hd', hmatch⟩ := h decl hdecl
  have hsame : d' = d := Option.some.inj (hd'.symm.trans hd)
  exact ⟨rfl, hsame ▸ hmatch⟩

theorem Holds.filter_isNew (h : r.Holds decls) : decls.filter r.isNew = [] := by
  rw [List.filter_eq_nil_iff]
  intro decl hdecl
  obtain ⟨d, hd, -⟩ := h decl hdecl
  simp [isNew, hd]

/-- Nothing is left to build of a batch that is held. -/
theorem Holds.build (h : r.Holds decls) (hd : DistinctNames decls) :
    r.build .allowedIfIdentical decls = .ok .empty := by
  have hnames : r.NamesAdmitted .allowedIfIdentical decls := ⟨hd, h.admits⟩
  have horder : dependencyOrder (decls.filter r.isNew) = .ok [] := by
    rw [h.filter_isNew]
    rfl
  rw [build_eq, hnames.freshDecls]
  show ((dependencyOrder (decls.filter r.isNew)).mapError fun c =>
    RegistryError.cyclic c.name c.path) >>= r.buildAll .empty = _
  rw [horder]
  rfl

/-- A batch is accepted without a change exactly when it is held and its names are different. -/
theorem WellFormed.exists_declare_self_iff (h : r.WellFormed) :
    (∃ ds, r.declare decls = .ok (ds, r)) ↔ DistinctNames decls ∧ r.Holds decls := by
  constructor
  · rintro ⟨ds, hds⟩
    have hbuild := (addBatch_eq_ok_iff.1 hds).1
    exact ⟨(build_eq_ok_iff.1 hbuild).1, h.registered_of_build hbuild⟩
  · rintro ⟨hd, hholds⟩
    apply h.exists_addBatch
    rw [hholds.build hd]
    rfl

/-! ## A batch declared again -/

/-- Where a batch was added before, a part of it that is declared again is answered as the batch
was. -/
theorem forall₂_mem_zip_of_declare {mode : Redeclaration} {r₀ : Registry}
    {ds ds' : List TypeDescriptor} (hadd : r₀.addBatch mode decls = .ok (ds, r))
    (hheld : r.Holds decls) (hext : r.Extends r') (hsub : decls' ⊆ decls)
    (hagain : r'.declare decls' = .ok (ds', r')) :
    List.Forall₂ (fun decl d => (decl, d) ∈ decls.zip ds) decls' ds' := by
  have hfound := (addBatch_eq_ok_iff.1 hagain).2
  have hmem := (List.forall₂_and_left decls' ds').2 ⟨fun _ hdecl => hdecl, hfound⟩
  refine hmem.imp fun decl d ⟨hdecl, hd⟩ => ?_
  -- The name was registered by then, and what is registered keeps its descriptor.
  obtain ⟨e, he, -⟩ := hheld decl (hsub hdecl)
  have hsame : e = d := Option.some.inj ((hext _ _ he).symm.trans hd)
  exact (mem_zip_iff_of_addBatch hadd decl d).2 ⟨hsub hdecl, hsame ▸ he⟩

/-- Once a batch is registered or declared on a registry that a run reaches, declaring any of its
declarations again, in any order and after any further run, is accepted.  It changes nothing and
answers each declaration with the descriptor that the batch was answered with.  Staging them is
accepted too, and finds no new name. -/
theorem afterAll_redeclared (requests more : List RegistryRequest) {decls decls' : List StructDecl}
    {ds : List TypeDescriptor} {r' : Registry}
    (h : (primitives.afterAll requests).register decls = .ok (ds, r') ∨
      (primitives.afterAll requests).declare decls = .ok (ds, r'))
    (hsub : decls'.Subperm decls) :
    (∃ ds', (r'.afterAll more).declare decls' = .ok (ds', r'.afterAll more) ∧
      List.Forall₂ (fun decl d => (decl, d) ∈ decls.zip ds) decls' ds') ∧
    ∃ staged, (r'.afterAll more).stage decls' = .ok staged ∧ staged.fresh = [] := by
  obtain ⟨mode, hadd⟩ : ∃ mode,
      (primitives.afterAll requests).addBatch mode decls = .ok (ds, r') :=
    h.elim (fun h => ⟨_, h⟩) fun h => ⟨_, h⟩
  have hgrown := (wellFormed_afterAll requests).declares_of_addBatch hadd
  obtain ⟨hwf, hext⟩ := hgrown.wellFormed.afterAll more
  have hheld : r'.Holds decls := hgrown.registered
  have hheld' : (r'.afterAll more).Holds decls' := hheld.mono hext hsub.subset
  have hdistinct : DistinctNames decls := (build_eq_ok_iff.1 (addBatch_eq_ok_iff.1 hadd).1).1
  have hdistinct' : DistinctNames decls' := by
    obtain ⟨part, hperm, hpart⟩ := hsub
    exact ((hperm.map _).nodup_iff).1 (hdistinct.sublist hpart)
  constructor
  · obtain ⟨ds', hagain⟩ := hwf.exists_declare_self_iff.2 ⟨hdistinct', hheld'⟩
    exact ⟨ds', hagain, forall₂_mem_zip_of_declare hadd hheld hext hsub.subset hagain⟩
  · exact ⟨⟨decls', .empty⟩, stage_eq_ok_iff.2 ⟨rfl, hheld'.build hdistinct'⟩, rfl⟩

/-- A struct that embeds the pair is declared, and another pair is refused. -/
def framedRequests : List RegistryRequest :=
  [.declare [⟨"frame", 32, [⟨"inner", 0, "pair"⟩, ⟨"color", 24, "rgba"⟩]⟩],
    .registerStruct "pair" 4 [⟨"id", 0, "u32"⟩]]

/-- The pair and its label, declared again the other way round. -/
theorem afterAll_redeclared_pair :
    (∃ ds, (pairRegistry.afterAll framedRequests).declare pairBatch.reverse =
        .ok (ds, pairRegistry.afterAll framedRequests) ∧
      List.Forall₂ (fun decl d => (decl, d) ∈ pairBatch.zip [pairType, labelType])
        pairBatch.reverse ds) ∧
    ∃ staged, (pairRegistry.afterAll framedRequests).stage pairBatch.reverse = .ok staged ∧
      staged.fresh = [] := by
  have hpair : primitives.register pairBatch = .ok ([pairType, labelType], pairRegistry) := by cbv
  have hsub : pairBatch.reverse.Subperm pairBatch := (List.reverse_perm _).subperm
  exact afterAll_redeclared [] framedRequests (.inl hpair) hsub

end Registry

end GuestBridge
