import GuestBridge.Proofs.Layout.Batch

/-!
# Which batches are accepted

A batch is accepted exactly when its names may be declared, no new declaration needs itself
(`Acyclic`), and the fields of each new declaration fit (`FieldsFit`), where a field type has the
size it is registered with or declared with in the batch (`Registry.SizedWith`).  These are looked
at in this order, and the first that fails decides the error: `Registry.Judged`.

`Registry.Declares` describes a registry that has grown by declarations, however they were added:
it is well-formed, holds what was there before, holds each declared struct as it is declared, and
nothing else.  That a batch which meets the conditions is accepted comes down to one walk along an
order of dependency, on which the registry grows (`Registry.Fitting.exists_addEach`): when a struct
is built, all that its fields name is there, with the declared sizes.
-/

namespace GuestBridge

/-! ## Lists side by side -/

section Forall₂

variable {α β : Type} {R : α → β → Prop} {l₁ : List α} {l₂ : List β}

theorem forall_mem_iff_of_forall₂ {P : α → Prop} {Q : β → Prop} (h : List.Forall₂ R l₁ l₂)
    (hPQ : ∀ a b, R a b → (P a ↔ Q b)) : (∀ a ∈ l₁, P a) ↔ ∀ b ∈ l₂, Q b := by
  induction h with
  | nil => simp
  | cons hab _ ih => rw [List.forall_mem_cons, List.forall_mem_cons, hPQ _ _ hab, ih]

theorem pairwise_iff_of_forall₂ {S : α → α → Prop} {T : β → β → Prop} (h : List.Forall₂ R l₁ l₂)
    (hST : ∀ a b a' b', R a b → R a' b' → (S a a' ↔ T b b')) :
    l₁.Pairwise S ↔ l₂.Pairwise T := by
  induction h with
  | nil => simp
  | cons hab hrest ih =>
      rw [List.pairwise_cons, List.pairwise_cons, ih]
      rw [forall_mem_iff_of_forall₂ hrest fun a' b' hab' => hST _ _ a' b' hab hab']

end Forall₂

/-! ## Fields that fit -/

/-- The name stands for a type of so many bytes. -/
def SizedBy (resolve : String → Option TypeDescriptor) (name : String) (bytes : UInt32) : Prop :=
  ∃ d, resolve name = some d ∧ d.size = bytes

/-- The declared fields of a struct of `size` bytes are told apart by name, are of types that take
some bytes each, end where or before any later one begins, and end inside the struct. -/
structure FieldsFit (size : UInt32) (sized : String → UInt32 → Prop) (fields : List FieldDecl) :
    Prop where
  names_nodup : (fields.map Field.name).Nodup
  size_ne_zero : ∀ f ∈ fields, ∃ bytes, sized f.type bytes ∧ bytes ≠ 0
  apart : fields.Pairwise fun f g =>
    ∀ bytes, sized f.type bytes → f.offset.toNat + bytes.toNat ≤ g.offset.toNat
  inside : ∀ f ∈ fields, ∀ bytes, sized f.type bytes → f.offset.toNat + bytes.toNat ≤ size.toNat

section FieldsFit

variable {size : UInt32} {sized sized' : String → UInt32 → Prop}

/-- Only the sizes of the field types count. -/
theorem FieldsFit.congr {fields : List FieldDecl} (h : FieldsFit size sized fields)
    (hsame : ∀ f ∈ fields, ∀ bytes, sized' f.type bytes ↔ sized f.type bytes) :
    FieldsFit size sized' fields where
  names_nodup := h.names_nodup
  size_ne_zero f hf := by
    obtain ⟨bytes, hbytes, hne⟩ := h.size_ne_zero f hf
    exact ⟨bytes, (hsame f hf bytes).2 hbytes, hne⟩
  apart := by
    refine h.apart.imp_of_mem fun {f g} hf _ hfg bytes hbytes => ?_
    exact hfg bytes ((hsame f hf bytes).1 hbytes)
  inside f hf bytes hbytes := h.inside f hf bytes ((hsame f hf bytes).1 hbytes)

variable {resolve : String → Option TypeDescriptor}

/-- Fields that resolve to described ones are laid out as described exactly when they fit as
declared. -/
theorem fieldsLaidOut_iff_fieldsFit {fields : List FieldDecl} {out : List FieldDescriptor}
    (h : List.Forall₂ (FieldDecl.ResolvesTo resolve) fields out) :
    FieldsLaidOut size out ↔ FieldsFit size (SizedBy resolve) fields := by
  have hsized : ∀ {f : FieldDecl} {g : FieldDescriptor}, FieldDecl.ResolvesTo resolve f g →
      ∀ bytes, SizedBy resolve f.type bytes ↔ g.type.size = bytes := by
    rintro f g ⟨-, -, hg⟩ bytes
    constructor
    · rintro ⟨d, hd, rfl⟩
      rw [Option.some.inj (hg.symm.trans hd)]
    · exact fun hbytes => ⟨g.type, hg, hbytes⟩
  have hnames : out.map Field.name = fields.map Field.name := by
    refine List.forall₂_eq_eq_eq ▸ List.forall₂_map_left_iff.2 (List.forall₂_map_right_iff.2 ?_)
    exact (h.imp fun f g hfg => hfg.1).flip
  have hne : (∀ g ∈ out, g.type.size ≠ 0) ↔
      ∀ f ∈ fields, ∃ bytes, SizedBy resolve f.type bytes ∧ bytes ≠ 0 := by
    refine (forall_mem_iff_of_forall₂ h fun f g hfg => ?_).symm
    simp [hsized hfg]
  have hinside : (∀ g ∈ out, g.stop ≤ size.toNat) ↔ ∀ f ∈ fields, ∀ bytes,
      SizedBy resolve f.type bytes → f.offset.toNat + bytes.toNat ≤ size.toNat := by
    refine (forall_mem_iff_of_forall₂ h fun f g hfg => ?_).symm
    simp [hsized hfg, Field.stop, hfg.2.1]
  have hapart : (out.Pairwise fun f g => f.stop ≤ g.offset.toNat) ↔
      fields.Pairwise fun f g => ∀ bytes, SizedBy resolve f.type bytes →
        f.offset.toNat + bytes.toNat ≤ g.offset.toNat := by
    refine (pairwise_iff_of_forall₂ h fun f g f' g' hfg hfg' => ?_).symm
    simp [hsized hfg, Field.stop, hfg.2.1, hfg'.2.1]
  constructor
  · rintro ⟨hn, hs, ha, hi⟩
    exact ⟨hnames ▸ hn, hne.1 hs, hapart.1 ha, hinside.1 hi⟩
  · rintro ⟨hn, hs, ha, hi⟩
    exact ⟨hnames ▸ hn, hne.2 hs, hapart.2 ha, hinside.2 hi⟩

/-- A struct is built exactly when its fields fit. -/
theorem exists_buildStruct_iff {decl : StructDecl} :
    (∃ d, buildStruct decl resolve = .ok d) ↔
      FieldsFit decl.size (SizedBy resolve) decl.fields := by
  constructor
  · rintro ⟨d, hd⟩
    obtain ⟨fields, -, hres, hlaid⟩ := buildStruct_eq_ok_iff.1 hd
    exact (fieldsLaidOut_iff_fieldsFit hres).1 hlaid
  · intro hfit
    obtain ⟨fields, hres⟩ : ∃ out, List.Forall₂ (FieldDecl.ResolvesTo resolve) decl.fields out := by
      refine exists_forall₂ fun f hf => ?_
      obtain ⟨bytes, ⟨d, hd, -⟩, -⟩ := hfit.size_ne_zero f hf
      exact ⟨⟨f.name, f.offset, d⟩, rfl, rfl, hd⟩
    have hlaid := (fieldsLaidOut_iff_fieldsFit hres).2 hfit
    exact ⟨_, buildStruct_eq_ok_iff.2 ⟨fields, rfl, hres, hlaid⟩⟩

end FieldsFit

/-- An unknown type or a wrong layout is reported. -/
inductive RegistryError.OfLayout : RegistryError → Prop where
  | notFound (type : String) : OfLayout (.notFound type)
  | invalidLayout (name : String) (fault : LayoutFault) : OfLayout (.invalidLayout name fault)

theorem buildFields_eq_error {decl : StructDecl} {resolve : String → Option TypeDescriptor}
    {seen : List String} {previous : Option (String × Nat)} {fields : List FieldDecl}
    {e : RegistryError} (h : buildFields decl resolve seen previous fields = .error e) :
    e.OfLayout := by
  induction fields generalizing seen previous with
  | nil => simp [buildFields] at h
  | cons f rest ih =>
      rw [buildFields_cons] at h
      split at h
      · obtain rfl := Except.error.inj h
        exact .notFound f.type
      · rename_i type htype
        split at h
        · rename_i fault hfault
          obtain rfl := Except.error.inj h
          exact .invalidLayout decl.name fault
        · cases hrest : buildFields decl resolve (f.name :: seen)
            (some (f.name, f.offset.toNat + type.size.toNat)) rest with
          | ok out => simp [hrest, Except.map] at h
          | error e' =>
              rw [hrest] at h
              obtain rfl := Except.error.inj h
              exact ih hrest

theorem buildStruct_eq_error {decl : StructDecl} {resolve : String → Option TypeDescriptor}
    {e : RegistryError} (h : buildStruct decl resolve = .error e) : e.OfLayout := by
  have hmap : buildStruct decl resolve =
      (buildFields decl resolve [] none decl.fields).map (.struct decl.name decl.size) := rfl
  rw [hmap] at h
  cases hfields : buildFields decl resolve [] none decl.fields with
  | ok out => simp [hfields, Except.map] at h
  | error e' =>
      rw [hfields] at h
      obtain rfl := Except.error.inj h
      exact buildFields_eq_error hfields

/-! ## Declarations without a cycle -/

/-- No declaration needs itself, be it through others. -/
def Acyclic (decls : List StructDecl) : Prop :=
  ∀ name, ¬ Relation.TransGen (RefersWithin decls) name name

theorem Acyclic.mono {decls part : List StructDecl} (h : Acyclic decls) (hsub : part ⊆ decls) :
    Acyclic part :=
  fun name hname => h name (Relation.TransGen.mono (fun _ _ hab => hab.mono hsub) _ _ hname)

/-- There is an order of dependency exactly when there is no cycle. -/
theorem exists_dependencyOrder_iff {decls : List StructDecl} (hd : DistinctNames decls) :
    (∃ order, dependencyOrder decls = .ok order) ↔ Acyclic decls := by
  constructor
  · rintro ⟨order, horder⟩
    obtain ⟨hsettled, hperm⟩ := dependencyOrder_ok hd horder
    exact hsettled.not_transGen hd hperm.symm.subset
  · intro hacyclic
    cases horder : dependencyOrder decls with
    | ok order => exact ⟨order, rfl⟩
    | error c => exact absurd (dependencyOrder_error horder).transGen (hacyclic c.name)

namespace Registry

/-! ## Grown registries -/

/-- `r'` is `r` grown by the declarations `decls`, some of which may be registered already. -/
structure Declares (r : Registry) (decls : List StructDecl) (r' : Registry) : Prop where
  wellFormed : r'.WellFormed
  extends_base : r.Extends r'
  only : ∀ {name d}, r'.get? name = some d →
    r.get? name = some d ∨ ∃ decl ∈ decls, decl.name = name
  registered : ∀ decl ∈ decls, ∃ d, r'.get? decl.name = some d ∧ d.matchesDecl decl = true

theorem Adds.declares {r r' : Registry} {decls : List StructDecl} (h : r.Adds decls r') :
    r.Declares decls r' :=
  ⟨h.wellFormed, h.extends_base, h.only, h.registered⟩

theorem WellFormed.declares_of_addBatch {r : Registry} (h : r.WellFormed) {mode : Redeclaration}
    {decls : List StructDecl} {out : List TypeDescriptor × Registry}
    (hout : r.addBatch mode decls = .ok out) : r.Declares decls out.2 := by
  have hadds := h.adds_of_addBatch hout
  refine ⟨hadds.wellFormed, hadds.extends_base, fun hd => ?_, ?_⟩
  · refine (hadds.only hd).imp id fun ⟨decl, hdecl, hname⟩ => ?_
    exact ⟨decl, (List.mem_filter.1 hdecl).1, hname⟩
  · exact h.registered_of_build (addBatch_eq_ok_iff.1 hout).1

/-- Growing further. -/
theorem Declares.append {r₁ r₂ r₃ : Registry} {before after : List StructDecl}
    (h : r₁.Declares before r₂) (h' : r₂.Declares after r₃) :
    r₁.Declares (before ++ after) r₃ where
  wellFormed := h'.wellFormed
  extends_base := h.extends_base.trans h'.extends_base
  only hd := by
    rcases h'.only hd with hold | ⟨decl, hdecl, hname⟩
    · refine (h.only hold).imp id fun ⟨decl, hdecl, hname⟩ => ?_
      exact ⟨decl, List.mem_append_left _ hdecl, hname⟩
    · exact .inr ⟨decl, List.mem_append_right _ hdecl, hname⟩
  registered decl hdecl := by
    rcases List.mem_append.1 hdecl with hbefore | hafter
    · obtain ⟨d, hd, hmatch⟩ := h.registered decl hbefore
      exact ⟨d, h'.extends_base _ _ hd, hmatch⟩
    · exact h'.registered decl hafter

/-! ## Sizes beside a registry -/

/-- The name stands for a registered type or a struct of `decls`, of so many bytes. -/
def SizedWith (r : Registry) (decls : List StructDecl) (name : String) (bytes : UInt32) : Prop :=
  SizedBy r.get? name bytes ∨ ∃ decl ∈ decls, decl.name = name ∧ decl.size = bytes

/-- Once structs are declared, their names stand for what they are declared with. -/
theorem Declares.sizedBy_iff {r r' : Registry} {decls : List StructDecl} (h : r.Declares decls r')
    (name : String) (bytes : UInt32) :
    SizedBy r'.get? name bytes ↔ r.SizedWith decls name bytes := by
  have hsized : ∀ decl ∈ decls, ∃ d, r'.get? decl.name = some d ∧ d.size = decl.size := by
    intro decl hdecl
    obtain ⟨d, hd, hmatch⟩ := h.registered decl hdecl
    exact ⟨d, hd, (TypeDescriptor.matchesDecl_iff.1 hmatch).2.1⟩
  constructor
  · rintro ⟨d, hd, hbytes⟩
    rcases h.only hd with hold | ⟨decl, hdecl, hname⟩
    · exact .inl ⟨d, hold, hbytes⟩
    · obtain ⟨d', hd', hsize⟩ := hsized decl hdecl
      rw [hname, hd] at hd'
      obtain rfl := Option.some.inj hd'
      exact .inr ⟨decl, hdecl, hname, hsize.symm.trans hbytes⟩
  · rintro (⟨d, hd, hbytes⟩ | ⟨decl, hdecl, rfl, rfl⟩)
    · exact ⟨d, h.extends_base _ _ hd, hbytes⟩
    · exact hsized decl hdecl

/-! ## Building along an order of dependency -/

section Along

variable {r : Registry} {fresh : List StructDecl}

/-- What a batch asks of its new declarations `fresh`: that they are new, told apart by name, and
that their fields fit. -/
structure Fitting (r : Registry) (fresh : List StructDecl) : Prop where
  distinct : DistinctNames fresh
  new : ∀ decl ∈ fresh, r.get? decl.name = none
  fits : ∀ decl ∈ fresh, FieldsFit decl.size (r.SizedWith fresh) decl.fields

/-- Where all that a struct needs of the batch was added before it, it is built and may join. -/
theorem Fitting.exists_insert (h : r.Fitting fresh) {r' : Registry} {before rest : List StructDecl}
    {decl : StructDecl} (hsettled : Settled fresh (before ++ decl :: rest))
    (hgrown : r.Declares before r') :
    ∃ d, buildStruct decl r'.get? = .ok d ∧
      r.Declares (before ++ [decl]) (r'.insert decl.name d) := by
  have hdecl : decl ∈ fresh := hsettled.subset (by simp)
  have hsame : ∀ f ∈ decl.fields, ∀ bytes,
      SizedBy r'.get? f.type bytes ↔ r.SizedWith fresh f.type bytes := by
    intro f hf bytes
    rw [hgrown.sizedBy_iff]
    refine or_congr_right ⟨fun ⟨e, he, hname, hsize⟩ => ?_, fun ⟨e, he, hname, hsize⟩ => ?_⟩
    · exact ⟨e, hsettled.subset (List.mem_append_left _ he), hname, hsize⟩
    · exact ⟨e, hsettled.needs_before rfl f hf e he hname, hname, hsize⟩
  obtain ⟨d, hbuild⟩ := exists_buildStruct_iff.2 ((h.fits decl hdecl).congr hsame)
  have hnone : r'.get? decl.name = none := by
    by_contra hsome
    obtain ⟨e, he⟩ := Option.ne_none_iff_exists'.1 hsome
    rcases hgrown.only he with hold | ⟨other, hother, hname⟩
    · rw [h.new decl hdecl] at hold
      cases hold
    · have hmem : other ∈ fresh := hsettled.subset (List.mem_append_left _ hother)
      obtain rfl := h.distinct.eq_of_name hmem hdecl hname
      exact (List.nodup_append.1 hsettled.nodup).2.2 other hother other List.mem_cons_self rfl
  have hadds : r'.Adds [decl] (r'.insert decl.name d) :=
    hgrown.wellFormed.adds_cons hnone hbuild fun hwf => hwf.adds_nil
  exact ⟨d, hbuild, hgrown.append hadds.declares⟩

/-- Along an order of dependency every struct joins. -/
theorem Fitting.exists_addEach (h : r.Fitting fresh) {r' : Registry}
    {before rest : List StructDecl} (hsettled : Settled fresh (before ++ rest))
    (hgrown : r.Declares before r') :
    ∃ r'', r'.addEach rest = .ok r'' ∧ r.Declares (before ++ rest) r'' := by
  induction rest generalizing r' before with
  | nil => exact ⟨r', rfl, by rwa [List.append_nil]⟩
  | cons decl rest ih =>
      obtain ⟨d, hbuild, hstep⟩ := h.exists_insert hsettled hgrown
      have heq : (before ++ [decl]) ++ rest = before ++ decl :: rest := by simp
      obtain ⟨r'', hrest, hall⟩ := ih (heq ▸ hsettled) hstep
      refine ⟨r'', ?_, heq ▸ hall⟩
      rw [addEach, hbuild]
      exact hrest

end Along

theorem addEach_eq_error {r : Registry} {order : List StructDecl} {e : RegistryError}
    (h : r.addEach order = .error e) : e.OfLayout := by
  induction order generalizing r with
  | nil => simp [addEach] at h
  | cons decl rest ih =>
      rw [addEach] at h
      split at h
      · exact ih h
      · rename_i e' hbuild
        obtain rfl := Except.error.inj h
        exact buildStruct_eq_error hbuild

/-! ## The stages of the check -/

section Stages

variable {r : Registry} {mode : Redeclaration} {decls : List StructDecl}

/-- The declared names are told apart and may be declared. -/
def NamesAdmitted (r : Registry) (mode : Redeclaration) (decls : List StructDecl) : Prop :=
  DistinctNames decls ∧ ∀ decl ∈ decls, r.Admits mode decl

theorem NamesAdmitted.freshDecls (h : r.NamesAdmitted mode decls) :
    r.freshDecls mode [] decls = .ok (decls.filter r.isNew) :=
  freshDecls_eq_ok_iff.2 ⟨h.1, fun decl hdecl => ⟨by simp, h.2 decl hdecl⟩, rfl⟩

theorem NamesAdmitted.distinct (h : r.NamesAdmitted mode decls) :
    DistinctNames (decls.filter r.isNew) :=
  h.1.sublist List.filter_sublist

/-- A cycle among the new declarations is reported once the names are admitted. -/
theorem NamesAdmitted.build_eq_cyclic (h : r.NamesAdmitted mode decls) {c : Cycle}
    (hc : dependencyOrder (decls.filter r.isNew) = .error c) :
    r.build mode decls = .error (.cyclic c.name c.path) := by
  rw [build_eq, h.freshDecls]
  show ((dependencyOrder (decls.filter r.isNew)).mapError fun c =>
    RegistryError.cyclic c.name c.path) >>= r.buildAll .empty = _
  rw [hc]
  rfl

/-- An order of dependency is all that is left to walk along. -/
theorem NamesAdmitted.map_extend_build (h : r.NamesAdmitted mode decls)
    {order : List StructDecl} (horder : dependencyOrder (decls.filter r.isNew) = .ok order) :
    (r.build mode decls).map r.extend = r.addEach order := by
  rw [build_eq, h.freshDecls]
  show (((dependencyOrder (decls.filter r.isNew)).mapError fun c =>
    RegistryError.cyclic c.name c.path) >>= r.buildAll .empty).map r.extend = _
  rw [horder]
  exact map_extend_buildAll r .empty order

theorem addBatch_eq_error {e : RegistryError} (h : r.build mode decls = .error e) :
    r.addBatch mode decls = .error e := by
  rw [addBatch, h]
  rfl

/-- The fields of each new declaration fit. -/
def LayoutsFit (r : Registry) (decls : List StructDecl) : Prop :=
  ∀ decl ∈ decls.filter r.isNew,
    FieldsFit decl.size (r.SizedWith (decls.filter r.isNew)) decl.fields

/-- The fields of whatever was added fit. -/
theorem WellFormed.layoutsFit_of_addBatch (h : r.WellFormed)
    {out : List TypeDescriptor × Registry} (hout : r.addBatch mode decls = .ok out) :
    r.LayoutsFit decls := by
  intro decl hdecl
  have hadds := h.adds_of_addBatch hout
  obtain ⟨d, -, hbuild⟩ := hadds.built decl hdecl
  refine (exists_buildStruct_iff.1 ⟨d, hbuild⟩).congr fun f _ bytes => ?_
  exact (hadds.declares.sizedBy_iff f.type bytes).symm

/-- A batch whose names, order and layouts are all right is added. -/
theorem WellFormed.exists_addBatch_of_fit (h : r.WellFormed) (hnames : r.NamesAdmitted mode decls)
    (hacyclic : Acyclic (decls.filter r.isNew)) (hfit : r.LayoutsFit decls) :
    ∃ out, r.addBatch mode decls = .ok out := by
  have hfitting : r.Fitting (decls.filter r.isNew) :=
    ⟨hnames.distinct, fun decl hdecl => Option.isNone_iff_eq_none.1 (List.mem_filter.1 hdecl).2,
      hfit⟩
  obtain ⟨order, horder⟩ := (exists_dependencyOrder_iff hnames.distinct).2 hacyclic
  obtain ⟨hsettled, -⟩ := dependencyOrder_ok hnames.distinct horder
  have hstart : Settled (decls.filter r.isNew) ([] ++ order) := hsettled
  obtain ⟨r', hadd, -⟩ := hfitting.exists_addEach hstart h.adds_nil.declares
  obtain ⟨descriptors, hok⟩ := h.exists_addBatch ((hnames.map_extend_build horder).trans hadd)
  exact ⟨_, hok⟩

end Stages

/-! ## The verdict -/

/-- The answer to a batch: it is accepted when `names` holds, no new declaration needs itself and
the fields of each fit, and else the first of these that fails is reported. -/
structure Judged (r : Registry) (decls : List StructDecl) (names : Prop) {α : Type}
    (answer : Except RegistryError α) : Prop where
  ok_iff : (∃ out, answer = .ok out) ↔
    names ∧ Acyclic (decls.filter r.isNew) ∧ r.LayoutsFit decls
  duplicate : ¬ names → ∃ decl ∈ decls, answer = .error (.duplicate decl.name)
  cyclic : names → ¬ Acyclic (decls.filter r.isNew) →
    ∃ c : Cycle, c.Genuine (decls.filter r.isNew) ∧ answer = .error (.cyclic c.name c.path)
  layout : names → Acyclic (decls.filter r.isNew) → ¬ r.LayoutsFit decls →
    ∃ e, e.OfLayout ∧ answer = .error e

theorem WellFormed.judged_addBatch {r : Registry} (h : r.WellFormed) (mode : Redeclaration)
    (decls : List StructDecl) :
    r.Judged decls (r.NamesAdmitted mode decls) (r.addBatch mode decls) where
  ok_iff := by
    constructor
    · rintro ⟨out, hout⟩
      obtain ⟨hd, hadm, order, horder, -⟩ := build_eq_ok_iff.1 (addBatch_eq_ok_iff.1 hout).1
      have hnames : r.NamesAdmitted mode decls := ⟨hd, hadm⟩
      refine ⟨hnames, ?_, h.layoutsFit_of_addBatch hout⟩
      exact (exists_dependencyOrder_iff hnames.distinct).1 ⟨order, horder⟩
    · rintro ⟨hnames, hacyclic, hfit⟩
      exact h.exists_addBatch_of_fit hnames hacyclic hfit
  duplicate hnames := by
    obtain ⟨decl, hdecl, hdup⟩ := build_eq_duplicate hnames
    exact ⟨decl, hdecl, addBatch_eq_error hdup⟩
  cyclic hnames hcyclic := by
    cases horder : dependencyOrder (decls.filter r.isNew) with
    | ok order =>
        exact absurd ((exists_dependencyOrder_iff hnames.distinct).1 ⟨order, horder⟩) hcyclic
    | error c =>
        exact ⟨c, dependencyOrder_error horder, addBatch_eq_error (hnames.build_eq_cyclic horder)⟩
  layout hnames hacyclic hfit := by
    obtain ⟨order, horder⟩ := (exists_dependencyOrder_iff hnames.distinct).2 hacyclic
    have hbuild := hnames.map_extend_build horder
    cases hadd : r.addEach order with
    | ok r' =>
        obtain ⟨descriptors, hok⟩ := h.exists_addBatch (hbuild.trans hadd)
        exact absurd (h.layoutsFit_of_addBatch hok) hfit
    | error e =>
        refine ⟨e, addEach_eq_error hadd, addBatch_eq_error ?_⟩
        rw [hadd] at hbuild
        cases hb : r.build mode decls with
        | ok built => simp [hb, Except.map] at hbuild
        | error e' => simpa [hb, Except.map] using hbuild

/-- Registering and declaring a batch on any registry that a run reaches. Its names have to be
different, and each has to be free; where a batch is declared, a name may also be registered as a
struct of the declared size with the declared fields. The relation "has a field whose type is named"
among the unregistered declarations may have no cycle, and the fields of each of them have to fit. A
batch that meets all this is accepted, and otherwise the first of the three that fails makes the
error. -/
theorem afterAll_judged (requests : List RegistryRequest) (decls : List StructDecl) :
    (primitives.afterAll requests).Judged decls
      (DistinctNames decls ∧
        ∀ decl ∈ decls, (primitives.afterAll requests).get? decl.name = none)
      ((primitives.afterAll requests).register decls) ∧
    (primitives.afterAll requests).Judged decls
      (DistinctNames decls ∧ ∀ decl ∈ decls,
        (primitives.afterAll requests).get? decl.name = none ∨
          ∃ d, (primitives.afterAll requests).get? decl.name = some d ∧ d.isStruct = true ∧
            d.size = decl.size ∧ d.fields.map FieldDecl.ofDescriptor = decl.fields)
      ((primitives.afterAll requests).declare decls) := by
  have hwf := wellFormed_afterAll requests
  generalize primitives.afterAll requests = r at hwf ⊢
  constructor
  · simp only [← admits_refused_iff]
    exact hwf.judged_addBatch .refused decls
  · simp only [← admits_allowed_iff]
    exact hwf.judged_addBatch .allowedIfIdentical decls

end Registry

end GuestBridge
