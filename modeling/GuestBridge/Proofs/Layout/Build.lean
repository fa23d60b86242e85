import GuestBridge.Layout.Registry
import GuestBridge.Proofs.Fallible
import GuestBridge.Proofs.Layout.Order
import Mathlib.Data.List.Nodup

/-!
# Building a batch

What the steps of `Registry.build` accept.  `FieldsLaidOut` says of the fields of a struct that they
have different names, take some bytes each, stand one after the other and end inside the struct;
`buildStruct_eq_ok_iff` says that a struct is built exactly when its field types resolve to such
fields.  `Registry.Admits` says when a declared name is acceptable, and
`Registry.freshDecls_eq_ok_iff` that only the names are looked at first.
-/

namespace GuestBridge

/-! ## Laid out fields -/

/-- The byte just past a field. -/
def Field.stop (f : Field TypeDescriptor) : Nat :=
  f.offset.toNat + f.type.size.toNat

/-- The fields of a struct of `size` bytes are told apart by name, take some bytes each, end where
or before any later one begins, and end inside the struct. -/
structure FieldsLaidOut (size : UInt32) (fields : List FieldDescriptor) : Prop where
  names_nodup : (fields.map Field.name).Nodup
  size_ne_zero : ∀ f ∈ fields, f.type.size ≠ 0
  apart : fields.Pairwise fun f g => f.stop ≤ g.offset.toNat
  inside : ∀ f ∈ fields, f.stop ≤ size.toNat

theorem fieldsLaidOut_nil (size : UInt32) : FieldsLaidOut size [] :=
  ⟨List.nodup_nil, by simp, List.Pairwise.nil, by simp⟩

theorem fieldsLaidOut_cons_iff {size : UInt32} {f : FieldDescriptor}
    {fields : List FieldDescriptor} :
    FieldsLaidOut size (f :: fields) ↔
      ((∀ g ∈ fields, g.name ≠ f.name) ∧ f.type.size ≠ 0 ∧
        (∀ g ∈ fields, f.stop ≤ g.offset.toNat) ∧ f.stop ≤ size.toNat) ∧
        FieldsLaidOut size fields := by
  constructor
  · rintro ⟨hn, hs, ha, hi⟩
    rw [List.map_cons, List.nodup_cons] at hn
    rw [List.pairwise_cons] at ha
    rw [List.forall_mem_cons] at hs hi
    refine ⟨⟨fun g hg he => hn.1 (he ▸ List.mem_map_of_mem hg), hs.1, ha.1, hi.1⟩, ?_⟩
    exact ⟨hn.2, hs.2, ha.2, hi.2⟩
  · rintro ⟨⟨hname, hsize, happart, hstop⟩, hn, hs, ha, hi⟩
    refine ⟨?_, List.forall_mem_cons.2 ⟨hsize, hs⟩, List.pairwise_cons.2 ⟨happart, ha⟩,
      List.forall_mem_cons.2 ⟨hstop, hi⟩⟩
    rw [List.map_cons, List.nodup_cons]
    refine ⟨fun hm => ?_, hn⟩
    obtain ⟨g, hg, he⟩ := List.mem_map.1 hm
    exact hname g hg he

/-- The described field is the declared one, with its type resolved. -/
def FieldDecl.ResolvesTo (resolve : String → Option TypeDescriptor) (f : FieldDecl)
    (g : FieldDescriptor) : Prop :=
  g.name = f.name ∧ g.offset = f.offset ∧ resolve f.type = some g.type

/-! ## Building one struct -/

/-- The first thing wrong with a field of a known type, after fields of the names `seen` of which
the last is `previous` with the offset of its end. -/
def layoutFault? (size : UInt32) (seen : List String) (previous : Option (String × Nat))
    (g : FieldDescriptor) : Option LayoutFault :=
  (if g.name ∈ seen then some (.duplicateField g.name) else none).or <|
  (if g.type.size.toNat = 0 then some (.emptyField g.name g.type.name) else none).or <|
  (previous.bind fun p =>
    if g.offset.toNat < p.2 then some (.overlap g.name g.offset.toNat p.1 p.2) else none).or <|
  (if size.toNat ≤ g.offset.toNat then some (.outside g.name g.offset.toNat size.toNat)
    else none).or <|
  if size.toNat < g.stop then
    some (.tooSmall size.toNat g.name g.offset.toNat g.type.size.toNat)
  else none

theorem layoutFault?_eq_none_iff {size : UInt32} {seen : List String}
    {previous : Option (String × Nat)} {g : FieldDescriptor} :
    layoutFault? size seen previous g = none ↔
      g.name ∉ seen ∧ g.type.size ≠ 0 ∧ (∀ p ∈ previous, p.2 ≤ g.offset.toNat) ∧
        g.stop ≤ size.toNat := by
  have hzero : g.type.size.toNat = 0 ↔ g.type.size = 0 := by
    rw [← UInt32.toNat_inj, UInt32.toNat_zero]
  simp only [layoutFault?, Option.or_eq_none_iff, Option.bind_eq_none_iff, Option.mem_def,
    ite_eq_right_iff, reduceCtorEq, imp_false, hzero, Nat.not_lt, Nat.not_le]
  refine and_congr_right fun _ => and_congr_right fun hsize => and_congr_right fun _ => ?_
  have hpos : g.type.size.toNat ≠ 0 := fun h => hsize (hzero.1 h)
  unfold Field.stop
  omega

section BuildStruct

variable {decl : StructDecl} {resolve : String → Option TypeDescriptor} {seen : List String}
  {previous : Option (String × Nat)}

/-- A field is resolved first, then checked, and then its successors follow. -/
theorem buildFields_cons (f : FieldDecl) (rest : List FieldDecl) :
    buildFields decl resolve seen previous (f :: rest) =
      match resolve f.type with
      | none => .error (.notFound f.type)
      | some type =>
          match layoutFault? decl.size seen previous ⟨f.name, f.offset, type⟩ with
          | some fault => .error (.invalidLayout decl.name fault)
          | none =>
              (buildFields decl resolve (f.name :: seen)
                (some (f.name, f.offset.toNat + type.size.toNat)) rest).map
                (⟨f.name, f.offset, type⟩ :: ·) := by
  rw [buildFields]
  cases resolve f.type with
  | none => rfl
  | some type =>
      simp only [layoutFault?, Field.stop, bind, Except.bind, throw, throwThe,
        MonadExceptOf.throw, pure, Except.pure]
      -- Both sides ask the same conditions in the same order; the third is there only after a field.
      cases previous with
      | none =>
          dsimp only [Option.bind]
          split_ifs <;> simp only [*, if_true, if_false, Option.none_or, Option.some_or]
          rfl
      | some last =>
          dsimp only [Option.bind]
          split_ifs <;> simp only [*, if_true, if_false, Option.none_or, Option.some_or]
          rfl

/-- A first field is built exactly when its type resolves and it is without fault, and its successors
are built after it. -/
theorem buildFields_cons_eq_ok_iff {f : FieldDecl} {rest : List FieldDecl}
    {out : List FieldDescriptor} :
    buildFields decl resolve seen previous (f :: rest) = .ok out ↔
      ∃ type tail, resolve f.type = some type ∧
        layoutFault? decl.size seen previous ⟨f.name, f.offset, type⟩ = none ∧
        buildFields decl resolve (f.name :: seen)
          (some (f.name, f.offset.toNat + type.size.toNat)) rest = .ok tail ∧
        out = ⟨f.name, f.offset, type⟩ :: tail := by
  rw [buildFields_cons]
  cases hr : resolve f.type with
  | none => simp
  | some type =>
      cases hfault : layoutFault? decl.size seen previous ⟨f.name, f.offset, type⟩ with
      | some fault => simp [hfault]
      | none => simp [hfault, map_eq_ok_iff, eq_comm (a := out)]

/-- Fields are built exactly when their types resolve to fields that are laid out after those
already seen. -/
theorem buildFields_eq_ok_iff {fields : List FieldDecl} {out : List FieldDescriptor} :
    buildFields decl resolve seen previous fields = .ok out ↔
      List.Forall₂ (FieldDecl.ResolvesTo resolve) fields out ∧ FieldsLaidOut decl.size out ∧
        (∀ g ∈ out, g.name ∉ seen) ∧ ∀ p ∈ previous, ∀ g ∈ out, p.2 ≤ g.offset.toNat := by
  induction fields generalizing seen previous out with
  | nil =>
      rw [buildFields, Except.ok.injEq, List.forall₂_nil_left_iff]
      constructor
      · rintro rfl
        exact ⟨rfl, fieldsLaidOut_nil _, by simp, by simp⟩
      · rintro ⟨rfl, -⟩
        rfl
  | cons f rest ih =>
      simp only [buildFields_cons_eq_ok_iff, layoutFault?_eq_none_iff, ih]
      constructor
      · rintro ⟨type, tail, hr, ⟨hseen, hsize, hprev, hstop⟩, ⟨hres, hlaid, hnames, hafter⟩, rfl⟩
        have hnew : ∀ g ∈ tail, g.name ≠ f.name ∧ g.name ∉ seen := by
          simpa using hnames
        have hstart : ∀ g ∈ tail, f.offset.toNat + type.size.toNat ≤ g.offset.toNat :=
          hafter _ rfl
        refine ⟨.cons ⟨rfl, rfl, hr⟩ hres, fieldsLaidOut_cons_iff.2 ⟨⟨?_, hsize, hstart,
          hstop⟩, hlaid⟩, List.forall_mem_cons.2 ⟨hseen, fun g hg => (hnew g hg).2⟩, ?_⟩
        · exact fun g hg => (hnew g hg).1
        · intro p hp
          refine List.forall_mem_cons.2 ⟨hprev p hp, fun g hg => ?_⟩
          exact Nat.le_trans (hprev p hp) (Nat.le_trans (Nat.le_add_right _ _) (hstart g hg))
      · rintro ⟨hres, hlaid, hseen, hprev⟩
        obtain ⟨⟨name, offset, type⟩, tail, ⟨rfl, rfl, hr⟩, hrest, rfl⟩ :=
          List.forall₂_cons_left_iff.1 hres
        obtain ⟨⟨hnames, hsize, hstart, hstop⟩, hlaid⟩ := fieldsLaidOut_cons_iff.1 hlaid
        rw [List.forall_mem_cons] at hseen
        refine ⟨type, tail, hr, ⟨hseen.1, hsize, fun p hp => hprev p hp _ List.mem_cons_self, hstop⟩,
          ⟨hrest, hlaid, fun g hg => ?_, fun p hp => ?_⟩, rfl⟩
        · simpa using ⟨hnames g hg, hseen.2 g hg⟩
        · obtain rfl := Option.mem_some.1 hp
          exact hstart

/-- A struct is built exactly when its fields resolve and are laid out. -/
theorem buildStruct_eq_ok_iff {d : TypeDescriptor} :
    buildStruct decl resolve = .ok d ↔
      ∃ fields, d = .struct decl.name decl.size fields ∧
        List.Forall₂ (FieldDecl.ResolvesTo resolve) decl.fields fields ∧
        FieldsLaidOut decl.size fields := by
  have hmap : buildStruct decl resolve =
      (buildFields decl resolve [] none decl.fields).map (.struct decl.name decl.size) := rfl
  simp only [hmap, map_eq_ok_iff, buildFields_eq_ok_iff]
  constructor
  · rintro ⟨fields, ⟨hres, hlaid, -, -⟩, rfl⟩
    exact ⟨fields, rfl, hres, hlaid⟩
  · rintro ⟨fields, rfl, hres, hlaid⟩
    exact ⟨fields, ⟨hres, hlaid, by simp, by simp⟩, rfl⟩

/-- Where more types resolve, and those of the fields as before, the same struct is built. -/
theorem buildStruct_mono {resolve' : String → Option TypeDescriptor} {d : TypeDescriptor}
    (hmono : ∀ f ∈ decl.fields, ∀ type, resolve f.type = some type → resolve' f.type = some type)
    (h : buildStruct decl resolve = .ok d) : buildStruct decl resolve' = .ok d := by
  obtain ⟨fields, rfl, hres, hlaid⟩ := buildStruct_eq_ok_iff.1 h
  refine buildStruct_eq_ok_iff.2 ⟨fields, rfl, ?_, hlaid⟩
  refine List.Forall₂.imp ?_ ((List.forall₂_and_left decl.fields fields).2 ⟨fun _ hf => hf, hres⟩)
  rintro f g ⟨hf, hname, hoffset, htype⟩
  exact ⟨hname, hoffset, hmono f hf g.type htype⟩

end BuildStruct

/-! ## Declared and described structs -/

theorem TypeDescriptor.matchesDecl_iff {d : TypeDescriptor} {decl : StructDecl} :
    d.matchesDecl decl = true ↔ d.isStruct = true ∧ d.size = decl.size ∧
      d.fields.map FieldDecl.ofDescriptor = decl.fields := by
  simp [TypeDescriptor.matchesDecl, and_assoc]

/-- When every type is found under its own name, declared fields resolve to those that are declared
alike and whose types are what their names resolve to. -/
theorem forall₂_resolvesTo_iff {resolve : String → Option TypeDescriptor}
    (hnamed : ∀ name type, resolve name = some type → type.name = name) {fields : List FieldDecl}
    {out : List FieldDescriptor} :
    List.Forall₂ (FieldDecl.ResolvesTo resolve) fields out ↔
      out.map FieldDecl.ofDescriptor = fields ∧ ∀ g ∈ out, resolve g.type.name = some g.type := by
  constructor
  · intro h
    induction h with
    | nil => simp
    | @cons f g _ _ hfg _ ih =>
        obtain ⟨hname, hoffset, htype⟩ := hfg
        have hsame : g.type.name = f.type := hnamed _ _ htype
        refine ⟨?_, List.forall_mem_cons.2 ⟨hsame ▸ htype, ih.2⟩⟩
        rw [List.map_cons, ih.1]
        simp only [FieldDecl.ofDescriptor, hname, hoffset, hsame]
  · rintro ⟨rfl, hclosed⟩
    rw [List.forall₂_map_left_iff, List.forall₂_same]
    exact fun g hg => ⟨rfl, rfl, hclosed g hg⟩

/-! ## The names of a batch -/

namespace Registry

/-- A declared name is new, or `mode` allows it and it is registered as it is declared. -/
def Admits (r : Registry) (mode : Redeclaration) (decl : StructDecl) : Prop :=
  ∀ d, r.get? decl.name = some d → mode = .allowedIfIdentical ∧ d.matchesDecl decl = true

theorem admits_refused_iff {r : Registry} {decl : StructDecl} :
    r.Admits .refused decl ↔ r.get? decl.name = none := by
  rw [Admits]
  cases r.get? decl.name <;> simp

/-- A name that may be declared again is free, or registered as it is declared. -/
theorem admits_allowed_iff {r : Registry} {decl : StructDecl} :
    r.Admits .allowedIfIdentical decl ↔ r.get? decl.name = none ∨
      ∃ d, r.get? decl.name = some d ∧ d.isStruct = true ∧ d.size = decl.size ∧
        d.fields.map FieldDecl.ofDescriptor = decl.fields := by
  rw [Admits]
  cases r.get? decl.name <;> simp [TypeDescriptor.matchesDecl_iff]

/-- Whether a declared name is new. -/
def isNew (r : Registry) (decl : StructDecl) : Bool :=
  (r.get? decl.name).isNone

/-- A declaration is refused if its name was declared before or is not admitted. -/
theorem freshDecls_cons_refused {r : Registry} {mode : Redeclaration} {seen : List String}
    {decl : StructDecl} (rest : List StructDecl)
    (h : ¬ (decl.name ∉ seen ∧ r.Admits mode decl)) :
    r.freshDecls mode seen (decl :: rest) = .error (.duplicate decl.name) := by
  rw [freshDecls]
  by_cases hseen : decl.name ∈ seen
  · rw [if_pos hseen]
    rfl
  · have hnot : ¬ r.Admits mode decl := fun hadm => h ⟨hseen, hadm⟩
    rw [if_neg hseen]
    cases hget : r.get? decl.name with
    | none => exact absurd (fun d hd => by simp [hget] at hd) hnot
    | some d =>
        have hsame : ¬ (mode = .allowedIfIdentical ∧ d.matchesDecl decl = true) := by
          refine fun hsame => hnot fun d' hd' => ?_
          rw [hget] at hd'
          exact Option.some.inj hd' ▸ hsame
        simp only [hsame, if_false]
        rfl

/-- A declaration of a new name goes on, and one that is registered is left out. -/
theorem freshDecls_cons_admitted {r : Registry} {mode : Redeclaration} {seen : List String}
    {decl : StructDecl} (rest : List StructDecl) (hseen : decl.name ∉ seen)
    (hadm : r.Admits mode decl) :
    r.freshDecls mode seen (decl :: rest) =
      (r.freshDecls mode (decl.name :: seen) rest).map
        fun fresh => if r.isNew decl then decl :: fresh else fresh := by
  rw [freshDecls, if_neg hseen]
  cases hget : r.get? decl.name with
  | none =>
      simp only [isNew, hget, Option.isNone_none, if_true]
      rfl
  | some d =>
      simp only [isNew, hget, Option.isNone_some, Bool.false_eq_true, if_false,
        if_pos (hadm d hget)]
      cases r.freshDecls mode (decl.name :: seen) rest <;> rfl

/-- Only names are looked at first: each is declared once and admitted, and what goes on is the
declarations of new names. -/
theorem freshDecls_eq_ok_iff {r : Registry} {mode : Redeclaration} {seen : List String}
    {decls fresh : List StructDecl} :
    r.freshDecls mode seen decls = .ok fresh ↔
      DistinctNames decls ∧ (∀ decl ∈ decls, decl.name ∉ seen ∧ r.Admits mode decl) ∧
        fresh = decls.filter r.isNew := by
  induction decls generalizing seen fresh with
  | nil => simp [freshDecls, DistinctNames, eq_comm]
  | cons decl rest ih =>
      by_cases h : decl.name ∉ seen ∧ r.Admits mode decl
      · rw [freshDecls_cons_admitted rest h.1 h.2, map_eq_ok_iff, List.forall_mem_cons,
          List.filter_cons]
        simp only [ih, DistinctNames, List.map_cons, List.nodup_cons]
        constructor
        · rintro ⟨tail, ⟨hd, hadm, rfl⟩, rfl⟩
          refine ⟨⟨fun hm => ?_, hd⟩, ⟨h, fun d hd' => ?_⟩, rfl⟩
          · obtain ⟨d, hd', hname⟩ := List.mem_map.1 hm
            exact (hadm d hd').1 (hname ▸ List.mem_cons_self)
          · exact ⟨fun hm => (hadm d hd').1 (List.mem_cons_of_mem _ hm), (hadm d hd').2⟩
        · rintro ⟨⟨hnot, hd⟩, ⟨-, hadm⟩, rfl⟩
          refine ⟨_, ⟨hd, fun d hd' => ⟨fun hm => ?_, (hadm d hd').2⟩, rfl⟩, rfl⟩
          rcases List.mem_cons.1 hm with hm | hm
          · exact hnot (hm ▸ List.mem_map_of_mem hd')
          · exact (hadm d hd').1 hm
      · rw [freshDecls_cons_refused rest h]
        simp only [reduceCtorEq, false_iff]
        rintro ⟨-, hadm, -⟩
        exact h (hadm decl List.mem_cons_self)

/-- Names are refused as declared twice or as registered otherwise. -/
theorem freshDecls_eq_error {r : Registry} {mode : Redeclaration} {seen : List String}
    {decls : List StructDecl} {e : RegistryError} (h : r.freshDecls mode seen decls = .error e) :
    ∃ decl ∈ decls, e = .duplicate decl.name := by
  induction decls generalizing seen with
  | nil => simp [freshDecls] at h
  | cons decl rest ih =>
      by_cases hadm : decl.name ∉ seen ∧ r.Admits mode decl
      · rw [freshDecls_cons_admitted rest hadm.1 hadm.2] at h
        cases hrest : r.freshDecls mode (decl.name :: seen) rest with
        | ok fresh => simp [hrest, Except.map] at h
        | error e' =>
            simp only [hrest, Except.map, Except.error.injEq] at h
            obtain ⟨d, hd, he⟩ := ih (h ▸ hrest)
            exact ⟨d, List.mem_cons_of_mem _ hd, he⟩
      · rw [freshDecls_cons_refused rest hadm] at h
        exact ⟨decl, List.mem_cons_self, (Except.error.inj h).symm⟩

end Registry

end GuestBridge
