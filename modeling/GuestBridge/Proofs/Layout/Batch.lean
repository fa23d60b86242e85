import GuestBridge.Proofs.Layout.WellFormed
import Mathlib

/-!
# Runs of batches

A batch is checked and then added: `Registry.addBatch_eq_ok_iff` tells both as a walk of
`Registry.addEach` along an order of dependency.  A `RegistryRequest` is one operation on a
registry, and `Registry.afterAll` the registry after a run of them, whether they succeed or fail.
Every run keeps `Registry.WellFormed` and what was registered before it (`WellFormed.afterAll`),
and the invariant is read off for every entry of a registry that a run reaches.
-/

namespace GuestBridge

theorem exists_forall₂ {α β : Type} {R : α → β → Prop} {l : List α} (h : ∀ a ∈ l, ∃ b, R a b) :
    ∃ l', List.Forall₂ R l l' := by
  induction l with
  | nil => exact ⟨[], .nil⟩
  | cons a l ih =>
      rw [List.forall_mem_cons] at h
      obtain ⟨b, hb⟩ := h.1
      obtain ⟨l', hl'⟩ := ih h.2
      exact ⟨b :: l', .cons hb hl'⟩

namespace Registry

/-! ## Building beside a registry -/

/-- The registry with what was built beside it. -/
def extend (r : Registry) (built : SortedMap String TypeDescriptor) : Registry :=
  ⟨r.types.insertAll built⟩

theorem get?_extend (r : Registry) (built : SortedMap String TypeDescriptor) (name : String) :
    (r.extend built).get? name = (built.get? name).or (r.get? name) :=
  SortedMap.get?_insertAll r.types built name

/-- What was built beside a registry is found as if it had been added. -/
theorem lookupBeside_eq (r : Registry) (built : SortedMap String TypeDescriptor) (name : String) :
    r.lookupBeside built name = (r.extend built).lookup name := by
  rw [lookupBeside, lookup, lookup, get?_extend]
  cases built.get? name <;> rfl

theorem ext_get? {r r' : Registry} (h : ∀ name, r.get? name = r'.get? name) : r = r' := by
  obtain ⟨types⟩ := r
  obtain ⟨types'⟩ := r'
  exact congrArg Registry.mk (SortedMap.ext_get? h)

theorem extend_empty (r : Registry) : r.extend .empty = r :=
  rfl

theorem extend_insert (r : Registry) (built : SortedMap String TypeDescriptor) (name : String)
    (d : TypeDescriptor) : r.extend (built.insert name d) = (r.extend built).insert name d := by
  refine ext_get? fun other => ?_
  rw [get?_extend, get?_insert, get?_extend, SortedMap.get?_insert]
  split_ifs <;> rfl

/-- Building beside a registry is adding one by one. -/
theorem map_extend_buildAll (r : Registry) (built : SortedMap String TypeDescriptor)
    (order : List StructDecl) :
    (r.buildAll built order).map r.extend = (r.extend built).addEach order := by
  induction order generalizing built with
  | nil => rfl
  | cons decl rest ih =>
      have hget : (fun type => built.get? type <|> r.get? type) = (r.extend built).get? := by
        funext type
        rw [get?_extend]
        cases built.get? type <;> rfl
      rw [buildAll, hget, addEach]
      cases buildStruct decl (r.extend built).get? with
      | error e => rfl
      | ok d =>
          show (r.buildAll (built.insert decl.name d) rest).map r.extend =
            ((r.extend built).insert decl.name d).addEach rest
          rw [← extend_insert, ih]

/-! ## Checking and adding a batch -/

/-- A batch is checked in three steps: its names, its order and its structs. -/
theorem build_eq (r : Registry) (mode : Redeclaration) (decls : List StructDecl) :
    r.build mode decls = r.freshDecls mode [] decls >>= fun fresh =>
      ((dependencyOrder fresh).mapError fun c => .cyclic c.name c.path) >>= r.buildAll .empty := by
  rw [build]
  refine congrArg _ (funext fun fresh => ?_)
  cases dependencyOrder fresh <;> rfl

/-- What a checked batch comes to: its new declarations, added one by one in an order of
dependency. -/
theorem build_eq_ok_iff {r : Registry} {mode : Redeclaration} {decls : List StructDecl}
    {r' : Registry} :
    (r.build mode decls).map r.extend = .ok r' ↔
      DistinctNames decls ∧ (∀ decl ∈ decls, r.Admits mode decl) ∧
        ∃ order, dependencyOrder (decls.filter r.isNew) = .ok order ∧ r.addEach order = .ok r' := by
  have hadd : ∀ order, (r.buildAll .empty order).map r.extend = r.addEach order := fun order => by
    rw [map_extend_buildAll, extend_empty]
  simp only [build_eq, map_eq_ok_iff, bind_eq_ok_iff, freshDecls_eq_ok_iff, List.not_mem_nil,
    not_false_eq_true, true_and, ← hadd]
  constructor
  · rintro ⟨built, ⟨fresh, ⟨hd, hadm, rfl⟩, order, horder, hbuilt⟩, rfl⟩
    refine ⟨hd, hadm, order, ?_, built, hbuilt, rfl⟩
    cases h : dependencyOrder (decls.filter r.isNew) with
    | ok o => simpa [h, Except.mapError] using horder
    | error c => simp [h, Except.mapError] at horder
  · rintro ⟨hd, hadm, order, horder, built, hbuilt, rfl⟩
    exact ⟨built, ⟨_, ⟨hd, hadm, rfl⟩, order, by rw [horder]; rfl, hbuilt⟩, rfl⟩

/-- A name that is declared twice or not admitted is refused before anything else. -/
theorem build_eq_duplicate {r : Registry} {mode : Redeclaration} {decls : List StructDecl}
    (h : ¬ (DistinctNames decls ∧ ∀ decl ∈ decls, r.Admits mode decl)) :
    ∃ decl ∈ decls, r.build mode decls = .error (.duplicate decl.name) := by
  cases hfresh : r.freshDecls mode [] decls with
  | ok fresh =>
      obtain ⟨hd, hadm, -⟩ := freshDecls_eq_ok_iff.1 hfresh
      exact absurd ⟨hd, fun decl hdecl => (hadm decl hdecl).2⟩ h
  | error e =>
      obtain ⟨decl, hdecl, rfl⟩ := freshDecls_eq_error hfresh
      exact ⟨decl, hdecl, by rw [build_eq, hfresh]; rfl⟩

/-- A checked batch adds its new declarations, whatever is then put beside the registry. -/
theorem WellFormed.adds_of_build {r r' : Registry} {mode : Redeclaration}
    {decls : List StructDecl} (h : r.WellFormed)
    (hb : (r.build mode decls).map r.extend = .ok r') : r.Adds (decls.filter r.isNew) r' := by
  obtain ⟨hd, -, order, horder, hadd⟩ := build_eq_ok_iff.1 hb
  have hdfresh : DistinctNames (decls.filter r.isNew) := hd.sublist List.filter_sublist
  obtain ⟨-, hperm⟩ := dependencyOrder_ok hdfresh horder
  have hadds : r.Adds order r' := by
    refine addEach_ok h ((hperm.map _).nodup_iff.2 hdfresh) (fun decl hdecl => ?_) hadd
    exact Option.isNone_iff_eq_none.1 (List.mem_filter.1 (hperm.mem_iff.1 hdecl)).2
  refine ⟨hadds.wellFormed, hadds.extends_base, fun hget => ?_, fun decl hdecl => ?_⟩
  · refine (hadds.only hget).imp id fun ⟨decl, hdecl, hname⟩ => ?_
    exact ⟨decl, hperm.mem_iff.1 hdecl, hname⟩
  · exact hadds.built decl (hperm.mem_iff.2 hdecl)

/-- The answer of a batch, put together before it is added, is that of the registry after it. -/
theorem addBatch_eq (r : Registry) (mode : Redeclaration) (decls : List StructDecl) :
    r.addBatch mode decls = r.build mode decls >>= fun built =>
      (decls.mapM fun decl => (r.extend built).lookup decl.name) >>= fun descriptors =>
        .ok (descriptors, r.extend built) := by
  simp only [addBatch, lookupBeside_eq]
  rfl

/-- Adding a batch is checking it and keeping what was built; the answer has what is then registered
under each declared name. -/
theorem addBatch_eq_ok_iff {r : Registry} {mode : Redeclaration} {decls : List StructDecl}
    {out : List TypeDescriptor × Registry} :
    r.addBatch mode decls = .ok out ↔
      (r.build mode decls).map r.extend = .ok out.2 ∧
        List.Forall₂ (fun decl d => out.2.get? decl.name = some d) decls out.1 := by
  obtain ⟨ds, r'⟩ := out
  simp only [addBatch_eq, bind_eq_ok_iff, map_eq_ok_iff, mapM_eq_ok_iff, lookup_eq_ok_iff,
    Except.ok.injEq, Prod.mk.injEq]
  constructor
  · rintro ⟨built, hb, descriptors, hds, rfl, rfl⟩
    exact ⟨⟨built, hb, rfl⟩, hds⟩
  · rintro ⟨⟨built, hb, rfl⟩, hds⟩
    exact ⟨built, hb, ds, hds, rfl, rfl⟩

theorem WellFormed.adds_of_addBatch {r : Registry} {mode : Redeclaration}
    {decls : List StructDecl} {out : List TypeDescriptor × Registry} (h : r.WellFormed)
    (hb : r.addBatch mode decls = .ok out) : r.Adds (decls.filter r.isNew) out.2 :=
  h.adds_of_build (addBatch_eq_ok_iff.1 hb).1

/-- Every declaration of a checked batch is registered in the end as it is declared. -/
theorem WellFormed.registered_of_build {r r' : Registry} {mode : Redeclaration}
    {decls : List StructDecl} (h : r.WellFormed)
    (hb : (r.build mode decls).map r.extend = .ok r') :
    ∀ decl ∈ decls, ∃ d, r'.get? decl.name = some d ∧ d.matchesDecl decl = true := by
  intro decl hdecl
  have hadds := h.adds_of_build hb
  obtain ⟨-, hadm, -⟩ := build_eq_ok_iff.1 hb
  cases hget : r.get? decl.name with
  | some d => exact ⟨d, hadds.extends_base _ _ hget, (hadm decl hdecl d hget).2⟩
  | none =>
      have hnew : decl ∈ decls.filter r.isNew :=
        List.mem_filter.2 ⟨hdecl, Option.isNone_iff_eq_none.2 hget⟩
      exact hadds.registered decl hnew

/-- A batch that is checked is added: the names of the answer are all there. -/
theorem WellFormed.exists_addBatch {r r' : Registry} {mode : Redeclaration}
    {decls : List StructDecl} (h : r.WellFormed)
    (hb : (r.build mode decls).map r.extend = .ok r') :
    ∃ descriptors, r.addBatch mode decls = .ok (descriptors, r') := by
  have hthere : ∀ decl ∈ decls, ∃ d, r'.get? decl.name = some d := by
    intro decl hdecl
    obtain ⟨d, hd, -⟩ := h.registered_of_build hb decl hdecl
    exact ⟨d, hd⟩
  obtain ⟨descriptors, hds⟩ := exists_forall₂ hthere
  exact ⟨descriptors, addBatch_eq_ok_iff.2 ⟨hb, hds⟩⟩

end Registry

/-! ## Runs -/

/-- An operation on a registry. -/
inductive RegistryRequest where
  | registerStruct (name : String) (size : UInt32) (fields : List FieldDecl)
  | register (decls : List StructDecl)
  | declare (decls : List StructDecl)
  | stage (decls : List StructDecl)
  | commit (staged : Staged)

namespace Registry

/-- The registry after an operation that answers with one, or as it was when that fails. -/
def orKept (r : Registry) {α : Type} : Except RegistryError (α × Registry) → Registry
  | .ok (_, r') => r'
  | .error _ => r

/-- The registry after an operation, whether it succeeds or fails. -/
def after (r : Registry) : RegistryRequest → Registry
  | .registerStruct name size fields => r.orKept (r.register [⟨name, size, fields⟩])
  | .register decls => r.orKept (r.register decls)
  | .declare decls => r.orKept (r.declare decls)
  | .stage _ => r
  | .commit staged => r.orKept (r.commit staged)

/-- The registry after a run of operations. -/
def afterAll (r : Registry) (requests : List RegistryRequest) : Registry :=
  requests.foldl after r

/-- What holds of a registry and after every batch added to it holds after every operation. -/
theorem after_induction {r : Registry} {P : Registry → Prop} (hr : P r)
    (hadd : ∀ mode decls out, r.addBatch mode decls = .ok out → P out.2)
    (request : RegistryRequest) : P (r.after request) := by
  have hkept : ∀ mode decls, P (r.orKept (r.addBatch mode decls)) := by
    intro mode decls
    cases h : r.addBatch mode decls with
    | ok out => exact hadd mode decls out h
    | error e => exact hr
  cases request with
  | registerStruct name size fields => exact hkept _ _
  | register decls => exact hkept _ _
  | declare decls => exact hkept _ _
  | stage decls => exact hr
  | commit staged => exact hkept _ _

theorem WellFormed.after {r : Registry} (h : r.WellFormed) (request : RegistryRequest) :
    (r.after request).WellFormed ∧ r.Extends (r.after request) := by
  refine after_induction (P := fun r' => r'.WellFormed ∧ r.Extends r') ⟨h, .refl r⟩ ?_ request
  intro mode decls out hout
  have hadds := h.adds_of_addBatch hout
  exact ⟨hadds.wellFormed, hadds.extends_base⟩

theorem WellFormed.afterAll {r : Registry} (h : r.WellFormed) (requests : List RegistryRequest) :
    (r.afterAll requests).WellFormed ∧ r.Extends (r.afterAll requests) := by
  induction requests generalizing r with
  | nil => exact ⟨h, .refl r⟩
  | cons request rest ih =>
      obtain ⟨hwf, hext⟩ := h.after request
      obtain ⟨hwf', hext'⟩ := ih hwf
      exact ⟨hwf', hext.trans hext'⟩

/-- Every registry that a run reaches is well-formed. -/
theorem wellFormed_afterAll (requests : List RegistryRequest) :
    (primitives.afterAll requests).WellFormed :=
  (wellFormed_primitives.afterAll requests).1

/-- In every registry that a run reaches, each entry stands under its own name and is the primitive
type of that name or a struct.  The fields of a struct have different names and stand apart from one
another inside it, their types take some bytes and are what the registry itself holds under their
names, and none of the types it embeds has its name. -/
theorem afterAll_layout (requests : List RegistryRequest) :
    (∀ p : Primitive, (primitives.afterAll requests).get? p.name = some (.primitive p)) ∧
      ∀ name d, (primitives.afterAll requests).get? name = some d → d.name = name ∧
        ((∃ p : Primitive, p.name = name ∧ d = .primitive p) ∨
          ∃ size fields, d = .struct name size fields ∧ (fields.map Field.name).Nodup ∧
            (∀ f ∈ fields, f.type.size ≠ 0 ∧
              (primitives.afterAll requests).get? f.type.name = some f.type) ∧
            (fields.Pairwise fun f g =>
              f.offset.toNat + f.type.size.toNat ≤ g.offset.toNat) ∧
            (∀ f ∈ fields, f.offset.toNat + f.type.size.toNat ≤ size.toNat) ∧
            ∀ e, d.Embeds e → e.name ≠ name) := by
  have hwf := wellFormed_afterAll requests
  refine ⟨hwf.primitive, fun name d hd => ⟨hwf.named hd, ?_⟩⟩
  cases d with
  | primitive p => exact .inl ⟨p, hwf.named hd, rfl⟩
  | struct n size fields =>
      obtain rfl : n = name := hwf.named hd
      have hlaid : FieldsLaidOut size fields := hwf.laid_out hd
      refine .inr ⟨size, fields, rfl, hlaid.names_nodup, fun f hf => ?_, hlaid.apart, hlaid.inside,
        fun e he => hwf.name_ne_of_embeds hd he⟩
      exact ⟨hlaid.size_ne_zero f hf, hwf.closed hd f hf⟩

/-- A batch in which a struct embeds one that is declared after it. -/
def pairBatch : List StructDecl :=
  [⟨"pair", 24, [⟨"left", 0, "label"⟩, ⟨"right", 12, "label"⟩]⟩,
    ⟨"label", 12, [⟨"text", 0, "string"⟩, ⟨"id", 8, "u32"⟩]⟩]

/-- The structs of `pairBatch`. -/
def labelType : TypeDescriptor :=
  .struct "label" 12 [⟨"text", 0, .primitive .string⟩, ⟨"id", 8, .primitive .u32⟩]

@[inherit_doc labelType]
def pairType : TypeDescriptor :=
  .struct "pair" 24 [⟨"left", 0, labelType⟩, ⟨"right", 12, labelType⟩]

/-- The batch is registered, and then a struct that needs itself is refused. -/
def pairRequests : List RegistryRequest :=
  [.register pairBatch, .registerStruct "loop" 4 [⟨"next", 0, "loop"⟩]]

theorem afterAll_layout_pair :
    (primitives.afterAll pairRequests).get? "pair" = some pairType ∧ pairType.name = "pair" ∧
      ∀ e, pairType.Embeds e → e.name ≠ "pair" := by
  have hget : (primitives.afterAll pairRequests).get? "pair" = some pairType := by cbv
  obtain ⟨hname, ⟨p, -, hp⟩ | ⟨size, fields, -, -, -, -, -, hembeds⟩⟩ :=
    (afterAll_layout pairRequests).2 "pair" pairType hget
  · exact TypeDescriptor.noConfusion hp
  · exact ⟨hget, hname, hembeds⟩

end Registry

end GuestBridge
