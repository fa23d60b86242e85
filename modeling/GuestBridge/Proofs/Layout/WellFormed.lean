import GuestBridge.Proofs.Layout.Build
import GuestBridge.Proofs.SortedMap

/-!
# Well-formed registries

`Registry.WellFormed` is what every registry keeps: entries stand under their own names, the
primitive types are there, and the field types of each struct are laid out and registered themselves
(`closed`).  As descriptors are finite, no struct of such a registry embeds its own name
(`WellFormed.name_ne_of_embeds`), and two such registries in which structs of one name are declared
alike agree all the way down (`WellFormed.agree`).

Adding a batch comes to adding its new structs one by one (`Registry.addEach`), and what that makes
of a registry is told by `Registry.Adds`.
-/

namespace GuestBridge

namespace TypeDescriptor

/-- `e` is the type of a field of `d`. -/
def HasFieldType (d e : TypeDescriptor) : Prop :=
  ∃ f ∈ d.fields, f.type = e

/-- `e` is the type of a field of `d`, or of a field of such a type, and so on. -/
def Embeds : TypeDescriptor → TypeDescriptor → Prop :=
  Relation.TransGen HasFieldType

theorem HasFieldType.sizeOf_lt {d e : TypeDescriptor} (h : d.HasFieldType e) :
    sizeOf e < sizeOf d := by
  obtain ⟨f, hf, rfl⟩ := h
  cases d with
  | primitive p => simp [fields] at hf
  | struct name size fields =>
      have hlist : sizeOf f < sizeOf fields := List.sizeOf_lt_of_mem hf
      obtain ⟨fname, offset, type⟩ := f
      simp only [Field.mk.sizeOf_spec, TypeDescriptor.struct.sizeOf_spec] at hlist ⊢
      omega

theorem Embeds.sizeOf_lt {d e : TypeDescriptor} (h : d.Embeds e) : sizeOf e < sizeOf d := by
  induction h with
  | single h => exact h.sizeOf_lt
  | tail _ h ih => exact Nat.lt_trans h.sizeOf_lt ih

theorem eq_of_isStruct {d e : TypeDescriptor} (hd : d.isStruct = true) (he : e.isStruct = true)
    (hname : d.name = e.name) (hsize : d.size = e.size) (hfields : d.fields = e.fields) :
    d = e := by
  cases d with
  | primitive p => simp [isStruct] at hd
  | struct name size fields =>
      cases e with
      | primitive p => simp [isStruct] at he
      | struct name' size' fields' => exact congr (congr (congrArg _ hname) hsize) hfields

/-- Fields declared alike are equal once types of one name are. -/
theorem fields_eq_of_declared_alike {fs gs : List FieldDescriptor}
    (h : fs.map FieldDecl.ofDescriptor = gs.map FieldDecl.ofDescriptor)
    (htype : ∀ f ∈ fs, ∀ g ∈ gs, f.type.name = g.type.name → f.type = g.type) : fs = gs := by
  induction fs generalizing gs with
  | nil => exact (List.map_eq_nil_iff.1 h.symm).symm
  | cons f fs ih =>
      cases gs with
      | nil => simp at h
      | cons g gs =>
          rw [List.map_cons, List.map_cons, List.cons.injEq] at h
          obtain ⟨hhead, htail⟩ := h
          rw [FieldDecl.ofDescriptor, FieldDecl.ofDescriptor, Field.mk.injEq] at hhead
          obtain ⟨hname, hoffset, htypename⟩ := hhead
          have hft := htype f List.mem_cons_self g List.mem_cons_self htypename
          obtain ⟨fname, foffset, ftype⟩ := f
          obtain ⟨gname, goffset, gtype⟩ := g
          obtain rfl : fname = gname := hname
          obtain rfl : foffset = goffset := hoffset
          obtain rfl : ftype = gtype := hft
          refine congrArg _ (ih htail fun f hf g hg => ?_)
          exact htype f (List.mem_cons_of_mem _ hf) g (List.mem_cons_of_mem _ hg)

end TypeDescriptor

namespace Registry

/-! ## The invariant -/

/-- Entries stand under their own names, the primitive types are there, and the fields of each entry
are laid out and of registered types. -/
structure WellFormed (r : Registry) : Prop where
  named : ∀ {name d}, r.get? name = some d → d.name = name
  primitive : ∀ p : Primitive, r.get? p.name = some (.primitive p)
  laid_out : ∀ {name d}, r.get? name = some d → FieldsLaidOut d.size d.fields
  closed : ∀ {name d}, r.get? name = some d → ∀ f ∈ d.fields, r.get? f.type.name = some f.type

theorem lookup_eq_ok_iff {r : Registry} {name : String} {d : TypeDescriptor} :
    r.lookup name = .ok d ↔ r.get? name = some d := by
  rw [lookup]
  cases r.get? name <;> simp

theorem lookup_of_get?_eq_none {r : Registry} {name : String} (h : r.get? name = none) :
    r.lookup name = .error (.notFound name) := by
  rw [lookup, h]

theorem wellFormed_primitives : primitives.WellFormed := by
  have hget : ∀ {name d}, primitives.get? name = some d → ∃ p : Primitive,
      p.name = name ∧ d = .primitive p := by
    intro name d h
    obtain ⟨p, -, hp⟩ := List.mem_map.1 (SortedMap.mem_of_get?_ofList h)
    exact ⟨p, congrArg Prod.fst hp, (congrArg Prod.snd hp).symm⟩
  refine ⟨fun h => ?_, fun p => ?_, fun h => ?_, fun h => ?_⟩
  · obtain ⟨p, rfl, rfl⟩ := hget h
    rfl
  · cases p <;> rfl
  · obtain ⟨p, rfl, rfl⟩ := hget h
    exact fieldsLaidOut_nil _
  · obtain ⟨p, rfl, rfl⟩ := hget h
    simp [TypeDescriptor.fields]

/-- What a registered type embeds is registered under its own name. -/
theorem WellFormed.get?_of_embeds {r : Registry} (h : r.WellFormed) {name : String}
    {d e : TypeDescriptor} (hd : r.get? name = some d) (he : d.Embeds e) :
    r.get? e.name = some e := by
  induction he with
  | single hf =>
      obtain ⟨f, hf, rfl⟩ := hf
      exact h.closed hd f hf
  | tail _ hf ih =>
      obtain ⟨f, hf, rfl⟩ := hf
      exact h.closed ih f hf

/-- No registered type embeds a type of its own name. -/
theorem WellFormed.name_ne_of_embeds {r : Registry} (h : r.WellFormed) {name : String}
    {d e : TypeDescriptor} (hd : r.get? name = some d) (he : d.Embeds e) : e.name ≠ name := by
  intro hname
  have hsame : some e = some d := by rw [← h.get?_of_embeds hd he, hname, hd]
  have hlt := he.sizeOf_lt
  rw [Option.some.inj hsame] at hlt
  exact Nat.lt_irrefl _ hlt

/-- Two registries agree on a name in both when structs of one name are declared alike in them: the
field types are told by their names, so the agreement goes all the way down. -/
theorem WellFormed.agree {r₁ r₂ : Registry} (h₁ : r₁.WellFormed) (h₂ : r₂.WellFormed)
    (hdecl : ∀ {name d₁ d₂}, r₁.get? name = some d₁ → r₂.get? name = some d₂ →
      d₁ = d₂ ∨ ∃ decl, d₁.matchesDecl decl = true ∧ d₂.matchesDecl decl = true)
    {name : String} {d₁ d₂ : TypeDescriptor} (hd₁ : r₁.get? name = some d₁)
    (hd₂ : r₂.get? name = some d₂) : d₁ = d₂ := by
  induction hsize : sizeOf d₁ using Nat.strong_induction_on generalizing name d₁ d₂ with
  | _ n ih =>
    rcases hdecl hd₁ hd₂ with heq | ⟨decl, hm₁, hm₂⟩
    · exact heq
    obtain ⟨hs₁, hsize₁, hf₁⟩ := TypeDescriptor.matchesDecl_iff.1 hm₁
    obtain ⟨hs₂, hsize₂, hf₂⟩ := TypeDescriptor.matchesDecl_iff.1 hm₂
    have hname : d₁.name = d₂.name := (h₁.named hd₁).trans (h₂.named hd₂).symm
    refine TypeDescriptor.eq_of_isStruct hs₁ hs₂ hname (hsize₁.trans hsize₂.symm) ?_
    refine TypeDescriptor.fields_eq_of_declared_alike (hf₁.trans hf₂.symm) ?_
    intro f hf g hg htype
    have hlt : sizeOf f.type < n := hsize ▸ TypeDescriptor.HasFieldType.sizeOf_lt ⟨f, hf, rfl⟩
    exact ih _ hlt (h₁.closed hd₁ f hf) (htype ▸ h₂.closed hd₂ g hg) rfl

/-! ## Growth -/

/-- Every registered name keeps its descriptor. -/
def Extends (r r' : Registry) : Prop :=
  ∀ name d, r.get? name = some d → r'.get? name = some d

theorem Extends.refl (r : Registry) : r.Extends r :=
  fun _ _ h => h

theorem Extends.trans {r₁ r₂ r₃ : Registry} (h : r₁.Extends r₂) (h' : r₂.Extends r₃) :
    r₁.Extends r₃ :=
  fun name d hd => h' name d (h name d hd)

/-- The registry with a descriptor under a name. -/
def insert (r : Registry) (name : String) (d : TypeDescriptor) : Registry :=
  ⟨r.types.insert name d⟩

theorem get?_insert (r : Registry) (name other : String) (d : TypeDescriptor) :
    (r.insert name d).get? other = if name = other then some d else r.get? other :=
  SortedMap.get?_insert r.types name other d

theorem extends_insert {r : Registry} {name : String} (hnew : r.get? name = none)
    (d : TypeDescriptor) : r.Extends (r.insert name d) := by
  intro other e he
  have hne : name ≠ other := by
    rintro rfl
    simp [hnew] at he
  rw [get?_insert, if_neg hne, he]

/-- A struct under a new name whose fields are laid out and of registered types keeps the
invariant. -/
theorem WellFormed.insert {r : Registry} (h : r.WellFormed) {d : TypeDescriptor}
    (hnew : r.get? d.name = none) (hlaid : FieldsLaidOut d.size d.fields)
    (hclosed : ∀ f ∈ d.fields, r.get? f.type.name = some f.type) :
    (r.insert d.name d).WellFormed := by
  have hext := extends_insert hnew d
  have hcases : ∀ {name e}, (r.insert d.name d).get? name = some e →
      (name = d.name ∧ e = d) ∨ r.get? name = some e := by
    intro name e he
    rw [get?_insert] at he
    split_ifs at he with hname
    · exact .inl ⟨hname.symm, (Option.some.inj he).symm⟩
    · exact .inr he
  refine ⟨fun he => ?_, fun p => hext _ _ (h.primitive p), fun he => ?_, fun he f hf => ?_⟩
  · rcases hcases he with ⟨rfl, rfl⟩ | he
    · rfl
    · exact h.named he
  · rcases hcases he with ⟨rfl, rfl⟩ | he
    · exact hlaid
    · exact h.laid_out he
  · rcases hcases he with ⟨rfl, rfl⟩ | he
    · exact hext _ _ (hclosed f hf)
    · exact hext _ _ (h.closed he f hf)

/-! ## Adding structs one by one -/

/-- Adds structs one after the other, each built against the registry so far. -/
def addEach (r : Registry) : List StructDecl → Except RegistryError Registry
  | [] => .ok r
  | decl :: rest =>
      match buildStruct decl r.get? with
      | .ok d => (r.insert decl.name d).addEach rest
      | .error e => .error e

/-- `r'` is `r` with the structs of `decls`, all of whose names are new to it. -/
structure Adds (r : Registry) (decls : List StructDecl) (r' : Registry) : Prop where
  wellFormed : r'.WellFormed
  extends_base : r.Extends r'
  only : ∀ {name d}, r'.get? name = some d →
    r.get? name = some d ∨ ∃ decl ∈ decls, decl.name = name
  built : ∀ decl ∈ decls, ∃ d, r'.get? decl.name = some d ∧ buildStruct decl r'.get? = .ok d

/-- What is added is registered as it is declared. -/
theorem Adds.registered {r r' : Registry} {decls : List StructDecl} (h : r.Adds decls r') :
    ∀ decl ∈ decls, ∃ d, r'.get? decl.name = some d ∧ d.matchesDecl decl = true := by
  intro decl hdecl
  obtain ⟨d, hd, hbuild⟩ := h.built decl hdecl
  obtain ⟨fields, rfl, hres, -⟩ := buildStruct_eq_ok_iff.1 hbuild
  have hfields := (forall₂_resolvesTo_iff fun _ _ => h.wellFormed.named).1 hres
  exact ⟨_, hd, TypeDescriptor.matchesDecl_iff.2 ⟨rfl, rfl, hfields.1⟩⟩

theorem WellFormed.adds_nil {r : Registry} (h : r.WellFormed) : r.Adds [] r :=
  ⟨h, .refl r, fun hd => .inl hd, by simp⟩

/-- A struct that is built against a well-formed registry may join it. -/
theorem WellFormed.adds_cons {r r' : Registry} (h : r.WellFormed) {decl : StructDecl}
    {rest : List StructDecl} {d : TypeDescriptor} (hnew : r.get? decl.name = none)
    (hd : buildStruct decl r.get? = .ok d)
    (hrest : (r.insert decl.name d).WellFormed → (r.insert decl.name d).Adds rest r') :
    r.Adds (decl :: rest) r' := by
  have hnamed : ∀ name type, r.get? name = some type → type.name = name := fun _ _ => h.named
  obtain ⟨fields, rfl, hres, hlaid⟩ := buildStruct_eq_ok_iff.1 hd
  have hclosed := ((forall₂_resolvesTo_iff hnamed).1 hres).2
  have hadds := hrest (h.insert (d := .struct decl.name decl.size fields) hnew hlaid hclosed)
  have hext := extends_insert hnew (.struct decl.name decl.size fields)
  have hself := get?_insert r decl.name decl.name (.struct decl.name decl.size fields)
  rw [if_pos rfl] at hself
  refine ⟨hadds.wellFormed, hext.trans hadds.extends_base, fun {name e} he => ?_, ?_⟩
  · rcases hadds.only he with hold | ⟨decl', hdecl', hname⟩
    · rw [get?_insert] at hold
      split_ifs at hold with hname
      · exact .inr ⟨decl, List.mem_cons_self, hname⟩
      · exact .inl hold
    · exact .inr ⟨decl', List.mem_cons_of_mem _ hdecl', hname⟩
  · refine List.forall_mem_cons.2 ⟨⟨_, hadds.extends_base _ _ hself, ?_⟩, hadds.built⟩
    refine buildStruct_mono (fun f _ type htype => ?_) hd
    exact hadds.extends_base _ _ (hext _ _ htype)

/-- Structs of different new names, added one by one. -/
theorem addEach_ok {r r' : Registry} {decls : List StructDecl} (h : r.WellFormed)
    (hd : DistinctNames decls) (hnew : ∀ decl ∈ decls, r.get? decl.name = none)
    (hok : r.addEach decls = .ok r') : r.Adds decls r' := by
  induction decls generalizing r with
  | nil =>
      obtain rfl : r = r' := by simpa [addEach] using hok
      exact h.adds_nil
  | cons decl rest ih =>
      rw [addEach] at hok
      split at hok
      · rename_i d hbuild
        rw [DistinctNames, List.map_cons, List.nodup_cons] at hd
        refine h.adds_cons (hnew decl List.mem_cons_self) hbuild fun hwf => ?_
        refine ih hwf hd.2 (fun e he => ?_) hok
        have hne : decl.name ≠ e.name := fun heq => hd.1 (heq ▸ List.mem_map_of_mem he)
        rw [get?_insert, if_neg hne]
        exact hnew e (List.mem_cons_of_mem _ he)
      · simp at hok

end Registry

end GuestBridge
