import GuestBridge.Layout.Declaration
import Mathlib.Data.List.Chain
import Mathlib.Data.List.Nodup
import Mathlib.Logic.Relation

/-!
# The order of dependency is a topological sort

`Refers decls a b` says that the declaration of `a` among `decls` has a field of the type `b`, and
`Settled decls order` that `order` holds declarations of `decls`, each once and after all of `decls`
that its fields name.  The walk keeps `Settled` (`visitDecl_ok`), and where it stops, what it has
walked through is a cycle of references (`visitDecl_error`).  So `dependencyOrder` answers with a
settled permutation (`dependencyOrder_ok`) or with a genuine cycle (`dependencyOrder_error`), and
the two exclude each other (`Settled.not_transGen`).
-/

namespace GuestBridge

/-- The declaration of `a` among `decls` has a field of the type `b`. -/
def Refers (decls : List StructDecl) (a b : String) : Prop :=
  ∃ d ∈ decls, d.name = a ∧ ∃ f ∈ d.fields, f.type = b

/-- The declarations are told apart by their names. -/
def DistinctNames (decls : List StructDecl) : Prop :=
  (decls.map StructDecl.name).Nodup

theorem DistinctNames.eq_of_name {decls : List StructDecl} (h : DistinctNames decls)
    {d e : StructDecl} (hd : d ∈ decls) (he : e ∈ decls) (hn : d.name = e.name) : d = e :=
  List.inj_on_of_nodup_map h hd he hn

theorem DistinctNames.nodup {decls : List StructDecl} (h : DistinctNames decls) : decls.Nodup :=
  List.Nodup.of_map _ h

theorem DistinctNames.sublist {part decls : List StructDecl} (h : DistinctNames decls)
    (hs : part.Sublist decls) : DistinctNames part :=
  List.Nodup.sublist (hs.map _) h

/-! ## Settled orders -/

/-- `order` holds some of `decls`, each once and after those of `decls` its fields name. -/
structure Settled (decls order : List StructDecl) : Prop where
  subset : order ⊆ decls
  nodup : order.Nodup
  needs_before : ∀ {before d after}, order = before ++ d :: after →
    ∀ f ∈ d.fields, ∀ e ∈ decls, e.name = f.type → e ∈ before

theorem settled_nil (decls : List StructDecl) : Settled decls [] where
  subset := List.nil_subset _
  nodup := List.nodup_nil
  needs_before h := by simp at h

/-- A declaration may follow once all that its fields name is there. -/
theorem Settled.snoc {decls order : List StructDecl} {d : StructDecl} (h : Settled decls order)
    (hd : d ∈ decls) (hnew : d ∉ order)
    (hneeds : ∀ f ∈ d.fields, ∀ e ∈ decls, e.name = f.type → e ∈ order) :
    Settled decls (order ++ [d]) where
  subset := by simpa using ⟨h.subset, hd⟩
  nodup := by
    refine List.nodup_append.2 ⟨h.nodup, List.nodup_singleton d, ?_⟩
    rintro a ha b hb rfl
    exact hnew (List.mem_singleton.1 hb ▸ ha)
  needs_before := by
    intro before e after heq f hf need hneed hname
    rcases List.eq_nil_or_concat after with rfl | ⟨after, last, rfl⟩
    · obtain ⟨rfl, he⟩ := List.append_inj' heq rfl
      obtain rfl : d = e := by simpa using he
      exact hneeds f hf need hneed hname
    · have heq : order ++ [d] = (before ++ e :: after) ++ [last] := by simpa using heq
      exact h.needs_before (List.append_inj' heq rfl).1 f hf need hneed hname

/-- Along a settled order that holds all of `decls`, references lead strictly backwards. -/
theorem Settled.idxOf_lt {decls order : List StructDecl} (h : Settled decls order)
    (hd : DistinctNames decls) (hall : decls ⊆ order) {a b : String} (hr : Refers decls a b)
    (hb : b ∈ decls.map StructDecl.name) :
    (order.map StructDecl.name).idxOf b < (order.map StructDecl.name).idxOf a := by
  obtain ⟨d, hdm, rfl, f, hf, rfl⟩ := hr
  obtain ⟨e, he, hef⟩ := List.mem_map.1 hb
  obtain ⟨before, after, heq⟩ := List.append_of_mem (hall hdm)
  have hbefore : e ∈ before := h.needs_before heq f hf e he hef
  have hnot : d.name ∉ before.map StructDecl.name := by
    intro hm
    obtain ⟨d', hd', hname⟩ := List.mem_map.1 hm
    have hmem : d' ∈ order := by simp [heq, hd']
    obtain rfl := hd.eq_of_name (h.subset hmem) hdm hname
    have := h.nodup
    rw [heq, List.nodup_append] at this
    exact this.2.2 d' hd' d' List.mem_cons_self rfl
  have hat : (order.map StructDecl.name).idxOf d.name = before.length := by
    rw [heq, List.map_append, List.map_cons, List.idxOf_append_of_notMem hnot,
      List.idxOf_cons_self, List.length_map, Nat.add_zero]
  have hmem : f.type ∈ before.map StructDecl.name := List.mem_map.2 ⟨e, hbefore, hef⟩
  rw [hat, heq, List.map_append, List.idxOf_append_of_mem hmem]
  simpa using List.idxOf_lt_length_of_mem hmem

/-- References among the names of `decls`. -/
def RefersWithin (decls : List StructDecl) (a b : String) : Prop :=
  Refers decls a b ∧ b ∈ decls.map StructDecl.name

/-- Nothing in a settled order needs itself. -/
theorem Settled.not_transGen {decls order : List StructDecl} (h : Settled decls order)
    (hd : DistinctNames decls) (hall : decls ⊆ order) (a : String) :
    ¬ Relation.TransGen (RefersWithin decls) a a := by
  have lt : ∀ {a b}, Relation.TransGen (RefersWithin decls) a b →
      (order.map StructDecl.name).idxOf b < (order.map StructDecl.name).idxOf a := by
    intro a b hab
    induction hab with
    | single hr => exact h.idxOf_lt hd hall hr.1 hr.2
    | tail _ hr ih => exact Nat.lt_trans (h.idxOf_lt hd hall hr.1 hr.2) ih
  intro ha
  exact Nat.lt_irrefl _ (lt ha)

/-! ## The walk -/

theorem findDecl_eq_some {decls : List StructDecl} {name : String} {d : StructDecl}
    (h : findDecl decls name = some d) : d ∈ decls ∧ d.name = name :=
  ⟨List.mem_of_find?_eq_some h, by simpa using List.find?_some h⟩

theorem findDecl_eq_none_iff {decls : List StructDecl} {name : String} :
    findDecl decls name = none ↔ ∀ d ∈ decls, d.name ≠ name := by
  simp [findDecl]

/-- Those among `decls` that are not under way are `remaining`. -/
structure UnderWay (decls remaining : List StructDecl) (path : List String) : Prop where
  subset : remaining ⊆ decls
  mem_or : ∀ d ∈ decls, d ∈ remaining ∨ d.name ∈ path

theorem underWay_start (decls : List StructDecl) : UnderWay decls decls [] :=
  ⟨List.Subset.refl _, fun _ hd => .inl hd⟩

theorem UnderWay.enter {decls remaining : List StructDecl} {path : List String}
    (h : UnderWay decls remaining path) (name : String) :
    UnderWay decls (withoutDecl remaining name) (path ++ [name]) where
  subset d hd := h.subset (List.mem_filter.1 hd).1
  mem_or d hd := by
    by_cases hn : d.name = name
    · simp [hn]
    · rcases h.mem_or d hd with hr | hp
      · exact .inl (List.mem_filter.2 ⟨hr, by simpa using hn⟩)
      · simp [hp]

/-- From `order` the walk has gone on to `order'`, taking from `remaining` only. -/
structure Advance (decls remaining order order' : List StructDecl) : Prop where
  settled : Settled decls order'
  keeps : order ⊆ order'
  takes : ∀ d ∈ order', d ∈ order ∨ d ∈ remaining

theorem Settled.advance {decls remaining order : List StructDecl} (h : Settled decls order) :
    Advance decls remaining order order :=
  ⟨h, List.Subset.refl _, fun _ hd => .inl hd⟩

theorem Advance.trans {decls remaining order₁ order₂ order₃ : List StructDecl}
    (h : Advance decls remaining order₁ order₂) (h' : Advance decls remaining order₂ order₃) :
    Advance decls remaining order₁ order₃ where
  settled := h'.settled
  keeps := List.Subset.trans h.keeps h'.keeps
  takes d hd := (h'.takes d hd).elim (h.takes d) .inr

/-- Leaving a declaration puts it behind everything its fields need. -/
theorem Advance.leave {decls remaining order order' : List StructDecl} {d : StructDecl}
    (h : Advance decls (withoutDecl remaining d.name) order order') (hd : d ∈ decls)
    (hr : d ∈ remaining) (hnew : d ∉ order)
    (hneeds : ∀ f ∈ d.fields, ∀ e ∈ decls, e.name = f.type → e ∈ order') :
    Advance decls remaining order (order' ++ [d]) where
  settled := by
    refine h.settled.snoc hd (fun hm => ?_) hneeds
    rcases h.takes d hm with ho | hw
    · exact hnew ho
    · simp [withoutDecl] at hw
  keeps e he := List.mem_append_left _ (h.keeps he)
  takes e he := by
    rcases List.mem_append.1 he with he | he
    · exact (h.takes e he).imp id fun hw => (List.mem_filter.1 hw).1
    · exact .inr (List.mem_singleton.1 he ▸ hr)

mutual

/-- A visit that succeeds leaves the declaration of the name in a settled order. -/
theorem visitDecl_ok {decls remaining : List StructDecl} {path : List String}
    {order order' : List StructDecl} {name : String} (hd : DistinctNames decls)
    (hu : UnderWay decls remaining path) (hs : Settled decls order)
    (h : visitDecl remaining path order name = .ok order') :
    Advance decls remaining order order' ∧ ∀ e ∈ decls, e.name = name → e ∈ order' := by
  unfold visitDecl at h
  split at h
  · rename_i hdone
    obtain rfl : order = order' := by simpa using h
    obtain ⟨d, hdm, hdn⟩ := List.any_eq_true.1 hdone
    refine ⟨hs.advance, fun e he hen => ?_⟩
    have hdn' : d.name = name := by simpa using hdn
    obtain rfl := hd.eq_of_name (hs.subset hdm) he (hdn'.trans hen.symm)
    exact hdm
  · rename_i hnew
    split at h
    · simp at h
    · rename_i hpath
      split at h
      · rename_i hnone
        obtain rfl : order = order' := by simpa using h
        refine ⟨hs.advance, fun e he hen => ?_⟩
        rcases hu.mem_or e he with hr | hp
        · exact absurd hen (findDecl_eq_none_iff.1 hnone e hr)
        · exact absurd (hen ▸ hp) hpath
      · rename_i d hfind
        obtain ⟨hr, rfl⟩ := findDecl_eq_some hfind
        have hdm : d ∈ decls := hu.subset hr
        split at h
        · rename_i reached hfields
          obtain rfl : reached ++ [d] = order' := by simpa using h
          obtain ⟨hadv, hneeds⟩ := visitFields_ok hd (hu.enter d.name) hs hfields
          have hd' : d ∉ order := fun hm => hnew (List.any_eq_true.2 ⟨d, hm, by simp⟩)
          refine ⟨hadv.leave hdm hr hd' hneeds, fun e he hen => ?_⟩
          simp [hd.eq_of_name he hdm hen]
        · simp at h
termination_by (remaining.length, 0)
decreasing_by exact Prod.Lex.left _ _ (length_withoutDecl_lt (by assumption))

/-- Visiting the types of fields leaves all of them that are declared in a settled order. -/
theorem visitFields_ok {decls remaining : List StructDecl} {path : List String}
    {order order' : List StructDecl} {fields : List FieldDecl} (hd : DistinctNames decls)
    (hu : UnderWay decls remaining path) (hs : Settled decls order)
    (h : visitFields remaining path order fields = .ok order') :
    Advance decls remaining order order' ∧
      ∀ f ∈ fields, ∀ e ∈ decls, e.name = f.type → e ∈ order' := by
  match fields with
  | [] =>
      obtain rfl : order = order' := by simpa [visitFields] using h
      exact ⟨hs.advance, by simp⟩
  | f :: rest =>
      unfold visitFields at h
      split at h
      · rename_i reached hfirst
        obtain ⟨hadv, hneed⟩ := visitDecl_ok hd hu hs hfirst
        obtain ⟨hadv', hneeds⟩ := visitFields_ok hd hu hadv.settled h
        refine ⟨hadv.trans hadv', ?_⟩
        intro g hg e he hen
        rcases List.mem_cons.1 hg with rfl | hg
        · exact hadv'.keeps (hneed e he hen)
        · exact hneeds g hg e he hen
      · simp at h
termination_by (remaining.length, fields.length + 1)
decreasing_by
  · exact Prod.Lex.right _ (Nat.succ_pos _)
  · exact Prod.Lex.right _ (Nat.lt_succ_self _)

end

/-- Walking from each of some declarations in turn leaves all of them in a settled order. -/
theorem foldlM_visitDecl_ok {decls : List StructDecl} (hd : DistinctNames decls) :
    ∀ {starts order order' : List StructDecl}, starts ⊆ decls → Settled decls order →
      starts.foldlM (fun order d => visitDecl decls [] order d.name) order = .ok order' →
      Advance decls decls order order' ∧ starts ⊆ order'
  | [], order, order', _, hs, h => by
      obtain rfl : order = order' := by simpa [pure, Except.pure] using h
      exact ⟨hs.advance, List.nil_subset _⟩
  | d :: starts, order, order', hsub, hs, h => by
      rw [List.foldlM_cons] at h
      cases hv : visitDecl decls [] order d.name with
      | error c => simp [hv, bind, Except.bind] at h
      | ok reached =>
          rw [hv] at h
          obtain ⟨hadv, hmem⟩ := visitDecl_ok hd (underWay_start decls) hs hv
          obtain ⟨hadv', hrest⟩ := foldlM_visitDecl_ok hd (List.subset_of_cons_subset hsub)
            hadv.settled h
          refine ⟨hadv.trans hadv', List.cons_subset.2 ⟨hadv'.keeps ?_, hrest⟩⟩
          exact hmem d (hsub List.mem_cons_self) rfl

/-- An order of dependency holds every declaration once, each after those its fields name. -/
theorem dependencyOrder_ok {decls order : List StructDecl} (hd : DistinctNames decls)
    (h : dependencyOrder decls = .ok order) : Settled decls order ∧ order.Perm decls := by
  obtain ⟨hadv, hall⟩ := foldlM_visitDecl_ok hd (List.Subset.refl _) (settled_nil decls) h
  refine ⟨hadv.settled, (List.perm_ext_iff_of_nodup hadv.settled.nodup hd.nodup).2 fun d => ?_⟩
  exact ⟨fun hm => hadv.settled.subset hm, fun hm => hall hm⟩

/-! ## Cycles -/

/-- A way along references among `decls` that returns to its start and meets no other name twice. -/
structure Cycle.Genuine (decls : List StructDecl) (c : Cycle) : Prop where
  closed : ∃ stops, c.path = (c.name :: stops) ++ [c.name] ∧ (c.name :: stops).Nodup
  declared : ∀ n ∈ c.path, n ∈ decls.map StructDecl.name
  refers : c.path.IsChain (Refers decls)

/-- A way from which the walk may go on: along references, through declared names, none twice. -/
structure Trail (decls : List StructDecl) (path : List String) : Prop where
  nodup : path.Nodup
  declared : ∀ n ∈ path, n ∈ decls.map StructDecl.name

/-- Meeting a name of the trail again closes a cycle. -/
theorem Trail.genuine {decls : List StructDecl} {path : List String} {name : String}
    (ht : Trail decls path) (hc : (path ++ [name]).IsChain (Refers decls)) (hm : name ∈ path) :
    Cycle.Genuine decls ⟨name, path.dropWhile (· ≠ name) ++ [name]⟩ := by
  have hsuffix : path.dropWhile (· ≠ name) <:+ path := List.dropWhile_suffix _
  obtain ⟨stops, hstops⟩ : ∃ stops, path.dropWhile (· ≠ name) = name :: stops := by
    obtain ⟨before, after, rfl, hnot⟩ := List.eq_append_cons_of_mem hm
    refine ⟨after, ?_⟩
    rw [List.dropWhile_append_of_pos (by
      intro a ha
      simpa using fun h : a = name => hnot (h ▸ ha))]
    simp
  have hnodup : (name :: stops).Nodup := hstops ▸ ht.nodup.sublist hsuffix.sublist
  refine ⟨⟨stops, congrArg (· ++ [name]) hstops, hnodup⟩, fun n hn => ?_, ?_⟩
  · rcases List.mem_append.1 hn with hn | hn
    · exact ht.declared n (hsuffix.subset hn)
    · exact ht.declared n (List.mem_singleton.1 hn ▸ hm)
  · obtain ⟨before, hbefore⟩ := hsuffix
    refine List.IsChain.suffix hc ⟨before, ?_⟩
    rw [← List.append_assoc, hbefore]

mutual

/-- A visit that fails has closed a cycle. -/
theorem visitDecl_error {decls remaining : List StructDecl} {path : List String}
    {order : List StructDecl} {name : String} {c : Cycle} (hsub : remaining ⊆ decls)
    (ht : Trail decls path) (hc : (path ++ [name]).IsChain (Refers decls))
    (h : visitDecl remaining path order name = .error c) : c.Genuine decls := by
  unfold visitDecl at h
  split at h
  · simp at h
  · split at h
    · rename_i hpath
      obtain rfl := Except.error.inj h
      exact ht.genuine hc hpath
    · rename_i hpath
      split at h
      · simp at h
      · rename_i d hfind
        obtain ⟨hr, rfl⟩ := findDecl_eq_some hfind
        have hdm : d ∈ decls := hsub hr
        split at h
        · simp at h
        · rename_i c' hfields
          obtain rfl := Except.error.inj h
          refine visitFields_error (fun e he => hsub (List.mem_filter.1 he).1) ?_ ?_ hfields
          · refine ⟨List.nodup_append.2 ⟨ht.nodup, List.nodup_singleton _, ?_⟩, fun n hn => ?_⟩
            · rintro a ha b hb rfl
              exact hpath (List.mem_singleton.1 hb ▸ ha)
            · rcases List.mem_append.1 hn with hn | hn
              · exact ht.declared n hn
              · exact List.mem_map.2 ⟨d, hdm, (List.mem_singleton.1 hn).symm⟩
          · intro f hf
            refine hc.append (List.isChain_singleton _) ?_
            simp only [List.getLast?_concat, Option.mem_some_iff, List.head?_cons]
            rintro a rfl b rfl
            exact ⟨d, hdm, rfl, f, hf, rfl⟩
termination_by (remaining.length, 0)
decreasing_by exact Prod.Lex.left _ _ (length_withoutDecl_lt (by assumption))

/-- Visiting the types of fields fails only by closing a cycle. -/
theorem visitFields_error {decls remaining : List StructDecl} {path : List String}
    {order : List StructDecl} {fields : List FieldDecl} {c : Cycle} (hsub : remaining ⊆ decls)
    (ht : Trail decls path) (hc : ∀ f ∈ fields, (path ++ [f.type]).IsChain (Refers decls))
    (h : visitFields remaining path order fields = .error c) : c.Genuine decls := by
  match fields with
  | [] => simp [visitFields] at h
  | f :: rest =>
      unfold visitFields at h
      split at h
      · exact visitFields_error hsub ht (fun g hg => hc g (List.mem_cons_of_mem _ hg)) h
      · rename_i c' hfirst
        obtain rfl := Except.error.inj h
        exact visitDecl_error hsub ht (hc f List.mem_cons_self) hfirst
termination_by (remaining.length, fields.length + 1)
decreasing_by
  · exact Prod.Lex.right _ (Nat.lt_succ_self _)
  · exact Prod.Lex.right _ (Nat.succ_pos _)

end

/-- What is refused for a cycle has one. -/
theorem dependencyOrder_error {decls : List StructDecl} {c : Cycle}
    (h : dependencyOrder decls = .error c) : c.Genuine decls := by
  have go : ∀ {starts order : List StructDecl},
      starts.foldlM (fun order d => visitDecl decls [] order d.name) order = .error c →
      c.Genuine decls := by
    intro starts
    induction starts with
    | nil => intro order h; simp [pure, Except.pure] at h
    | cons d starts ih =>
        intro order h
        rw [List.foldlM_cons] at h
        cases hv : visitDecl decls [] order d.name with
        | ok reached => rw [hv] at h; exact ih h
        | error c' =>
            rw [hv] at h
            obtain rfl := Except.error.inj h
            exact visitDecl_error (List.Subset.refl _) ⟨List.nodup_nil, by simp⟩
              (List.isChain_singleton _) hv
  exact go h

theorem RefersWithin.mono {part decls : List StructDecl} (hs : part ⊆ decls) {a b : String}
    (h : RefersWithin part a b) : RefersWithin decls a b := by
  obtain ⟨⟨d, hd, hrest⟩, hb⟩ := h
  exact ⟨⟨d, hs hd, hrest⟩, List.map_subset _ hs hb⟩

/-- A cycle refers from its name back to its name. -/
theorem Cycle.Genuine.transGen {decls : List StructDecl} {c : Cycle} (h : c.Genuine decls) :
    Relation.TransGen (RefersWithin decls) c.name c.name := by
  obtain ⟨stops, hpath, -⟩ := h.closed
  have hchain : c.path.IsChain (RefersWithin decls) :=
    h.refers.imp_of_mem_imp fun a b _ hb hab => ⟨hab, h.declared b hb⟩
  rw [hpath, List.cons_append, List.isChain_cons] at hchain
  obtain ⟨hhead, htail⟩ := hchain
  cases hstops : stops ++ [c.name] with
  | nil => simp at hstops
  | cons b rest =>
      rw [hstops] at hhead htail
      refine Relation.TransGen.head' (hhead b rfl) ?_
      refine List.relationReflTransGen_of_exists_isChain_cons rest htail ?_
      simp only [← hstops, List.getLast_append_singleton]

end GuestBridge
