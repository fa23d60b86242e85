import GuestBridge.Proofs.Layout.Acceptance

/-!
# The walk with marks

The search for an order of dependency may also be told with marks.  A name is unmarked, under way
or done; the names under way stand on a stack, and what is done joins the order.  `MarkedWalk.visit`
is that recursion with a limit on how deep it nests, and without an answer where the limit is met.

The marks tell no more than the path and the order do (`MarkedWalk.of`), and every level of nesting
takes one more declaration out of those that are not under way.  So the walk with marks ends, no
deeper than there are declarations, and answers as `dependencyOrder` does (`MarkedWalk.run_eq`).
-/

namespace GuestBridge

/-- How far a walk has come with a name. -/
inductive Mark where
  | visiting
  | done
  deriving DecidableEq, Repr

/-- A walk under way: its marks, the names it is visiting with the latest one last, and the
declarations it is done with. -/
structure MarkedWalk where
  marks : String → Option Mark
  stack : List String
  order : List StructDecl

namespace MarkedWalk

/-! ## Visits -/

def start : MarkedWalk :=
  ⟨fun _ => none, [], []⟩

/-- Begins with a name. -/
def enter (w : MarkedWalk) (name : String) : MarkedWalk :=
  { w with
    marks := Function.update w.marks name (some .visiting)
    stack := w.stack ++ [name] }

/-- Is done with the declaration of a name. -/
def leave (name : String) (decl : StructDecl) (w : MarkedWalk) : MarkedWalk :=
  { marks := Function.update w.marks name (some .done)
    stack := w.stack.dropLast
    order := w.order ++ [decl] }

/-- The cycle that is closed where a name is met that is being visited. -/
def cycle (w : MarkedWalk) (name : String) : Cycle :=
  ⟨name, w.stack.drop ((w.stack.findIdx? fun n => n = name).getD 0) ++ [name]⟩

/-- Visits names in order, up to the first visit that does not succeed. -/
def visitEach (visit : MarkedWalk → String → Option (Except Cycle MarkedWalk)) :
    MarkedWalk → List String → Option (Except Cycle MarkedWalk)
  | w, [] => some (.ok w)
  | w, name :: rest =>
      match visit w name with
      | some (.ok w') => visitEach visit w' rest
      | some (.error c) => some (.error c)
      | none => none

/-- Visits a name, at most so many levels deep. -/
def visit (decls : List StructDecl) : Nat → MarkedWalk → String → Option (Except Cycle MarkedWalk)
  | 0, _, _ => none
  | depth + 1, w, name =>
      match w.marks name with
      | some .done => some (.ok w)
      | some .visiting => some (.error (w.cycle name))
      | none =>
          match findDecl decls name with
          | none => some (.ok w)
          | some decl =>
              (visitEach (visit decls depth) (w.enter name) (decl.fields.map Field.type)).map
                (Except.map (leave name decl))

/-- Visits every declaration, and answers with the order in which it was done with them. -/
def run (decls : List StructDecl) (depth : Nat) : Option (Except Cycle (List StructDecl)) :=
  (visitEach (visit decls depth) start (decls.map StructDecl.name)).map (Except.map order)

/-! ## What the marks tell -/

/-- The marks of a walk that is done with `order` and visits the names on `path`. -/
def marksOf (path : List String) (order : List StructDecl) (name : String) : Option Mark :=
  if order.any fun d => d.name = name then some .done
  else if name ∈ path then some .visiting
  else none

/-- The walk that is done with `order` and visits the names on `path`. -/
def of (path : List String) (order : List StructDecl) : MarkedWalk :=
  ⟨marksOf path order, path, order⟩

variable {decls : List StructDecl} {path : List String} {order : List StructDecl} {name : String}

theorem marksOf_enter (hnew : (order.any fun d => d.name = name) = false) :
    Function.update (marksOf path order) name (some .visiting) =
      marksOf (path ++ [name]) order := by
  funext other
  by_cases hother : other = name
  · subst hother
    simp [marksOf, hnew]
  · simp [marksOf, hother]

theorem marksOf_leave {decl : StructDecl} (hname : decl.name = name) :
    Function.update (marksOf (path ++ [name]) order) name (some .done) =
      marksOf path (order ++ [decl]) := by
  funext other
  by_cases hother : other = name
  · subst hother
    simp [marksOf, hname]
  · have hne : decl.name ≠ other := fun h => hother (h.symm.trans hname)
    simp [marksOf, hother, hne]

theorem enter_of (hnew : (order.any fun d => d.name = name) = false) :
    (of path order).enter name = of (path ++ [name]) order := by
  rw [enter, of, marksOf_enter hnew]
  rfl

theorem leave_of {decl : StructDecl} (hname : decl.name = name) :
    (of (path ++ [name]) order).leave name decl = of path (order ++ [decl]) := by
  rw [leave, of, marksOf_leave hname, List.dropLast_concat]
  rfl

theorem cycle_of (hmem : name ∈ path) :
    (of path order).cycle name = ⟨name, path.dropWhile (· ≠ name) ++ [name]⟩ := by
  have hfound : (path.findIdx? fun n => n = name) = some (path.findIdx fun n => n = name) := by
    refine List.findIdx?_eq_some_iff_findIdx_eq.2 ⟨?_, rfl⟩
    exact List.findIdx_lt_length_of_exists ⟨name, hmem, by simp⟩
  have hnot : (fun n : String => !decide (n ≠ name)) = fun n => decide (n = name) := by
    funext n
    simp
  rw [List.dropWhile_eq_drop_findIdx_not, hnot]
  unfold cycle of
  rw [hfound]
  rfl

/-! ## The walk ends -/

/-- The declarations whose names are not on the path. -/
def offPath (decls : List StructDecl) (path : List String) : List StructDecl :=
  decls.filter fun d => d.name ∉ path

theorem withoutDecl_offPath :
    withoutDecl (offPath decls path) name = offPath decls (path ++ [name]) := by
  unfold withoutDecl offPath
  rw [List.filter_filter]
  refine List.filter_congr fun d _ => ?_
  simp [and_comm]

theorem findDecl_offPath (hname : name ∉ path) :
    findDecl (offPath decls path) name = findDecl decls name := by
  unfold findDecl offPath
  rw [List.find?_filter]
  congr 1
  funext d
  by_cases hd : d.name = name
  · simp [hd, hname]
  · simp [hd]

theorem visitFields_eq_foldlM (remaining : List StructDecl) (fields : List FieldDecl) :
    visitFields remaining path order fields =
      fields.foldlM (fun order f => visitDecl remaining path order f.type) order := by
  induction fields generalizing order with
  | nil => simp [visitFields, pure, Except.pure]
  | cons f rest ih =>
      rw [visitFields, List.foldlM_cons]
      cases visitDecl remaining path order f.type with
      | ok order' => exact ih
      | error c => rfl

/-- Names are visited in order with marks as they are without, if each is. -/
theorem visitEach_map {α : Type} {visit : MarkedWalk → String → Option (Except Cycle MarkedWalk)}
    {remaining : List StructDecl} (nameOf : α → String)
    (hvisit : ∀ order name, visit (of path order) name =
      some ((visitDecl remaining path order name).map (of path))) (l : List α) :
    visitEach visit (of path order) (l.map nameOf) =
      some ((l.foldlM (fun order a => visitDecl remaining path order (nameOf a)) order).map
        (of path)) := by
  induction l generalizing order with
  | nil => rfl
  | cons a rest ih =>
      rw [List.map_cons, visitEach, hvisit, List.foldlM_cons]
      cases visitDecl remaining path order (nameOf a) with
      | ok order' => exact ih
      | error c => rfl

/-- A name that is met for the first time is entered, if it is declared. -/
theorem visitDecl_of_new {remaining : List StructDecl}
    (hdone : ¬ (order.any fun d => d.name = name) = true) (hpath : name ∉ path) :
    visitDecl remaining path order name =
      match findDecl remaining name with
      | none => .ok order
      | some decl =>
          (visitFields (withoutDecl remaining name) (path ++ [name]) order decl.fields).map
            (· ++ [decl]) := by
  rw [visitDecl, if_neg hdone, if_neg hpath]
  split
  · rename_i hnone
    rw [hnone]
  · rename_i decl hfind
    rw [hfind]
    dsimp only
    cases visitFields (withoutDecl remaining name) (path ++ [name]) order decl.fields <;> rfl

/-- A visit with marks comes to the same as one without.  It enters only declarations that are not
under way, and with each of them there is one less of these. -/
theorem visit_of {depth : Nat} (hdepth : (offPath decls path).length < depth) :
    visit decls depth (of path order) name =
      some ((visitDecl (offPath decls path) path order name).map (of path)) := by
  induction depth generalizing path order name with
  | zero => exact absurd hdepth (Nat.not_lt_zero _)
  | succ depth ih =>
      by_cases hdone : (order.any fun d => d.name = name) = true
      · have hmark : (of path order).marks name = some .done := if_pos hdone
        rw [visit, hmark, visitDecl, if_pos hdone]
        rfl
      by_cases hpath : name ∈ path
      · have hmark : (of path order).marks name = some .visiting :=
          (if_neg hdone).trans (if_pos hpath)
        rw [visit, hmark, visitDecl, if_neg hdone, if_pos hpath]
        dsimp only
        rw [cycle_of hpath]
        rfl
      have hmark : (of path order).marks name = none := (if_neg hdone).trans (if_neg hpath)
      rw [visit, hmark, visitDecl_of_new hdone hpath, findDecl_offPath hpath]
      dsimp only
      cases hfind : findDecl decls name with
      | none => rfl
      | some decl =>
          have hoff : findDecl (offPath decls path) name = some decl :=
            (findDecl_offPath hpath).trans hfind
          have hless : (offPath decls (path ++ [name])).length < depth := by
            have hlt := length_withoutDecl_lt hoff
            rw [withoutDecl_offPath] at hlt
            omega
          have hfields : visitEach (visit decls depth) (of (path ++ [name]) order)
              (decl.fields.map Field.type) = _ :=
            visitEach_map Field.type (fun _ _ => ih hless) decl.fields
          dsimp only
          rw [enter_of (by simpa using hdone), hfields, withoutDecl_offPath, visitFields_eq_foldlM]
          cases decl.fields.foldlM (fun order f =>
            visitDecl (offPath decls (path ++ [name])) (path ++ [name]) order f.type) order with
          | error c => rfl
          | ok order' =>
              show some (Except.ok ((of (path ++ [name]) order').leave name decl)) = _
              rw [leave_of (findDecl_eq_some hfind).2]
              rfl

/-- The walk with marks ends, and never nests deeper than there are declarations. -/
theorem run_eq {depth : Nat} (hdepth : decls.length < depth) :
    run decls depth = some (dependencyOrder decls) := by
  have hoff : offPath decls [] = decls := by simp [offPath]
  have hvisit : ∀ order name, visit decls depth (of [] order) name =
      some ((visitDecl decls [] order name).map (of [])) := by
    intro order name
    have h : visit decls depth (of [] order) name =
        some ((visitDecl (offPath decls []) [] order name).map (of [])) :=
      visit_of (hoff.symm ▸ hdepth)
    rwa [hoff] at h
  have hmarks : marksOf [] [] = fun _ => none := by
    funext other
    simp [marksOf]
  have hstart : start = of [] [] := by rw [start, of, hmarks]
  rw [run, hstart, visitEach_map StructDecl.name hvisit, dependencyOrder]
  cases decls.foldlM (fun order d => visitDecl decls [] order d.name) [] <;> rfl

end MarkedWalk

/-! ## The order of dependency -/

/-- The walk over declarations of distinct names ends and answers.  Where no declaration needs
itself it answers with all of them, each after those its fields name, and otherwise with a cycle:
a way along fields that returns to its start and meets no other name twice. -/
theorem dependencyOrder_sorts {decls : List StructDecl} (hd : DistinctNames decls) :
    (∀ depth, decls.length < depth →
      MarkedWalk.run decls depth = some (dependencyOrder decls)) ∧
    (Acyclic decls → ∃ order, dependencyOrder decls = .ok order ∧ order.Perm decls ∧
      ∀ before decl after, order = before ++ decl :: after →
        ∀ f ∈ decl.fields, ∀ need ∈ decls, need.name = f.type → need ∈ before) ∧
    (¬ Acyclic decls → ∃ c, dependencyOrder decls = .error c ∧ c.Genuine decls) := by
  refine ⟨fun depth hdepth => MarkedWalk.run_eq hdepth, fun hacyclic => ?_, fun hcyclic => ?_⟩
  · obtain ⟨order, horder⟩ := (exists_dependencyOrder_iff hd).2 hacyclic
    obtain ⟨hsettled, hperm⟩ := dependencyOrder_ok hd horder
    exact ⟨order, horder, hperm, fun before decl after heq => hsettled.needs_before heq⟩
  · cases horder : dependencyOrder decls with
    | ok order => exact absurd ((exists_dependencyOrder_iff hd).1 ⟨order, horder⟩) hcyclic
    | error c => exact ⟨c, rfl, dependencyOrder_error horder⟩

/-- Two structs that need each other, and one that needs the first of them. -/
def knotBatch : List StructDecl :=
  [⟨"lead", 12, [⟨"id", 0, "u32"⟩, ⟨"to", 4, "left"⟩]⟩, ⟨"left", 8, [⟨"over", 0, "right"⟩]⟩,
    ⟨"right", 8, [⟨"under", 0, "left"⟩, ⟨"again", 4, "left"⟩]⟩]

/-- The walk starts with the struct outside the cycle, which is not on the way it reports. -/
theorem dependencyOrder_sorts_knot :
    MarkedWalk.run knotBatch 4 = some (.error ⟨"left", ["left", "right", "left"]⟩) ∧
      Cycle.Genuine knotBatch ⟨"left", ["left", "right", "left"]⟩ := by
  have hanswer : dependencyOrder knotBatch = .error ⟨"left", ["left", "right", "left"]⟩ := by cbv
  have hdistinct : DistinctNames knotBatch := by
    unfold DistinctNames knotBatch
    decide
  obtain ⟨hrun, hsorted, hcycle⟩ := dependencyOrder_sorts hdistinct
  have hcyclic : ¬ Acyclic knotBatch := by
    intro hacyclic
    obtain ⟨order, horder, -⟩ := hsorted hacyclic
    rw [hanswer] at horder
    cases horder
  obtain ⟨c, hc, hgenuine⟩ := hcycle hcyclic
  rw [hanswer] at hc
  obtain rfl := Except.error.inj hc
  exact ⟨hanswer ▸ hrun 4 (by decide), hgenuine⟩

end GuestBridge
