import GuestBridge.Fallible
import Mathlib.Data.List.Forall2
import Mathlib.Order.Defs.Unbundled

/-!
# Rules for computations that may fail

When a composed `Except` answers, and where a composed `Fallible` computation leads (`from_bind`),
with its inversion (`bind_from_ok_iff`).  `Fallible.Leads R c` says that a computation leads from
every state to one related to it by `R`, and `Fallible.AnswersFrom R c s a` that it answers with `a`
from every state that `s` is related to; for a preorder both pass to compositions.  So does
`Fallible.Keeps P c`, which says that where the computation answers it has kept `P`.
-/

namespace GuestBridge

section Except

variable {ε α β : Type}

theorem map_eq_ok_iff {x : Except ε α} {f : α → β} {b : β} :
    x.map f = .ok b ↔ ∃ a, x = .ok a ∧ f a = b := by
  cases x <;> simp [Except.map]

theorem map_eq_error_iff {x : Except ε α} {f : α → β} {e : ε} :
    x.map f = .error e ↔ x = .error e := by
  cases x <;> simp [Except.map]

theorem map_append_map (x : Except ε (List α)) (first second : List α) :
    (x.map (second ++ ·)).map (first ++ ·) = x.map (first ++ second ++ ·) := by
  cases x <;> simp [Except.map]

theorem bind_eq_ok_iff {x : Except ε α} {f : α → Except ε β} {b : β} :
    x >>= f = .ok b ↔ ∃ a, x = .ok a ∧ f a = .ok b := by
  cases x <;> simp [bind, Except.bind]

/-- A walk over a list answers when each of its steps does. -/
theorem mapM_eq_ok_iff {f : α → Except ε β} {l : List α} {bs : List β} :
    l.mapM f = .ok bs ↔ List.Forall₂ (fun a b => f a = .ok b) l bs := by
  induction l generalizing bs with
  | nil => simp [pure, Except.pure, eq_comm]
  | cons a l ih =>
      simp only [List.mapM_cons, bind_eq_ok_iff, ih, pure, Except.pure, Except.ok.injEq,
        List.forall₂_cons_left_iff]
      constructor
      · rintro ⟨b, hb, rest, hrest, rfl⟩
        exact ⟨b, rest, hb, hrest, rfl⟩
      · rintro ⟨b, rest, hb, hrest, rfl⟩
        exact ⟨b, hb, rest, hrest, rfl⟩

theorem exists_of_mapM_eq_ok {f : α → Except ε β} {l : List α} {bs : List β} {a : α}
    (h : l.mapM f = .ok bs) (ha : a ∈ l) : ∃ b, f a = .ok b := by
  have hall := mapM_eq_ok_iff.1 h
  obtain ⟨n, hn, rfl⟩ := List.getElem_of_mem ha
  exact ⟨_, hall.get hn (hall.length_eq ▸ hn)⟩

end Except

namespace Fallible

variable {σ ε ε' α β : Type}

/-! ## Where a computation leads -/

@[simp]
theorem from_pure (a : α) (s : σ) : (pure a : Fallible σ ε α).from s = (.ok a, s) :=
  rfl

@[simp]
theorem from_throw (e : ε) (s : σ) : (throw e : Fallible σ ε α).from s = (.error e, s) :=
  rfl

@[simp]
theorem from_mk_pure (x : Except ε α) (s : σ) :
    Fallible.from (ExceptT.mk (pure x) : Fallible σ ε α) s = (x, s) :=
  rfl

@[simp]
theorem from_ofFunction (f : σ → Except ε α × σ) (s : σ) : (ofFunction f).from s = f s :=
  rfl

theorem from_tryCatch (c : Fallible σ ε α) (handle : ε → Fallible σ ε α) (s : σ) :
    Fallible.from (tryCatch c handle) s =
      match c.from s with
      | (.ok a, s') => (.ok a, s')
      | (.error e, s') => (handle e).from s' := by
  change (match (c.from s).1 with
    | .ok a => (pure (.ok a) : StateM σ (Except ε α))
    | .error e => (handle e).run) (c.from s).2 = _
  rcases c.from s with ⟨_ | a, s'⟩ <;> rfl

theorem from_bind (c : Fallible σ ε α) (f : α → Fallible σ ε β) (s : σ) :
    (c >>= f).from s =
      match c.from s with
      | (.ok a, s') => (f a).from s'
      | (.error e, s') => (.error e, s') := by
  change (ExceptT.bindCont f (c.from s).1).run (c.from s).2 = _
  rcases c.from s with ⟨_ | a, s'⟩ <;> rfl

/-- A composition answers when its first part does and then the rest. -/
theorem bind_from_ok_iff {c : Fallible σ ε α} {f : α → Fallible σ ε β} {s s'' : σ} {b : β} :
    (c >>= f).from s = (.ok b, s'') ↔
      ∃ a s', c.from s = (.ok a, s') ∧ (f a).from s' = (.ok b, s'') := by
  rw [from_bind]
  rcases c.from s with ⟨_ | a, s'⟩ <;> simp [and_assoc]

theorem from_adapt (g : ε → ε') (c : Fallible σ ε α) (s : σ) :
    Fallible.from (ExceptT.adapt g c) s = ((c.from s).1.mapError g, (c.from s).2) :=
  rfl

theorem from_map (f : α → β) (c : Fallible σ ε α) (s : σ) :
    Fallible.from (f <$> c) s = ((c.from s).1.map f, (c.from s).2) := by
  rw [map_eq_pure_bind, from_bind]
  rcases c.from s with ⟨_ | a, s'⟩ <;> rfl

theorem mk_pure_bind_pure (x : Except ε α) (f : α → β) :
    ((ExceptT.mk (pure x) : Fallible σ ε α) >>= fun a => pure (f a)) =
      ExceptT.mk (pure (x.map f)) := by
  cases x <;> rfl

theorem from_bind_mk_pure {c : Fallible σ ε α} {x : Except ε α} {s s' : σ}
    (h : c.from s = (x, s')) (f : α → Except ε β) :
    (c >>= fun a => ExceptT.mk (pure (f a))).from s = (x >>= f, s') := by
  rw [from_bind, h]
  cases x <;> rfl

/-- Computations are the same if they do the same from every state. -/
theorem ext {c c' : Fallible σ ε α} (h : ∀ s, c.from s = c'.from s) : c = c' :=
  funext h

/-- Compositions are the same if their second parts go on alike where the first answers. -/
theorem bind_congr_of_ok {c : Fallible σ ε α} {f f' : α → Fallible σ ε β}
    (h : ∀ a s s', c.from s = (.ok a, s') → f a = f' a) : c >>= f = c >>= f' := by
  refine ext fun s => ?_
  rw [from_bind, from_bind]
  rcases hc : c.from s with ⟨_ | a, s'⟩
  · rfl
  · exact congrArg (Fallible.from · s') (h a s s' hc)

theorem adapt_adapt {ε'' : Type} (g : ε → ε') (g' : ε' → ε'') (c : Fallible σ ε α) :
    (ExceptT.adapt g' (ExceptT.adapt g c : Fallible σ ε' α) : Fallible σ ε'' α) =
      ExceptT.adapt (fun e => g' (g e)) c := by
  refine ext fun s => ?_
  rw [from_adapt, from_adapt, from_adapt]
  rcases c.from s with ⟨e | a, s'⟩ <;> rfl

theorem adapt_bind (g : ε → ε') (c : Fallible σ ε α) (f : α → Fallible σ ε β) :
    (ExceptT.adapt g (c >>= f) : Fallible σ ε' β) =
      ExceptT.adapt g c >>= fun a => ExceptT.adapt g (f a) := by
  refine ext fun s => ?_
  rw [from_adapt, from_bind, from_bind, from_adapt]
  rcases c.from s with ⟨e | a, s'⟩ <;> rfl

theorem adapt_pure (g : ε → ε') (a : α) :
    (ExceptT.adapt g (pure a : Fallible σ ε α) : Fallible σ ε' α) = pure a :=
  rfl

theorem adapt_from_ok_iff {g : ε → ε'} {c : Fallible σ ε α} {s s' : σ} {a : α} :
    Fallible.from (ExceptT.adapt g c) s = (.ok a, s') ↔ c.from s = (.ok a, s') := by
  rw [from_adapt]
  rcases c.from s with ⟨e | a, s'⟩
  · constructor <;> rintro ⟨⟩
  · constructor <;>
    · rintro ⟨⟩
      rfl

/-! ## What passes to compositions -/

/-- A property of computations that those without effect have and that passes to compositions.  The
errors they may fail with are `own`. -/
structure Composes (own : ε → Prop) (P : {α : Type} → Fallible σ ε α → Prop) : Prop where
  pure {α : Type} (a : α) : P (pure a : Fallible σ ε α)
  throw {α : Type} {e : ε} (he : own e) : P (throw e : Fallible σ ε α)
  bind {α β : Type} {c : Fallible σ ε α} {f : α → Fallible σ ε β} (hc : P c)
    (hf : ∀ a, P (f a)) : P (c >>= f)

/-! ## States along a computation -/

/-- The computation leads from every state to one that is related to it by `R`. -/
def Leads (R : σ → σ → Prop) (c : Fallible σ ε α) : Prop :=
  ∀ s, R s (c.from s).2

variable {R : σ → σ → Prop}

theorem Leads.of_from {c : Fallible σ ε α} (h : c.Leads R) {s s' : σ} {x : Except ε α}
    (hc : c.from s = (x, s')) : R s s' := by
  have hs := h s
  rwa [hc] at hs

theorem leads_pure [Std.Refl R] (a : α) : Leads R (pure a : Fallible σ ε α) :=
  fun s => refl s

theorem leads_throw [Std.Refl R] (e : ε) : Leads R (throw e : Fallible σ ε α) :=
  fun s => refl s

theorem Leads.adapt {c : Fallible σ ε α} (h : c.Leads R) (g : ε → ε') :
    Leads R (ExceptT.adapt g c : Fallible σ ε' α) :=
  h

theorem Leads.map {c : Fallible σ ε α} (h : c.Leads R) (f : α → β) : (f <$> c).Leads R := by
  intro s
  rw [from_map]
  exact h s

/-- The rest of a composition has to be followed only where its first part answers. -/
theorem Leads.bind_of_ok [IsTrans σ R] {c : Fallible σ ε α} {f : α → Fallible σ ε β}
    (hc : c.Leads R) (hf : ∀ a s s', c.from s = (.ok a, s') → (f a).Leads R) :
    (c >>= f).Leads R := by
  intro s
  have hs := hc s
  rw [from_bind]
  rcases h : c.from s with ⟨e | a, s'⟩
  · rwa [h] at hs
  · rw [h] at hs
    exact IsTrans.trans _ _ _ hs (hf a s s' h s')

theorem Leads.bind [IsTrans σ R] {c : Fallible σ ε α} {f : α → Fallible σ ε β}
    (hc : c.Leads R) (hf : ∀ a, (f a).Leads R) : (c >>= f).Leads R :=
  hc.bind_of_ok fun a _ _ _ => hf a

theorem composes_leads [IsPreorder σ R] (own : ε → Prop) :
    Composes own (fun {α : Type} (c : Fallible σ ε α) => c.Leads R) :=
  ⟨leads_pure, fun _ => leads_throw _, Leads.bind⟩

theorem Leads.mono {S : σ → σ → Prop} {c : Fallible σ ε α} (h : c.Leads R)
    (hRS : ∀ s s', R s s' → S s s') : c.Leads S :=
  fun s => hRS _ _ (h s)

/-! ## States that answers keep -/

/-- From a state with `P` the computation leads to one with `P`, or fails. -/
def Keeps (P : σ → Prop) (c : Fallible σ ε α) : Prop :=
  ∀ s a s', P s → c.from s = (.ok a, s') → P s'

section Keeps

variable {P : σ → Prop}

theorem keeps_pure (a : α) : Keeps P (pure a : Fallible σ ε α) := by
  rintro s b s' hs h
  cases h
  exact hs

theorem keeps_throw (e : ε) : Keeps P (throw e : Fallible σ ε α) := by
  rintro s a s' - h
  cases h

theorem Keeps.adapt {c : Fallible σ ε α} (h : c.Keeps P) (g : ε → ε') :
    Keeps P (ExceptT.adapt g c : Fallible σ ε' α) :=
  fun s a s' hs hfrom => h s a s' hs (adapt_from_ok_iff.1 hfrom)

theorem Keeps.bind {c : Fallible σ ε α} {f : α → Fallible σ ε β} (hc : c.Keeps P)
    (hf : ∀ a, (f a).Keeps P) : (c >>= f).Keeps P := by
  intro s b s'' hs h
  obtain ⟨a, s', hca, hfa⟩ := bind_from_ok_iff.1 h
  exact hf a s' b s'' (hc s a s' hs hca) hfa

theorem composes_keeps (own : ε → Prop) :
    Composes own (fun {α : Type} (c : Fallible σ ε α) => c.Keeps P) :=
  ⟨keeps_pure, fun _ => keeps_throw _, Keeps.bind⟩

end Keeps

/-! ## Answers from a state on -/

/-- From every state that `s` is related to by `R`, the computation answers with `a`. -/
def AnswersFrom (R : σ → σ → Prop) (c : Fallible σ ε α) (s : σ) (a : α) : Prop :=
  ∀ s', R s s' → (c.from s').1 = .ok a

theorem AnswersFrom.later [IsTrans σ R] {c : Fallible σ ε α} {s s' : σ} {a : α}
    (h : c.AnswersFrom R s a) (hs : R s s') : c.AnswersFrom R s' a :=
  fun s'' hs' => h s'' (IsTrans.trans _ _ _ hs hs')

theorem answersFrom_pure (s : σ) (a : α) : AnswersFrom R (pure a : Fallible σ ε α) s a :=
  fun _ _ => rfl

theorem AnswersFrom.adapt {c : Fallible σ ε α} {s : σ} {a : α} (h : c.AnswersFrom R s a)
    (g : ε → ε') : AnswersFrom R (ExceptT.adapt g c : Fallible σ ε' α) s a := by
  intro s' hs
  rw [from_adapt, h s' hs]
  rfl

theorem AnswersFrom.bind [IsTrans σ R] {c : Fallible σ ε α} {f : α → Fallible σ ε β} {s : σ}
    {a : α} {b : β} (h : c.AnswersFrom R s a) (hc : c.Leads R) (hf : (f a).AnswersFrom R s b) :
    (c >>= f).AnswersFrom R s b := by
  intro s' hs
  have ha := h s' hs
  have hs' := hc s'
  rw [from_bind]
  rcases hfrom : c.from s' with ⟨x, s''⟩
  rw [hfrom] at ha hs'
  obtain rfl : x = .ok a := ha
  exact hf s'' (IsTrans.trans _ _ _ hs hs')

end Fallible

end GuestBridge
