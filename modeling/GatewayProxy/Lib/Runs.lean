import Mathlib.Logic.Basic

/-!
# Runs of a labelled step function

A system is a step function `step : σ → α → Option σ`: the action `a` taken
in state `s` leads to a state, or cannot be taken there. `exec` runs a list
of actions. A safety result about all runs follows from a fact about one
step (`exec_invariant`), or from a fact about one step that meets a side
condition on the state it is taken in (`exec_invariant_of_meets`). Where a step
keeps the result exactly when it meets the condition, so does a run
(`exec_iff_meets`).
-/

namespace Runs

variable {σ α : Type}

/-- Runs the actions in order, if each can be taken. -/
def exec (step : σ → α → Option σ) : σ → List α → Option σ
  | s, [] => some s
  | s, a :: as => (step s a).bind fun t => exec step t as

/-- Every step of the run is taken in a state that meets the condition. -/
def Meets (step : σ → α → Option σ) (C : σ → α → Prop) : σ → List α → Prop
  | _, [] => True
  | s, a :: as => C s a ∧ ∀ t, step s a = some t → Meets step C t as

variable {step : σ → α → Option σ}

@[simp] theorem exec_nil (s : σ) : exec step s [] = some s := rfl

theorem exec_cons (s : σ) (a : α) (as : List α) :
    exec step s (a :: as) = (step s a).bind fun t => exec step t as := rfl

/-- A run of `a :: as` is a step followed by a run of `as`. -/
theorem exec_cons_eq_some {s u : σ} {a : α} {as : List α} :
    exec step s (a :: as) = some u ↔ ∃ t, step s a = some t ∧ exec step t as = some u := by
  rw [exec_cons, Option.bind_eq_some_iff]

theorem exec_append (s : σ) (as bs : List α) :
    exec step s (as ++ bs) = (exec step s as).bind fun t => exec step t bs := by
  induction as generalizing s with
  | nil => rfl
  | cons a as ih =>
    rw [List.cons_append, exec_cons, exec_cons, Option.bind_assoc]
    congr 1
    funext t
    exact ih t

theorem meets_cons {C : σ → α → Prop} {s t : σ} {a : α} {as : List α} (hStep : step s a = some t) :
    Meets step C s (a :: as) ↔ C s a ∧ Meets step C t as := by
  constructor
  · exact fun h => ⟨h.1, h.2 t hStep⟩
  · rintro ⟨hC, hRest⟩
    refine ⟨hC, fun t' hStep' => ?_⟩
    obtain rfl : t = t' := Option.some.inj (hStep.symm.trans hStep')
    exact hRest

theorem meets_append {C : σ → α → Prop} {s t : σ} {as bs : List α} (hRun : exec step s as = some t)
    (hFirst : Meets step C s as) (hRest : Meets step C t bs) : Meets step C s (as ++ bs) := by
  induction as generalizing s with
  | nil =>
    obtain rfl := Option.some.inj hRun
    exact hRest
  | cons a as ih =>
    obtain ⟨next, hStep, hRun⟩ := exec_cons_eq_some.mp hRun
    obtain ⟨hC, hFirst⟩ := (meets_cons hStep).mp hFirst
    exact (meets_cons hStep).mpr ⟨hC, ih hRun hFirst⟩

theorem Meets.mono {C D : σ → α → Prop} (h : ∀ s a, C s a → D s a) {s : σ} {as : List α}
    (hMeets : Meets step C s as) : Meets step D s as := by
  induction as generalizing s with
  | nil => trivial
  | cons a as ih => exact ⟨h s a hMeets.1, fun t hStep => ih (hMeets.2 t hStep)⟩

-- ---------------------------------------------------------------------------
-- What can still happen
-- ---------------------------------------------------------------------------

/-- Some run, all of whose steps meet the condition, leads from one state to the
other. -/
def Reaches (step : σ → α → Option σ) (C : σ → α → Prop) (s u : σ) : Prop :=
  ∃ as, Meets step C s as ∧ exec step s as = some u

section Reaches

variable {C D : σ → α → Prop} {s t u : σ}

theorem Reaches.refl (s : σ) : Reaches step C s s := ⟨[], trivial, rfl⟩

theorem Reaches.head {a : α} (hFirst : step s a = some t) (hC : C s a)
    (hRest : Reaches step C t u) : Reaches step C s u := by
  obtain ⟨as, hMeets, hRun⟩ := hRest
  exact ⟨a :: as, (meets_cons hFirst).mpr ⟨hC, hMeets⟩, exec_cons_eq_some.mpr ⟨t, hFirst, hRun⟩⟩

theorem Reaches.trans (hFirst : Reaches step C s t) (hRest : Reaches step C t u) :
    Reaches step C s u := by
  obtain ⟨as, hMeets, hFirst⟩ := hFirst
  obtain ⟨bs, hMeets', hRest⟩ := hRest
  exact ⟨as ++ bs, meets_append hFirst hMeets hMeets',
    by rw [exec_append, hFirst, Option.bind_some, hRest]⟩

theorem Reaches.mono (h : ∀ s a, C s a → D s a) (hReaches : Reaches step C s t) :
    Reaches step D s t := by
  obtain ⟨as, hMeets, hRun⟩ := hReaches
  exact ⟨as, hMeets.mono h, hRun⟩

end Reaches

-- ---------------------------------------------------------------------------
-- Run rules
-- ---------------------------------------------------------------------------

/-- **Run rule.** What every step meeting the side condition preserves holds
at the end of every run whose steps all meet it. -/
theorem exec_invariant_of_meets {C : σ → α → Prop} {P : σ → Prop}
    (hStep : ∀ s a t, P s → C s a → step s a = some t → P t)
    {as : List α} {s u : σ} (hInit : P s) (hMeets : Meets step C s as)
    (hRun : exec step s as = some u) : P u := by
  induction as generalizing s with
  | nil =>
    rw [exec_nil, Option.some.injEq] at hRun
    exact hRun ▸ hInit
  | cons a as ih =>
    obtain ⟨t, hFirst, hRest⟩ := exec_cons_eq_some.mp hRun
    exact ih (hStep s a t hInit hMeets.1 hFirst) (hMeets.2 t hFirst) hRest

theorem meets_true (s : σ) (as : List α) : Meets step (fun _ _ => True) s as := by
  induction as generalizing s with
  | nil => trivial
  | cons a as ih => exact ⟨trivial, fun t _ => ih t⟩

/-- **Run rule**, without a side condition. -/
theorem exec_invariant {P : σ → Prop}
    (hStep : ∀ s a t, P s → step s a = some t → P t)
    {as : List α} {s u : σ} (hInit : P s) (hRun : exec step s as = some u) : P u :=
  exec_invariant_of_meets (C := fun _ _ => True)
    (fun s a t hP _ hs => hStep s a t hP hs) hInit (meets_true s as) hRun

/-- **Run rule, both ways.** If, under an invariant, a step leads to a state
with `P` exactly when it meets the condition in a state with `P`, then a run
ends in `P` exactly when it starts in `P` and all its steps meet the condition. -/
theorem exec_iff_meets {C : σ → α → Prop} {I P : σ → Prop}
    (hInv : ∀ s a t, I s → step s a = some t → I t)
    (hStep : ∀ s a t, I s → step s a = some t → (P t ↔ P s ∧ C s a))
    {as : List α} {s u : σ} (hInit : I s) (hRun : exec step s as = some u) :
    P u ↔ P s ∧ Meets step C s as := by
  induction as generalizing s with
  | nil =>
    rw [exec_nil, Option.some.injEq] at hRun
    rw [hRun]
    exact ⟨fun h => ⟨h, trivial⟩, And.left⟩
  | cons a as ih =>
    obtain ⟨t, hFirst, hRest⟩ := exec_cons_eq_some.mp hRun
    rw [ih (hInv s a t hInit hFirst) hRest, hStep s a t hInit hFirst, meets_cons hFirst, and_assoc]

end Runs
