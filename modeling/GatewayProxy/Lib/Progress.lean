import GatewayProxy.Lib.Runs

/-!
# Bounded progress

What a system can always still do: from a state, at most `n` actions of a kind
lead to a state with `P`. The rank rule gets this from one action that lowers a
rank, taken from every state whose rank is not 0. `exec_established` is about what
one action of a run brings about and the others keep.
-/

namespace Runs

variable {σ α : Type} {step : σ → α → Option σ} {kind : α → Prop} {P Q : σ → Prop}
  {s t : σ} {m n : Nat}

/-- At most `n` actions of the kind lead to a state with `P`. -/
def LeadsTo (step : σ → α → Option σ) (kind : α → Prop) (P : σ → Prop) (n : Nat) (s : σ) : Prop :=
  ∃ as t, as.length ≤ n ∧ (∀ a ∈ as, kind a) ∧ exec step s as = some t ∧ P t

theorem LeadsTo.here (h : P s) : LeadsTo step kind P n s :=
  ⟨[], s, Nat.zero_le n, fun _ hMem => absurd hMem List.not_mem_nil, rfl, h⟩

theorem LeadsTo.head {a : α} (hFirst : step s a = some t) (hKind : kind a)
    (hRest : LeadsTo step kind P n t) : LeadsTo step kind P (n + 1) s := by
  obtain ⟨as, u, hLength, hKinds, hRun, hEnd⟩ := hRest
  refine ⟨a :: as, u, Nat.succ_le_succ hLength, ?_, exec_cons_eq_some.mpr ⟨t, hFirst, hRun⟩, hEnd⟩
  intro b hMem
  rcases List.mem_cons.mp hMem with rfl | hMem
  · exact hKind
  · exact hKinds b hMem

theorem LeadsTo.mono (h : LeadsTo step kind P m s) (hLe : m ≤ n) : LeadsTo step kind P n s := by
  obtain ⟨as, t, hLength, hRest⟩ := h
  exact ⟨as, t, Nat.le_trans hLength hLe, hRest⟩

theorem LeadsTo.weaken {kind' : α → Prop} (h : LeadsTo step kind P n s)
    (hKind : ∀ a, kind a → kind' a) : LeadsTo step kind' P n s := by
  obtain ⟨as, t, hLength, hKinds, hRest⟩ := h
  exact ⟨as, t, hLength, fun a hMem => hKind a (hKinds a hMem), hRest⟩

/-- Two stretches, one after the other. -/
theorem LeadsTo.trans (hFirst : LeadsTo step kind Q m s)
    (hRest : ∀ t, Q t → LeadsTo step kind P n t) : LeadsTo step kind P (m + n) s := by
  obtain ⟨as, t, hLength, hKinds, hRun, hMiddle⟩ := hFirst
  obtain ⟨bs, u, hLength', hKinds', hRun', hEnd⟩ := hRest t hMiddle
  refine ⟨as ++ bs, u, ?_, ?_, ?_, hEnd⟩
  · rw [List.length_append]
    exact Nat.add_le_add hLength hLength'
  · intro a hMem
    exact (List.mem_append.mp hMem).elim (hKinds a) (hKinds' a)
  · rw [exec_append, hRun, Option.bind_some, hRun']

/-- **Rank rule.** If from every state with `Q` whose rank is not 0 an action of
the kind keeps `Q` and lowers the rank, then rank 0 is at most as many actions
away as the rank says. -/
theorem leadsTo_of_rank (rank : σ → Nat)
    (hStep : ∀ s, Q s → rank s ≠ 0 →
      ∃ a t, kind a ∧ step s a = some t ∧ Q t ∧ rank t < rank s) (h : Q s) :
    LeadsTo step kind (fun t => Q t ∧ rank t = 0) (rank s) s := by
  induction hRank : rank s using Nat.strongRecOn generalizing s with
  | _ n ih =>
    by_cases hZero : rank s = 0
    · exact .here ⟨h, hZero⟩
    · obtain ⟨a, t, hKind, hFirst, hNext, hLower⟩ := hStep s h hZero
      have hRest := ih (rank t) (hRank ▸ hLower) hNext rfl
      exact (hRest.head hFirst hKind).mono (hRank ▸ hLower)

/-- What an action of the run brings about and every step keeps holds at its end. -/
theorem exec_established {C : σ → α → Prop} {a : α} {as : List α}
    (hMakes : ∀ s t, C s a → step s a = some t → P t)
    (hKeeps : ∀ s b t, P s → C s b → step s b = some t → P t)
    (hMem : a ∈ as) (hMeets : Meets step C s as) (hRun : exec step s as = some t) : P t := by
  induction as generalizing s with
  | nil => exact absurd hMem List.not_mem_nil
  | cons b as ih =>
    obtain ⟨u, hFirst, hRest⟩ := exec_cons_eq_some.mp hRun
    rcases List.mem_cons.mp hMem with rfl | hLater
    · exact exec_invariant_of_meets hKeeps (hMakes s u hMeets.1 hFirst) (hMeets.2 u hFirst) hRest
    · exact ih hLater (hMeets.2 u hFirst) hRest

end Runs
