import Mathlib.Data.List.Nodup

/-!
# Loops whose rounds stay with their own key

A loop over keyed entries that carries a state: each round may yield a value
and changes the state. When a round reads and changes only what the state holds
under the key of the round (`Local`), the order of the entries does not matter
to a key: the round of a key finds under it what the loop started with
(`collect_yields`), and leaves there what its own update gives
(`view_collect_mem`, `view_collect_of_notMem`).
-/

namespace KeyedLoop

variable {σ κ γ β τ : Type}

/-- One round for each entry, in order, with the values the rounds yield. -/
def collect (turn : σ → κ → γ → Option β × σ) : List (κ × γ) → σ → List β × σ
  | [], s => ([], s)
  | (k, entry) :: rest, s =>
    let (yielded, s) := turn s k entry
    let (values, s) := collect turn rest s
    (yielded.toList ++ values, s)

/-- What a round yields and leaves under its key depends on what is there, and
nothing changes under another key. -/
structure Local (turn : σ → κ → γ → Option β × σ) (view : σ → κ → τ)
    (yield : κ → γ → τ → Option β) (update : κ → γ → τ → τ) : Prop where
  yields : ∀ s k entry, (turn s k entry).1 = yield k entry (view s k)
  own : ∀ s k entry, view (turn s k entry).2 k = update k entry (view s k)
  frame : ∀ s k entry k', k' ≠ k → view (turn s k entry).2 k' = view s k'

variable {turn : σ → κ → γ → Option β × σ} {view : σ → κ → τ} {yield : κ → γ → τ → Option β}
  {update : κ → γ → τ → τ}

theorem collect_cons (k : κ) (entry : γ) (rest : List (κ × γ)) (s : σ) :
    collect turn ((k, entry) :: rest) s =
      ((turn s k entry).1.toList ++ (collect turn rest (turn s k entry).2).1,
        (collect turn rest (turn s k entry).2).2) := rfl

/-- The loop changes nothing under a key it does not visit. -/
theorem view_collect_of_notMem (h : Local turn view yield update) {l : List (κ × γ)} {k : κ}
    (hk : k ∉ l.map Prod.fst) (s : σ) : view (collect turn l s).2 k = view s k := by
  induction l generalizing s with
  | nil => rfl
  | cons entry rest ih =>
    rw [List.map_cons, List.mem_cons, not_or] at hk
    rw [collect_cons, ih hk.2, h.frame _ _ _ _ hk.1]

/-- Under a key it visits, the loop leaves the update of what was there. -/
theorem view_collect_mem (h : Local turn view yield update) {l : List (κ × γ)}
    (hKeys : (l.map Prod.fst).Nodup) {k : κ} {entry : γ} (hMem : (k, entry) ∈ l) (s : σ) :
    view (collect turn l s).2 k = update k entry (view s k) := by
  induction l generalizing s with
  | nil => cases hMem
  | cons first rest ih =>
    obtain ⟨k', entry'⟩ := first
    obtain ⟨hFresh, hRest⟩ := List.nodup_cons.mp hKeys
    rw [collect_cons]
    rcases List.mem_cons.mp hMem with hHere | hThere
    · obtain ⟨rfl, rfl⟩ := Prod.mk.inj hHere
      rw [view_collect_of_notMem h hFresh, h.own]
    · have hNe : k ≠ k' := by
        rintro rfl
        exact hFresh (List.mem_map.mpr ⟨(k, entry), hThere, rfl⟩)
      rw [ih hRest hThere, h.frame _ _ _ _ hNe]

/-- The values are those of the rounds taken each on the first state. -/
theorem collect_yields (h : Local turn view yield update) {l : List (κ × γ)}
    (hKeys : (l.map Prod.fst).Nodup) (s : σ) :
    (collect turn l s).1 = l.filterMap fun e => yield e.1 e.2 (view s e.1) := by
  induction l generalizing s with
  | nil => rfl
  | cons first rest ih =>
    obtain ⟨k, entry⟩ := first
    obtain ⟨hFresh, hRest⟩ := List.nodup_cons.mp hKeys
    have hLater : (rest.filterMap fun e => yield e.1 e.2 (view (turn s k entry).2 e.1)) =
        rest.filterMap fun e => yield e.1 e.2 (view s e.1) := by
      refine List.filterMap_congr fun e he => ?_
      have hNe : e.1 ≠ k := fun hEq => hFresh (List.mem_map.mpr ⟨e, he, hEq⟩)
      rw [h.frame _ _ _ _ hNe]
    rw [collect_cons]
    dsimp only
    rw [ih hRest, hLater, h.yields, List.filterMap_cons]
    cases yield k entry (view s k) <;> rfl

end KeyedLoop
