import Mathlib.Data.List.Basic

/-!
# Fixed windows

A limiter that counts hits in a window and opens a new window at the first hit
after the old one has ended. The windows are not aligned to anything, so two of
them can meet inside an interval of their length.

Main results:

* `Tracks.step`: what the stored window says about all hits admitted so far.
* `admitted_close`: times that are closer to each other than the length of a
  window hold at most `2 * limit - 1` admitted hits.
* `refused_of_log`: who is refused has used up the limit.
-/

namespace FixedWindow

structure Window where
  start : Nat
  count : Nat
  deriving DecidableEq

/-- The window a hit falls into: the stored one, until it has ended. -/
def current (window : Nat) (stored : Option Window) (now : Nat) : Window :=
  match stored with
  | none => ⟨now, 0⟩
  | some w => if window ≤ now - w.start then ⟨now, 0⟩ else w

/-- Whether a hit is admitted, and the window that is stored. -/
def hit (limit window : Nat) (stored : Option Window) (now : Nat) : Bool × Window :=
  let w := current window stored now
  if limit ≤ w.count then (false, w) else (true, { w with count := w.count + 1 })

/-- The hits of a run, with the answers. -/
def log (limit window : Nat) : Option Window → List Nat → List (Nat × Bool)
  | _, [] => []
  | stored, now :: rest =>
    let answer := hit limit window stored now
    (now, answer.1) :: log limit window (some answer.2) rest

/-- The times of the hits that were admitted. -/
def admitted (hits : List (Nat × Bool)) : List Nat := (hits.filter Prod.snd).map Prod.fst

variable {limit window now : Nat} {stored : Option Window} {w : Window} {past : List Nat}

@[simp] theorem admitted_nil : admitted [] = [] := rfl

@[simp] theorem admitted_cons_true (hits : List (Nat × Bool)) :
    admitted ((now, true) :: hits) = now :: admitted hits := rfl

@[simp] theorem admitted_cons_false (hits : List (Nat × Bool)) :
    admitted ((now, false) :: hits) = admitted hits := rfl

-- ---------------------------------------------------------------------------
-- One hit
-- ---------------------------------------------------------------------------

/-- A hit opens a window, is counted in the stored one or is refused. -/
theorem hit_cases (hLimit : 1 ≤ limit) (hWindow : 0 < window) (stored : Option Window)
    (now : Nat) :
    (stored = none ∧ hit limit window stored now = (true, ⟨now, 1⟩)) ∨
    (∃ w, stored = some w ∧ w.start + window ≤ now ∧
      hit limit window stored now = (true, ⟨now, 1⟩)) ∨
    (∃ w, stored = some w ∧ now < w.start + window ∧ w.count < limit ∧
      hit limit window stored now = (true, ⟨w.start, w.count + 1⟩)) ∨
    ∃ w, stored = some w ∧ now < w.start + window ∧ limit ≤ w.count ∧
      hit limit window stored now = (false, w) := by
  have hOpen : current window stored now = ⟨now, 0⟩ →
      hit limit window stored now = (true, ⟨now, 1⟩) := by
    intro hCurrent
    rw [hit, hCurrent]
    exact if_neg (show ¬ limit ≤ 0 by omega)
  match stored with
  | none => exact .inl ⟨rfl, hOpen rfl⟩
  | some w =>
    by_cases hEnded : window ≤ now - w.start
    · have hCurrent : current window (some w) now = ⟨now, 0⟩ := if_pos hEnded
      exact .inr (.inl ⟨w, rfl, by omega, hOpen hCurrent⟩)
    · have hCurrent : current window (some w) now = w := if_neg hEnded
      by_cases hFull : limit ≤ w.count
      · refine .inr (.inr (.inr ⟨w, rfl, by omega, hFull, ?_⟩))
        rw [hit, hCurrent]
        exact if_pos hFull
      · refine .inr (.inr (.inl ⟨w, rfl, by omega, by omega, ?_⟩))
        rw [hit, hCurrent]
        exact if_neg hFull

-- ---------------------------------------------------------------------------
-- Counting
-- ---------------------------------------------------------------------------

/-- Times that are closer to each other than the length of a window. -/
def Close (window : Nat) (I : Nat → Bool) : Prop :=
  ∀ x y, I x = true → I y = true → y < x + window

theorem countP_le_split (I : Nat → Bool) (start : Nat) (l : List Nat) :
    l.countP I ≤ l.countP (fun x => I x && decide (x < start)) +
      l.countP (fun x => decide (start ≤ x)) := by
  induction l with
  | nil => exact Nat.le_refl 0
  | cons x l ih =>
    simp only [List.countP_cons]
    by_cases hx : x < start
    · have hNot : ¬ start ≤ x := by omega
      simp only [hx, hNot, decide_true, decide_false, Bool.and_true]
      omega
    · have hLe : start ≤ x := by omega
      simp only [hLe, decide_true, if_true]
      split <;> omega

/-- The start itself is not after the start. -/
theorem countP_after_lt {start : Nat} {l : List Nat} (h : start ∈ l) :
    l.countP (fun x => decide (start < x)) < l.countP (fun x => decide (start ≤ x)) := by
  obtain ⟨before, after, rfl⟩ := List.append_of_mem h
  have hMono : ∀ l : List Nat,
      l.countP (fun x => decide (start < x)) ≤ l.countP (fun x => decide (start ≤ x)) := by
    intro l
    refine List.countP_mono_left fun x _ hx => ?_
    have hLt := of_decide_eq_true hx
    exact decide_eq_true (by omega)
  have hBefore := hMono before
  have hAfter := hMono after
  simp only [List.countP_append, List.countP_cons, Nat.lt_irrefl, Nat.le_refl, decide_true,
    decide_false, Bool.false_eq_true, if_true, if_false]
  omega

-- ---------------------------------------------------------------------------
-- The stored window and the hits admitted so far
-- ---------------------------------------------------------------------------

/-- What a stored window says about the admitted hits: it was opened by one of
them and counts those from there on, and of the hits before it only few are close
to what may still come. -/
structure Counts (limit window : Nat) (past : List Nat) (w : Window) : Prop where
  opened : w.start ∈ past
  within : ∀ x ∈ past, x < w.start + window
  counts : past.countP (fun x => decide (w.start ≤ x)) = w.count
  bounded : w.count ≤ limit
  earlier : ∀ I, Close window I → ∀ y, I y = true → w.start ≤ y →
    past.countP (fun x => I x && decide (x < w.start)) + 1 ≤ limit
  close : ∀ I, Close window I → past.countP I + 1 ≤ 2 * limit

def Tracks (limit window : Nat) (past : List Nat) : Option Window → Prop
  | none => past = []
  | some w => Counts limit window past w

theorem counts_first (hLimit : 1 ≤ limit) (hWindow : 0 < window) (now : Nat) :
    Counts limit window [now] ⟨now, 1⟩ where
  opened := List.mem_singleton.mpr rfl
  within x hx := by
    obtain rfl := List.mem_singleton.mp hx
    show x < x + window
    omega
  counts := by simp
  bounded := hLimit
  earlier I _ y _ _ := by
    simp only [List.countP_cons, List.countP_nil, Nat.lt_irrefl, decide_false, Bool.and_false]
    exact hLimit
  close I _ := by
    have hOne : [now].countP I ≤ 1 := List.countP_le_length
    omega

/-- Only hits of the window are close to a time after its end, and the one that opened it
is not. -/
theorem Counts.after_end (h : Counts limit window past w) {I : Nat → Bool}
    (hClose : Close window I) {y : Nat} (hy : I y = true) (hEnded : w.start + window ≤ y) :
    past.countP I + 1 ≤ limit := by
  have hAfter : past.countP I ≤ past.countP (fun x => decide (w.start < x)) := by
    refine List.countP_mono_left fun x _ hx => ?_
    have hxy := hClose x y hx hy
    exact decide_eq_true (by omega)
  have hStrict := countP_after_lt h.opened
  have hCounts := h.counts
  have hBounded := h.bounded
  omega

/-- The first hit after the end of a window opens the next. -/
theorem Counts.reopen (h : Counts limit window past w) (hWindow : 0 < window)
    (hEnded : w.start + window ≤ now) : Counts limit window (past ++ [now]) ⟨now, 1⟩ := by
  have hBefore : ∀ x ∈ past, x < now := by
    intro x hx
    have hWithin := h.within x hx
    omega
  refine ⟨by simp, ?_, ?_, ?_, ?_, ?_⟩
  · intro x hx
    show x < now + window
    rcases List.mem_append.mp hx with hx | hx
    · have hLt := hBefore x hx
      omega
    · obtain rfl := List.mem_singleton.mp hx
      omega
  · have hNone : past.countP (fun x => decide (now ≤ x)) = 0 := by
      refine List.countP_eq_zero.mpr fun x hx hLe => ?_
      have hLt := hBefore x hx
      have hGe := of_decide_eq_true hLe
      omega
    show (past ++ [now]).countP (fun x => decide (now ≤ x)) = 1
    rw [List.countP_append, hNone]
    simp
  · have hPos : 0 < past.countP (fun x => decide (w.start ≤ x)) :=
      List.countP_pos_iff.mpr ⟨w.start, h.opened, decide_eq_true (Nat.le_refl w.start)⟩
    have hCounts := h.counts
    have hBounded := h.bounded
    show 1 ≤ limit
    omega
  · intro I hClose y hy hLe
    have hOld : past.countP (fun x => I x && decide (x < now)) ≤ past.countP I :=
      List.countP_mono_left fun x _ hx => (Bool.and_eq_true_iff.mp hx).1
    have hNew := h.after_end hClose hy (Nat.le_trans hEnded hLe)
    show (past ++ [now]).countP (fun x => I x && decide (x < now)) + 1 ≤ limit
    simp only [List.countP_append, List.countP_cons, List.countP_nil, Nat.lt_irrefl, decide_false,
      Bool.and_false, Bool.false_eq_true, if_false]
    omega
  · intro I hClose
    rw [List.countP_append]
    by_cases hNow : I now = true
    · have hNew := h.after_end hClose hNow hEnded
      have hOne : [now].countP I ≤ 1 := List.countP_le_length
      omega
    · have hZero : [now].countP I = 0 := by simp [hNow]
      have hOld := h.close I hClose
      omega

/-- A hit that is counted. -/
theorem Counts.count (h : Counts limit window past w) (hRunning : now < w.start + window)
    (hRoom : w.count < limit) (hNow : ∀ x ∈ past, x ≤ now) :
    Counts limit window (past ++ [now]) ⟨w.start, w.count + 1⟩ := by
  have hStart : w.start ≤ now := hNow w.start h.opened
  have hCounts := h.counts
  refine ⟨List.mem_append_left _ h.opened, ?_, ?_, hRoom, ?_, ?_⟩
  · intro x hx
    rcases List.mem_append.mp hx with hx | hx
    · exact h.within x hx
    · obtain rfl := List.mem_singleton.mp hx
      exact hRunning
  · show (past ++ [now]).countP (fun x => decide (w.start ≤ x)) = w.count + 1
    rw [List.countP_append, hCounts]
    simp [hStart]
  · intro I hClose y hy hLe
    have hOld := h.earlier I hClose y hy hLe
    have hNot : ¬ now < w.start := by omega
    show (past ++ [now]).countP (fun x => I x && decide (x < w.start)) + 1 ≤ limit
    simp only [List.countP_append, List.countP_cons, List.countP_nil, hNot, decide_false,
      Bool.and_false]
    exact hOld
  · intro I hClose
    rw [List.countP_append]
    by_cases hIn : I now = true
    · have hOld := h.earlier I hClose now hIn hStart
      have hSplit := countP_le_split I w.start past
      have hOne : [now].countP I ≤ 1 := List.countP_le_length
      omega
    · have hZero : [now].countP I = 0 := by simp [hIn]
      have hOld := h.close I hClose
      omega

/-- **Step lemma.** The stored window keeps track of the admitted hits. -/
theorem Tracks.step (hLimit : 1 ≤ limit) (hWindow : 0 < window)
    (h : Tracks limit window past stored) (hNow : ∀ x ∈ past, x ≤ now) :
    Tracks limit window
      (past ++ if (hit limit window stored now).1 then [now] else [])
      (some (hit limit window stored now).2) := by
  rcases hit_cases hLimit hWindow stored now with ⟨rfl, hHit⟩ | ⟨w, rfl, hEnded, hHit⟩ |
    ⟨w, rfl, hRunning, hRoom, hHit⟩ | ⟨w, rfl, -, -, hHit⟩
  · obtain rfl : past = [] := h
    rw [hHit]
    exact counts_first hLimit hWindow now
  · rw [hHit]
    exact Counts.reopen h hWindow hEnded
  · rw [hHit]
    exact Counts.count h hRunning hRoom hNow
  · rw [hHit]
    simpa using h

/-- A hit is refused when the limit is used up. -/
theorem Tracks.refused (hLimit : 1 ≤ limit) (hWindow : 0 < window)
    (h : Tracks limit window past stored) (hRefused : (hit limit window stored now).1 = false) :
    limit ≤ past.countP (fun x => decide (now < x + window)) := by
  rcases hit_cases hLimit hWindow stored now with ⟨-, hHit⟩ | ⟨_, -, -, hHit⟩ |
    ⟨_, -, -, -, hHit⟩ | ⟨w, rfl, hRunning, hFull, -⟩
  · simp [hHit] at hRefused
  · simp [hHit] at hRefused
  · simp [hHit] at hRefused
  · have hCounts : Counts limit window past w := h
    have hMono : past.countP (fun x => decide (w.start ≤ x)) ≤
        past.countP (fun x => decide (now < x + window)) := by
      refine List.countP_mono_left fun x _ hx => ?_
      have hLe := of_decide_eq_true hx
      exact decide_eq_true (by omega)
    have hCount := hCounts.counts
    omega

theorem Tracks.close (hLimit : 1 ≤ limit) (h : Tracks limit window past stored) {I : Nat → Bool}
    (hClose : Close window I) : past.countP I + 1 ≤ 2 * limit := by
  match stored, h with
  | none, h =>
    obtain rfl : past = [] := h
    show 0 + 1 ≤ 2 * limit
    omega
  | some w, h =>
    have hCounts : Counts limit window past w := h
    exact hCounts.close I hClose

-- ---------------------------------------------------------------------------
-- Runs
-- ---------------------------------------------------------------------------

/-- The times of a run go on from the hits admitted so far. -/
theorem sorted_hit {rest : List Nat} (hSorted : (past ++ now :: rest).Pairwise (· ≤ ·))
    (answer : Bool) :
    (∀ x ∈ past, x ≤ now) ∧
      ((past ++ if answer then [now] else []) ++ rest).Pairwise (· ≤ ·) := by
  refine ⟨fun x hx => (List.pairwise_append.mp hSorted).2.2 x hx now (.head _), ?_⟩
  refine hSorted.sublist ?_
  rw [List.append_assoc]
  refine List.Sublist.append (List.Sublist.refl past) ?_
  cases answer with
  | true => exact List.Sublist.refl _
  | false => exact List.sublist_cons_self now rest

theorem admitted_close_of (hLimit : 1 ≤ limit) (hWindow : 0 < window) {I : Nat → Bool}
    (hClose : Close window I) {times : List Nat} (h : Tracks limit window past stored)
    (hSorted : (past ++ times).Pairwise (· ≤ ·)) :
    (past ++ admitted (log limit window stored times)).countP I + 1 ≤ 2 * limit := by
  induction times generalizing past stored with
  | nil =>
    show (past ++ []).countP I + 1 ≤ 2 * limit
    rw [List.append_nil]
    exact h.close hLimit hClose
  | cons now rest ih =>
    obtain ⟨hNow, hRest⟩ := sorted_hit hSorted (hit limit window stored now).1
    have hNext := ih (h.step hLimit hWindow hNow) hRest
    rw [log]
    generalize hit limit window stored now = answer at hNext
    obtain ⟨answer, w⟩ := answer
    cases answer with
    | true => simpa using hNext
    | false => simpa using hNext

/-- **Close times hold less than two limits.** -/
theorem admitted_close (hLimit : 1 ≤ limit) (hWindow : 0 < window) {I : Nat → Bool}
    (hClose : Close window I) {times : List Nat} (hSorted : times.Pairwise (· ≤ ·)) :
    (admitted (log limit window none times)).countP I ≤ 2 * limit - 1 := by
  have hStart : Tracks limit window [] none := rfl
  have hBound := admitted_close_of hLimit hWindow hClose hStart hSorted
  rw [List.nil_append] at hBound
  omega

theorem refused_of (hLimit : 1 ≤ limit) (hWindow : 0 < window) {times : List Nat}
    (h : Tracks limit window past stored) (hSorted : (past ++ times).Pairwise (· ≤ ·))
    {before after : List (Nat × Bool)}
    (hLog : log limit window stored times = before ++ (now, false) :: after) :
    limit ≤ (past ++ admitted before).countP (fun x => decide (now < x + window)) := by
  induction times generalizing past stored before with
  | nil =>
    have hNil : [] = before ++ (now, false) :: after := hLog
    exact absurd hNil.symm (by simp)
  | cons first rest ih =>
    obtain ⟨hNow, hRest⟩ := sorted_hit hSorted (hit limit window stored first).1
    rw [log] at hLog
    match before with
    | [] =>
      obtain ⟨hHead, -⟩ := List.cons.inj hLog
      obtain ⟨rfl, hRefused⟩ := Prod.mk.inj hHead
      rw [admitted_nil, List.append_nil]
      exact h.refused hLimit hWindow hRefused
    | entry :: before =>
      rw [List.cons_append] at hLog
      obtain ⟨rfl, hTail⟩ := List.cons.inj hLog
      have hNext := ih (h.step hLimit hWindow hNow) hRest hTail
      generalize hit limit window stored first = answer at hNext
      obtain ⟨answer, w⟩ := answer
      cases answer with
      | true => simpa using hNext
      | false => simpa using hNext

/-- **Who is refused has used up the limit.** -/
theorem refused_of_log (hLimit : 1 ≤ limit) (hWindow : 0 < window) {times : List Nat}
    (hSorted : times.Pairwise (· ≤ ·)) {before after : List (Nat × Bool)}
    (hLog : log limit window none times = before ++ (now, false) :: after) :
    limit ≤ (admitted before).countP (fun x => decide (now < x + window)) := by
  have hStart : Tracks limit window [] none := rfl
  exact refused_of hLimit hWindow hStart hSorted hLog

end FixedWindow
