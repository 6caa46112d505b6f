import Mathlib.Logic.Basic

/-!
# Waiting on a watched cell

A cell that holds the latest value sent, with a version that every send advances
(`tokio::sync::watch`). A waiter that looks at the cell remembers the version it
saw; it sleeps until the version is another one. This is the documented behaviour of
the channel, and nothing else of its implementation is used. A waiter for a value to be there
(`Waiter`) looks, returns the value or goes to sleep, and looks again when it
wakes. Between its steps the value may come and go.

A sleeping waiter is `Sound` if it saw no value at the version it remembers. The
steps keep waiters sound, so a waiter that cannot wake has nothing to wake for
(`Waiter.Sound.wakes`).
-/

namespace Watch

structure Cell (α : Type) where
  value : α
  version : Nat
  deriving DecidableEq

variable {α : Type}

def Cell.send (c : Cell α) (a : α) : Cell α := ⟨a, c.version + 1⟩

inductive Waiter (α : Type)
  | looking
  /-- after a look at this version -/
  | sleeping (seen : Nat)
  | returned (a : α)
  deriving DecidableEq

namespace Waiter

/-- `borrow_and_update`, and the test of the value. -/
def look (c : Cell (Option α)) : Waiter α → Option (Waiter α)
  | looking =>
    match c.value with
    | some a => some (returned a)
    | none => some (sleeping c.version)
  | _ => none

/-- `changed` returns once the version is not the one that was seen. -/
def wake (c : Cell (Option α)) : Waiter α → Option (Waiter α)
  | sleeping seen => if seen = c.version then none else some looking
  | _ => none

/-- A sleeping waiter saw no value. -/
def Sound (c : Cell (Option α)) : Waiter α → Prop
  | sleeping seen => seen ≤ c.version ∧ (seen = c.version → c.value = none)
  | _ => True

variable {c : Cell (Option α)} {w w' : Waiter α}

/-- A send finds every sleeping waiter behind. -/
theorem Sound.send (h : w.Sound c) (a : Option α) : w.Sound (c.send a) := by
  cases w with
  | sleeping seen =>
    obtain ⟨hLe, -⟩ := h
    refine ⟨Nat.le_succ_of_le hLe, fun hSame => ?_⟩
    have hVersion : seen = c.version + 1 := hSame
    omega
  | looking => trivial
  | returned _ => trivial

theorem look_sound (h : w.look c = some w') : w'.Sound c := by
  cases w with
  | looking =>
    cases hValue : c.value with
    | none =>
      rw [look, hValue] at h
      obtain rfl := Option.some.inj h
      exact ⟨Nat.le_refl _, fun _ => hValue⟩
    | some a =>
      rw [look, hValue] at h
      obtain rfl := Option.some.inj h
      trivial
  | sleeping _ => cases h
  | returned _ => cases h

theorem wake_eq_some (h : w.wake c = some w') : w' = .looking := by
  cases w with
  | sleeping seen =>
    rw [wake] at h
    split at h
    · cases h
    · exact (Option.some.inj h).symm
  | looking => cases h
  | returned _ => cases h

/-- What a look returns is what the cell holds. -/
theorem look_eq_returned {a : α} (h : w.look c = some (.returned a)) : c.value = some a := by
  cases w with
  | looking =>
    cases hValue : c.value with
    | none =>
      rw [look, hValue] at h
      cases Option.some.inj h
    | some b =>
      rw [look, hValue] at h
      rw [returned.inj (Option.some.inj h)]
  | sleeping _ => cases h
  | returned _ => cases h

/-- **No wake-up is lost.** While the cell has a value, a sound waiter is not
stuck asleep. -/
theorem Sound.wakes (h : w.Sound c) {a : α} (hValue : c.value = some a) {seen : Nat}
    (hSleeps : w = .sleeping seen) : w.wake c = some .looking := by
  subst hSleeps
  rw [wake, if_neg]
  intro hSame
  rw [h.2 hSame] at hValue
  cases hValue

end Waiter

end Watch
