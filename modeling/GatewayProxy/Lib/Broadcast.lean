import Mathlib.Data.List.Basic

/-!
# Broadcast channels and bounded buffers

A channel that keeps every value for every receiver subscribed when the value
was sent (`tokio::sync::broadcast`, for receivers that never lag). The channel
is the list of all values sent so far, and a receiver is the position of the
next value it yields, so that what a receiver missed, has received and has yet
to receive are three stretches of one list. This is the documented behaviour of the
channel, which has no order but that of the sends.

A bounded buffer drops its oldest value to make room for a new one. After any
pushes it holds the `latest` of the values pushed.
-/

namespace Broadcast

/-- All values sent so far, in order. -/
structure Channel (α : Type) where
  sent : List α

structure Receiver where
  next : Nat
  deriving DecidableEq

variable {α : Type}

namespace Channel

def send (c : Channel α) (a : α) : Channel α := ⟨c.sent ++ [a]⟩

/-- A new receiver gets what is sent from now on. -/
def subscribe (c : Channel α) : Receiver := ⟨c.sent.length⟩

/-- The values from one position up to another. -/
def between (c : Channel α) (start stop : Nat) : List α := (c.sent.take stop).drop start

end Channel

/-- The next value, with the receiver after it. -/
def Receiver.recv (r : Receiver) (c : Channel α) : Option (α × Receiver) :=
  (c.sent[r.next]?).map fun a => (a, ⟨r.next + 1⟩)

@[simp] theorem sent_send (c : Channel α) (a : α) : (c.send a).sent = c.sent ++ [a] := rfl

theorem length_send (c : Channel α) (a : α) : (c.send a).sent.length = c.sent.length + 1 := by
  rw [sent_send, List.length_append, List.length_singleton]

/-- The values sent after a send are the old ones and the new one. -/
theorem getElem?_send {c : Channel α} {a b : α} {i : Nat} :
    (c.send a).sent[i]? = some b ↔ c.sent[i]? = some b ∨ i = c.sent.length ∧ b = a := by
  rw [sent_send, List.getElem?_append]
  split
  · rename_i hLt
    constructor
    · exact .inl
    · rintro (h | ⟨rfl, -⟩)
      · exact h
      · omega
  · rename_i hGe
    rw [List.getElem?_eq_none (by omega : c.sent.length ≤ i), List.getElem?_singleton]
    constructor
    · intro h
      split at h
      · exact .inr ⟨by omega, (Option.some.inj h).symm⟩
      · simp at h
    · rintro (h | ⟨rfl, rfl⟩)
      · simp at h
      · rw [Nat.sub_self, if_pos rfl]

theorem recv_eq_some {r r' : Receiver} {c : Channel α} {a : α} (h : r.recv c = some (a, r')) :
    c.sent[r.next]? = some a ∧ r' = ⟨r.next + 1⟩ := by
  obtain ⟨b, hGet, hPair⟩ := Option.map_eq_some_iff.mp h
  obtain ⟨rfl, rfl⟩ := Prod.mk.inj hPair
  exact ⟨hGet, rfl⟩

/-- A stretch that was sent already is not changed by sending more. -/
theorem between_send {c : Channel α} {a : α} {start stop : Nat} (h : stop ≤ c.sent.length) :
    (c.send a).between start stop = c.between start stop := by
  rw [Channel.between, Channel.between, sent_send, List.take_append_of_le_length h]

theorem between_self (c : Channel α) (start : Nat) : c.between start start = [] := by
  rw [Channel.between, List.drop_eq_nil_iff, List.length_take]
  exact Nat.min_le_left _ _

/-- Receiving one value extends the stretch received by it. -/
theorem between_succ {c : Channel α} {a : α} {start stop : Nat} (hLe : start ≤ stop)
    (hGet : c.sent[stop]? = some a) :
    c.between start (stop + 1) = c.between start stop ++ [a] := by
  obtain ⟨hBound, hEq⟩ := List.getElem?_eq_some_iff.mp hGet
  rw [Channel.between, Channel.between, List.take_add_one, hGet, Option.toList_some,
    List.drop_append_of_le_length]
  rw [List.length_take]
  omega

-- ---------------------------------------------------------------------------
-- Bounded buffers
-- ---------------------------------------------------------------------------

/-- The last `n` values. -/
def latest (n : Nat) (l : List α) : List α := l.drop (l.length - n)

@[simp] theorem latest_nil (n : Nat) : latest n ([] : List α) = [] := List.drop_nil

theorem length_latest (n : Nat) (l : List α) : (latest n l).length = min n l.length := by
  rw [latest, List.length_drop]
  omega

/-- Dropping the oldest of a full buffer before a push keeps the latest values. -/
theorem latest_push {n : Nat} (hn : 0 < n) (l : List α) (a : α) :
    (if n ≤ (latest n l).length then (latest n l).tail else latest n l) ++ [a] =
      latest n (l ++ [a]) := by
  rw [length_latest]
  by_cases hFull : n ≤ l.length
  · rw [if_pos (by omega), latest, latest, List.tail_drop, List.length_append,
      List.length_singleton, List.drop_append_of_le_length (by omega)]
    congr 2
    omega
  · rw [if_neg (by omega), latest, latest, List.length_append, List.length_singleton,
      Nat.sub_eq_zero_of_le (by omega : l.length ≤ n),
      Nat.sub_eq_zero_of_le (by omega : l.length + 1 ≤ n)]
    rfl

end Broadcast
