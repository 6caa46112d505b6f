import GatewayProxy.Lib.Broadcast

/-!
# Broadcast channels that forget

A channel that keeps its latest `capacity` values only: the number asked for,
which `tokio` rounds up to a power of two. The results hold for every capacity. A
receiver that falls further behind is told how many values it lost and goes on with
the oldest that is kept. `Delivered` accounts for what a receiver yielded: the values, in order,
out of the stretch since its subscription, and the losses for the rest of it.
-/

namespace Broadcast

variable {α : Type}

/-- What a receiver yields. -/
inductive Recv (α : Type)
  | value (a : α)
  | lagged (amount : Nat)
  deriving DecidableEq

/-- The next value, or the number of those lost; none where the receiver waits. -/
def Receiver.recvKept (r : Receiver) (capacity : Nat) (c : Channel α) :
    Option (Recv α × Receiver) :=
  let oldest := c.sent.length - capacity
  if r.next < oldest then some (.lagged (oldest - r.next), ⟨oldest⟩)
  else (r.recv c).map fun p => (.value p.1, p.2)

/-- The values among the outcomes. -/
def values (outcomes : List (Recv α)) : List α :=
  outcomes.filterMap fun outcome =>
    match outcome with
    | .value a => some a
    | .lagged _ => none

/-- How many values the outcomes say were lost. -/
def lost : List (Recv α) → Nat
  | [] => 0
  | .value _ :: rest => lost rest
  | .lagged amount :: rest => amount + lost rest

theorem values_append (a b : List (Recv α)) : values (a ++ b) = values a ++ values b :=
  List.filterMap_append

theorem lost_append (a b : List (Recv α)) : lost (a ++ b) = lost a + lost b := by
  induction a with
  | nil => exact (Nat.zero_add _).symm
  | cons outcome rest ih =>
    cases outcome with
    | value _ => exact ih
    | lagged amount =>
      show amount + lost (rest ++ b) = amount + lost rest + lost b
      omega

/-- The outcomes of a receiver that subscribed at `since`. -/
structure Delivered (c : Channel α) (since : Nat) (outcomes : List (Recv α)) (r : Receiver) :
    Prop where
  bound : r.next ≤ c.sent.length
  count : since + (values outcomes).length + lost outcomes = r.next
  sublist : (values outcomes).Sublist (c.between since r.next)
  lagged_pos : ∀ amount, .lagged amount ∈ outcomes → 0 < amount

theorem delivered_subscribe (c : Channel α) : Delivered c c.sent.length [] c.subscribe where
  bound := Nat.le_refl _
  count := rfl
  sublist := List.nil_sublist _
  lagged_pos := by
    intro amount hMem
    cases hMem

/-- What is sent later does not change what was delivered. -/
theorem Delivered.send {c : Channel α} {since : Nat} {outcomes : List (Recv α)} {r : Receiver}
    (h : Delivered c since outcomes r) (a : α) : Delivered (c.send a) since outcomes r where
  bound := by
    rw [length_send]
    exact Nat.le_succ_of_le h.bound
  count := h.count
  sublist := by
    rw [between_send h.bound]
    exact h.sublist
  lagged_pos := h.lagged_pos

theorem between_sublist (c : Channel α) (since : Nat) {stop stop' : Nat} (h : stop ≤ stop') :
    (c.between since stop).Sublist (c.between since stop') :=
  (List.take_sublist_take_left h).drop since

/-- What a receive yields, and where it leaves the receiver. -/
theorem recvKept_eq_some {c : Channel α} {capacity : Nat} {r r' : Receiver} {outcome : Recv α}
    (h : r.recvKept capacity c = some (outcome, r')) :
    (r.next + capacity < c.sent.length ∧
        outcome = .lagged (c.sent.length - capacity - r.next) ∧
        r' = ⟨c.sent.length - capacity⟩) ∨
      (c.sent.length ≤ r.next + capacity ∧
        ∃ a, c.sent[r.next]? = some a ∧ outcome = .value a ∧ r' = ⟨r.next + 1⟩) := by
  unfold Receiver.recvKept at h
  dsimp only at h
  split at h
  · rename_i hBehind
    obtain ⟨rfl, rfl⟩ := Prod.mk.inj (Option.some.inj h)
    exact .inl ⟨by omega, rfl, rfl⟩
  · rename_i hKept
    obtain ⟨⟨a, r''⟩, hRecv, hPair⟩ := Option.map_eq_some_iff.mp h
    obtain ⟨rfl, rfl⟩ := Prod.mk.inj hPair
    obtain ⟨hGet, rfl⟩ := recv_eq_some hRecv
    exact .inr ⟨by omega, a, hGet, rfl, rfl⟩

/-- One more outcome is accounted for. -/
theorem Delivered.recv {c : Channel α} {capacity since : Nat} {outcomes : List (Recv α)}
    {r r' : Receiver} {outcome : Recv α} (h : Delivered c since outcomes r)
    (hRecv : r.recvKept capacity c = some (outcome, r')) :
    Delivered c since (outcomes ++ [outcome]) r' := by
  have hCount := h.count
  rcases recvKept_eq_some hRecv with ⟨hBehind, rfl, rfl⟩ | ⟨-, a, hGet, rfl, rfl⟩
  · refine ⟨Nat.sub_le _ _, ?_, ?_, fun amount hMem => ?_⟩
    · have hOne : lost [Recv.lagged (α := α) (c.sent.length - capacity - r.next)] =
          c.sent.length - capacity - r.next := rfl
      rw [values_append, lost_append, hOne]
      show since + (values outcomes ++ []).length + _ = c.sent.length - capacity
      rw [List.append_nil]
      omega
    · rw [values_append]
      show (values outcomes ++ []).Sublist _
      rw [List.append_nil]
      exact h.sublist.trans (between_sublist c since (by dsimp only; omega))
    · rcases List.mem_append.mp hMem with hOld | hNew
      · exact h.lagged_pos amount hOld
      · rw [Recv.lagged.inj (List.mem_singleton.mp hNew)]
        omega
  · have hBound : r.next < c.sent.length := (List.getElem?_eq_some_iff.mp hGet).1
    refine ⟨hBound, ?_, ?_, fun amount hMem => ?_⟩
    · rw [values_append, lost_append, List.length_append]
      show since + ((values outcomes).length + 1) + (lost outcomes + 0) = r.next + 1
      omega
    · rw [values_append, between_succ (by omega) hGet]
      exact h.sublist.append (List.Sublist.refl _)
    · rcases List.mem_append.mp hMem with hOld | hNew
      · exact h.lagged_pos amount hOld
      · cases List.mem_singleton.mp hNew

/-- Outcomes without a loss are values. -/
theorem eq_map_values {outcomes : List (Recv α)}
    (hPos : ∀ amount, .lagged amount ∈ outcomes → 0 < amount) (hNone : lost outcomes = 0) :
    outcomes = (values outcomes).map .value := by
  induction outcomes with
  | nil => rfl
  | cons outcome rest ih =>
    have hCons : lost (outcome :: rest) = lost [outcome] + lost rest := lost_append [outcome] rest
    have hRest := ih (fun amount hMem => hPos amount (List.mem_cons_of_mem _ hMem)) (by omega)
    cases outcome with
    | value a => exact congrArg (Recv.value a :: ·) hRest
    | lagged amount =>
      have hAmount := hPos amount List.mem_cons_self
      have hOne : lost [Recv.lagged (α := α) amount] = amount := rfl
      omega

/-- A receiver that was told of no loss has every value since its subscription. -/
theorem Delivered.complete {c : Channel α} {since : Nat} {outcomes : List (Recv α)}
    {r : Receiver} (h : Delivered c since outcomes r) (hNone : lost outcomes = 0) :
    outcomes = (c.between since r.next).map .value := by
  have hAll : values outcomes = c.between since r.next := by
    refine h.sublist.eq_of_length ?_
    have hCount := h.count
    have hBound := h.bound
    rw [Channel.between, List.length_drop, List.length_take]
    omega
  rw [← hAll]
  exact eq_map_values h.lagged_pos hNone

end Broadcast
