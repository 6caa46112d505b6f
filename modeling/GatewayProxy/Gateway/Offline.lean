import GatewayProxy.Lib.Broadcast
import GatewayProxy.Lib.Runs
import GatewayProxy.Source.Dispatch

/-!
# Handing over to the offline buffer

A tenant `c` that uses one connection at a time, on a single shard. The shard's
task broadcasts an event and then looks whether `c` is connected, to buffer the
event if not. The connection's task is counted as connected, drains the buffer
and subscribes; at its end the subscription goes first and the count second. The
steps of the two tasks, and those of other clients, interleave freely.

An event is handed over if it was broadcast to a subscription of `c` or pushed
to its buffer. `NoLoss` says that of every event kept for `c` whose check is
done.

Main results:

* `offlineInv_step`: the count of `c` follows its connection, its buffer holds
  the latest of the events pushed since the last drain, and each drain returned
  the latest of those pushed before it.
* `noLoss_step`: a step keeps `NoLoss` exactly when it is no `LossStep`.
* `offline_handover_iff`: a run loses no event exactly when none of its steps is
  a `LossStep`.
* `offline_event_lost`: a run that loses one.
-/

namespace GatewayProxy

open Utf8 Assoc Broadcast GatewayProxy.Inner

/-- Where the connection of `c` is. -/
inductive ConnPhase
  | offline
  | marked
  | drained
  /-- subscribed when `since` events had been broadcast -/
  | live (since : Nat)
  /-- the subscription is gone, the count is not -/
  | ended
  deriving DecidableEq

structure Relayed where
  eventName : Str
  event : BroadcastMessage

/-- The event between its broadcast and its check. -/
structure Checking where
  relayed : Relayed
  /-- history: where the connection was at the broadcast -/
  broadcastAt : ConnPhase

structure Offline where
  inner : Inner
  channel : Channel Relayed
  checking : Option Checking
  phase : ConnPhase
  /-- history: the subscriptions that ended, from one position up to another -/
  subscriptions : List (Nat × Nat)
  /-- history: the positions of the events pushed since the last drain -/
  pushed : List Nat
  /-- history: for each drain, what was pushed before it and what it returned -/
  drains : List (List Nat × List BufferedClientEvent)

/-- What the connection of another client does to the shared state. -/
inductive ConnOp
  | markConnected
  | drain
  | markDisconnected (now : Nat)

def ConnOp.apply (inner : Inner) (clientId : Str) : ConnOp → Inner
  | .markConnected => inner.markClientConnected clientId
  | .drain => (inner.drainOfflineEventsForClient clientId).2
  | .markDisconnected now => inner.markClientDisconnected clientId now

inductive OfflineStep
  | relay (relayed : Relayed)
  | check (now : Str → Nat)
  | markConnected
  | drain
  | subscribe
  | abort
  | markDisconnected (now : Nat)
  | other (clientId : Str) (op : ConnOp)

namespace Offline

def new (shards : List Shard) (shardCount : Nat) : Offline :=
  ⟨Inner.new shards shardCount, ⟨[]⟩, none, .offline, [], [], []⟩

/-- How many events were checked. -/
def checked (s : Offline) : Nat :=
  s.channel.sent.length - if s.checking.isSome then 1 else 0

def step (clients : Clients) (c : Str) (s : Offline) : OfflineStep → Option Offline
  | .relay relayed =>
    match s.checking with
    | none => some { s with
        channel := s.channel.send relayed
        checking := some ⟨relayed, s.phase⟩ }
    | some _ => none
  | .check now =>
    s.checking.map fun k => { s with
      inner := (bufferEvent clients s.inner k.relayed.eventName k.relayed.event now).2
      checking := none
      pushed :=
        if isBufferedFor clients c k.relayed.eventName k.relayed.event ∧
            s.inner.connectionCount c = 0 then s.pushed ++ [s.checked]
        else s.pushed }
  | .markConnected =>
    match s.phase with
    | .offline => some { s with inner := s.inner.markClientConnected c, phase := .marked }
    | _ => none
  | .drain =>
    match s.phase with
    | .marked =>
      let (events, inner) := s.inner.drainOfflineEventsForClient c
      some { s with
        inner := inner
        phase := .drained
        pushed := []
        drains := s.drains ++ [(s.pushed, events)] }
    | _ => none
  | .subscribe =>
    match s.phase with
    | .drained => some { s with phase := .live s.channel.subscribe.next }
    | _ => none
  | .abort =>
    match s.phase with
    | .marked | .drained => some { s with phase := .ended }
    | .live since => some { s with
        phase := .ended
        subscriptions := s.subscriptions ++ [(since, s.channel.sent.length)] }
    | _ => none
  | .markDisconnected now =>
    match s.phase with
    | .ended => some { s with
        inner := s.inner.markClientDisconnected c now
        phase := .offline }
    | _ => none
  | .other clientId op =>
    if clientId = c then none else some { s with inner := op.apply s.inner clientId }

/-- The event at position `i` was broadcast to a subscription of `c`. -/
def Heard (s : Offline) (i : Nat) : Prop :=
  (∃ p ∈ s.subscriptions, p.1 ≤ i ∧ i < p.2) ∨ ∃ since, s.phase = .live since ∧ since ≤ i

def HandedOver (s : Offline) (i : Nat) : Prop :=
  s.Heard i ∨ i ∈ s.pushed ∨ ∃ d ∈ s.drains, i ∈ d.1

/-- The events at some positions, as they are buffered. -/
def bufferedAt (channel : Channel Relayed) (positions : List Nat) : List BufferedClientEvent :=
  positions.filterMap fun i => channel.sent[i]?.map fun relayed => relayed.event.buffered

end Offline

open Offline

/-- Every event kept for `c` that was checked was handed over. -/
def NoLoss (clients : Clients) (c : Str) (s : Offline) : Prop :=
  ∀ i relayed, s.channel.sent[i]? = some relayed →
    isBufferedFor clients c relayed.eventName relayed.event = true → i < s.checked → s.HandedOver i

/-- The steps that lose an event: a check that finds `c` counted as connected,
of an event kept for `c` that was broadcast while `c` had no subscription. -/
def LossStep (clients : Clients) (c : Str) (s : Offline) : OfflineStep → Prop
  | .check _ => ∃ k, s.checking = some k ∧
      isBufferedFor clients c k.relayed.eventName k.relayed.event = true ∧
      (∀ since, k.broadcastAt ≠ .live since) ∧ s.phase ≠ .offline
  | _ => False

-- ---------------------------------------------------------------------------
-- Invariants
-- ---------------------------------------------------------------------------

structure OfflineInv (c : Str) (s : Offline) : Prop where
  counted : s.inner.connectionCount c = if s.phase = .offline then 0 else 1
  checking_last : ∀ k, s.checking = some k →
    ∃ n, s.channel.sent.length = n + 1 ∧ s.channel.sent[n]? = some k.relayed ∧
      (s.Heard n ↔ ∃ since, k.broadcastAt = .live since)
  subscriptions_le : ∀ p ∈ s.subscriptions, p.2 ≤ s.channel.sent.length
  pushed_lt : ∀ i ∈ s.pushed, i < s.checked
  drains_lt : ∀ d ∈ s.drains, ∀ i ∈ d.1, i < s.checked
  since_le : ∀ since, s.phase = .live since → since ≤ s.channel.sent.length
  /-- the 200 latest of the events pushed since the last drain -/
  buffer_eq : s.inner.offlineBuffer c =
    latest offlineEventBufferLimit (bufferedAt s.channel s.pushed)
  drains_eq : ∀ d ∈ s.drains, d.2 = latest offlineEventBufferLimit (bufferedAt s.channel d.1)

theorem offlineInv_new (c : Str) (shards : List Shard) (shardCount : Nat) :
    OfflineInv c (Offline.new shards shardCount) where
  counted := rfl
  checking_last := by
    intro k hChecking
    cases hChecking
  subscriptions_le := by
    intro p hp
    cases hp
  pushed_lt := by
    intro i hi
    cases hi
  drains_lt := by
    intro d hd
    cases hd
  since_le := by
    intro since hPhase
    cases hPhase
  buffer_eq := (latest_nil offlineEventBufferLimit).symm
  drains_eq := by
    intro d hd
    cases hd

section Steps

variable {clients : Clients} {c : Str} {s t : Offline}

/-- Broadcasting more does not change the events at earlier positions. -/
theorem bufferedAt_send {channel : Channel Relayed} {relayed : Relayed} {positions : List Nat}
    (h : ∀ i ∈ positions, i < channel.sent.length) :
    bufferedAt (channel.send relayed) positions = bufferedAt channel positions := by
  unfold bufferedAt
  apply List.filterMap_congr
  intro i hi
  rw [sent_send, List.getElem?_append_left (h i hi)]

theorem bufferedAt_append_singleton {channel : Channel Relayed} {relayed : Relayed}
    {positions : List Nat} {i : Nat} (h : channel.sent[i]? = some relayed) :
    bufferedAt channel (positions ++ [i]) =
      bufferedAt channel positions ++ [relayed.event.buffered] := by
  simp [bufferedAt, h]

theorem checked_le (s : Offline) : s.checked ≤ s.channel.sent.length := Nat.sub_le ..

/-- The event that is being checked comes after all that were checked. -/
theorem checked_of_checking {k : Checking} {n : Nat} (hChecking : s.checking = some k)
    (hLength : s.channel.sent.length = n + 1) : s.checked = n := by
  rw [checked, hChecking, hLength]
  rfl

/-- Another client's connection leaves the count and the buffer of `c` alone. -/
theorem connOp_frame (inner : Inner) {clientId : Str} (hOther : clientId ≠ c) (op : ConnOp) :
    (op.apply inner clientId).connectionCount c = inner.connectionCount c ∧
      (op.apply inner clientId).offlineBuffer c = inner.offlineBuffer c := by
  have hNe : c ≠ clientId := hOther.symm
  cases op with
  | markConnected =>
    exact ⟨(connectionCount_markClientConnected c).trans (if_neg hNe),
      offlineBuffer_markClientConnected c⟩
  | drain => exact ⟨connectionCount_drain c, (offlineBuffer_drain c).trans (if_neg hNe)⟩
  | markDisconnected now =>
    exact ⟨(connectionCount_markClientDisconnected now c).trans (if_neg hNe),
      offlineBuffer_markClientDisconnected now c⟩

theorem Offline.relay_eq_some {relayed : Relayed}
    (hStep : s.step clients c (.relay relayed) = some t) :
    s.checking = none ∧ t = { s with
      channel := s.channel.send relayed
      checking := some ⟨relayed, s.phase⟩ } := by
  rw [Offline.step] at hStep
  split at hStep
  · rename_i hChecking
    exact ⟨hChecking, (Option.some.inj hStep).symm⟩
  · cases hStep

theorem Offline.markConnected_eq_some (hStep : s.step clients c .markConnected = some t) :
    s.phase = .offline ∧
      t = { s with inner := s.inner.markClientConnected c, phase := .marked } := by
  rw [Offline.step] at hStep
  split at hStep
  · rename_i hPhase
    exact ⟨hPhase, (Option.some.inj hStep).symm⟩
  · cases hStep

theorem Offline.drain_eq_some (hStep : s.step clients c .drain = some t) :
    s.phase = .marked ∧ t = { s with
      inner := (s.inner.drainOfflineEventsForClient c).2
      phase := .drained
      pushed := []
      drains := s.drains ++ [(s.pushed, s.inner.offlineBuffer c)] } := by
  rw [Offline.step] at hStep
  split at hStep
  · rename_i hPhase
    exact ⟨hPhase, (Option.some.inj hStep).symm⟩
  · cases hStep

theorem Offline.subscribe_eq_some (hStep : s.step clients c .subscribe = some t) :
    s.phase = .drained ∧ t = { s with phase := .live s.channel.sent.length } := by
  rw [Offline.step] at hStep
  split at hStep
  · rename_i hPhase
    exact ⟨hPhase, (Option.some.inj hStep).symm⟩
  · cases hStep

theorem Offline.markDisconnected_eq_some {now : Nat}
    (hStep : s.step clients c (.markDisconnected now) = some t) :
    s.phase = .ended ∧
      t = { s with inner := s.inner.markClientDisconnected c now, phase := .offline } := by
  rw [Offline.step] at hStep
  split at hStep
  · rename_i hPhase
    exact ⟨hPhase, (Option.some.inj hStep).symm⟩
  · cases hStep

theorem Offline.other_eq_some {clientId : Str} {op : ConnOp}
    (hStep : s.step clients c (.other clientId op) = some t) :
    clientId ≠ c ∧ t = { s with inner := op.apply s.inner clientId } := by
  rw [Offline.step] at hStep
  split at hStep
  · cases hStep
  · rename_i hOther
    exact ⟨hOther, (Option.some.inj hStep).symm⟩

/-- What the check does: nothing, or a push of the event checked. -/
theorem check_eq_some {now : Str → Nat} (hInv : OfflineInv c s)
    (hStep : s.step clients c (.check now) = some t) :
    ∃ k n, s.checking = some k ∧ s.channel.sent.length = n + 1 ∧ s.checked = n ∧
      s.channel.sent[n]? = some k.relayed ∧
      t = { s with
        inner := t.inner
        checking := none
        pushed :=
          if isBufferedFor clients c k.relayed.eventName k.relayed.event ∧ s.phase = .offline then
            s.pushed ++ [n]
          else s.pushed } ∧
      t.inner.connectionCount c = s.inner.connectionCount c ∧
      t.inner.offlineBuffer c =
        if isBufferedFor clients c k.relayed.eventName k.relayed.event ∧ s.phase = .offline then
          pushBounded (s.inner.offlineBuffer c) k.relayed.event.buffered
        else s.inner.offlineBuffer c := by
  obtain ⟨k, hChecking, rfl⟩ := Option.map_eq_some_iff.mp hStep
  obtain ⟨n, hLength, hLast, -⟩ := hInv.checking_last k hChecking
  have hChecked := checked_of_checking hChecking hLength
  have hOffline : s.inner.connectionCount c = 0 ↔ s.phase = .offline := by
    rw [hInv.counted]
    split <;> simp [*]
  obtain ⟨hBuffer, hCounts⟩ := offlineBuffer_bufferEvent s.inner now clients c
    k.relayed.eventName k.relayed.event
  simp only [hOffline] at hBuffer
  refine ⟨k, n, hChecking, hLength, hChecked, hLast, ?_, hCounts c, hBuffer⟩
  simp only [hOffline, hChecked]

/-- The end of the connection's task keeps in the history what was heard. -/
theorem abort_eq_some (hInv : OfflineInv c s) (hStep : s.step clients c .abort = some t) :
    s.phase ≠ .offline ∧ t = { s with phase := .ended, subscriptions := t.subscriptions } ∧
      (∀ p ∈ t.subscriptions, p.2 ≤ s.channel.sent.length) ∧
      ∀ i < s.channel.sent.length, t.Heard i ↔ s.Heard i := by
  have hSubs := hInv.subscriptions_le
  rw [Offline.step] at hStep
  cases hPhase : s.phase with
  | offline =>
    rw [hPhase] at hStep
    cases hStep
  | ended =>
    rw [hPhase] at hStep
    cases hStep
  | marked =>
    rw [hPhase] at hStep
    obtain rfl := Option.some.inj hStep
    exact ⟨by decide, rfl, hSubs, fun i _ => by simp [Heard, hPhase]⟩
  | drained =>
    rw [hPhase] at hStep
    obtain rfl := Option.some.inj hStep
    exact ⟨by decide, rfl, hSubs, fun i _ => by simp [Heard, hPhase]⟩
  | live since =>
    rw [hPhase] at hStep
    obtain rfl := Option.some.inj hStep
    refine ⟨by simp, rfl, ?_, ?_⟩
    · intro p hp
      obtain hp | hp := List.mem_append.mp hp
      · exact hSubs p hp
      · rw [List.mem_singleton.mp hp]
    · intro i hi
      constructor
      · rintro (⟨p, hp, hFrom, hUntil⟩ | ⟨since', hEnded, -⟩)
        · obtain hp | hp := List.mem_append.mp hp
          · exact .inl ⟨p, hp, hFrom, hUntil⟩
          · obtain rfl := List.mem_singleton.mp hp
            exact .inr ⟨since, hPhase, hFrom⟩
        · cases hEnded
      · rintro (⟨p, hp, hFrom, hUntil⟩ | ⟨since', hLive, hFrom⟩)
        · exact .inl ⟨p, List.mem_append_left _ hp, hFrom, hUntil⟩
        · obtain rfl : since = since' := ConnPhase.live.inj (hPhase.symm.trans hLive)
          exact .inl ⟨_, List.mem_append_right _ (.head _), hFrom, hi⟩

theorem offlineInv_step {a : OfflineStep} (hInv : OfflineInv c s)
    (hStep : s.step clients c a = some t) : OfflineInv c t := by
  have hBefore := hInv
  obtain ⟨hCounted, hLast, hSubs, hPushed, hDrains, hSince, hBuffer, hDrained⟩ := hInv
  have hLe := checked_le s
  cases a with
  | relay relayed =>
    obtain ⟨hChecking, rfl⟩ := relay_eq_some hStep
    have hChecked : s.checked = s.channel.sent.length := by
      rw [checked, hChecking]
      rfl
    have hLength := length_send s.channel relayed
    have hPushed' : ∀ i ∈ s.pushed, i < s.channel.sent.length := by
      intro i hi
      exact hChecked ▸ hPushed i hi
    have hDrains' : ∀ d ∈ s.drains, ∀ i ∈ d.1, i < s.channel.sent.length := by
      intro d hd i hi
      exact hChecked ▸ hDrains d hd i hi
    refine ⟨hCounted, ?_, ?_, ?_, ?_, ?_, ?_, ?_⟩
    · intro k hk
      obtain rfl := Option.some.inj hk
      refine ⟨s.channel.sent.length, hLength, getElem?_send.mpr (.inr ⟨rfl, rfl⟩), ?_⟩
      constructor
      · rintro (⟨p, hp, -, hAfter⟩ | ⟨since, hPhase, -⟩)
        · exact absurd (hSubs p hp) (by omega)
        · exact ⟨since, hPhase⟩
      · rintro ⟨since, hPhase⟩
        exact .inr ⟨since, hPhase, hSince since hPhase⟩
    · intro p hp
      have := hSubs p hp
      show p.2 ≤ (s.channel.send relayed).sent.length
      omega
    · intro i hi
      show i < (s.channel.send relayed).sent.length - 1
      have := hPushed' i hi
      omega
    · intro d hd i hi
      show i < (s.channel.send relayed).sent.length - 1
      have := hDrains' d hd i hi
      omega
    · intro since hPhase
      show since ≤ (s.channel.send relayed).sent.length
      have := hSince since hPhase
      omega
    · show s.inner.offlineBuffer c = latest _ (bufferedAt (s.channel.send relayed) s.pushed)
      rw [bufferedAt_send hPushed']
      exact hBuffer
    · intro d hd
      show d.2 = latest _ (bufferedAt (s.channel.send relayed) d.1)
      rw [bufferedAt_send (hDrains' d hd)]
      exact hDrained d hd
  | check now =>
    obtain ⟨k, n, -, hLength, hChecked, hGet, hEq, hCount, hBuffer'⟩ :=
      check_eq_some hBefore hStep
    have hDone : t.checked = n + 1 := by
      rw [hEq]
      exact hLength
    have hChannel : t.channel = s.channel := by rw [hEq]
    have hPhase : t.phase = s.phase := by rw [hEq]
    have hPushedEq : t.pushed = if isBufferedFor clients c k.relayed.eventName k.relayed.event ∧
        s.phase = .offline then s.pushed ++ [n] else s.pushed := by rw [hEq]
    refine ⟨?_, ?_, ?_, ?_, ?_, ?_, ?_, ?_⟩
    · rw [hCount, hPhase]
      exact hCounted
    · intro k' hk'
      rw [hEq] at hk'
      cases hk'
    · rw [hEq]
      exact hSubs
    · intro i hi
      rw [hDone]
      rw [hPushedEq] at hi
      split at hi
      · obtain hi | hi := List.mem_append.mp hi
        · have := hPushed i hi
          omega
        · rw [List.mem_singleton.mp hi]
          exact Nat.lt_succ_self n
      · have := hPushed i hi
        omega
    · intro d hd i hi
      rw [hEq] at hd
      have := hDrains d hd i hi
      omega
    · rw [hEq]
      exact hSince
    · rw [hBuffer', hPushedEq, hChannel]
      split
      · rw [bufferedAt_append_singleton hGet, pushBounded, hBuffer,
          latest_push (by decide)]
      · exact hBuffer
    · rw [hEq]
      exact hDrained
  | markConnected =>
    obtain ⟨hPhase, rfl⟩ := markConnected_eq_some hStep
    refine ⟨?_, ?_, hSubs, hPushed, hDrains, ?_, hBuffer, hDrained⟩
    · show (s.inner.markClientConnected c).connectionCount c = 1
      rw [connectionCount_markClientConnected, if_pos rfl, hCounted, hPhase, if_pos rfl]
    · simpa [Heard, hPhase] using hLast
    · intro since hMarked
      cases hMarked
  | drain =>
    obtain ⟨hPhase, rfl⟩ := drain_eq_some hStep
    refine ⟨?_, ?_, hSubs, ?_, ?_, ?_, ?_, ?_⟩
    · rw [hPhase] at hCounted
      exact hCounted
    · simpa [Heard, hPhase] using hLast
    · intro i hi
      cases hi
    · intro d hd i hi
      obtain hd | hd := List.mem_append.mp hd
      · exact hDrains d hd i hi
      · rw [List.mem_singleton.mp hd] at hi
        exact hPushed i hi
    · intro since hDrainedPhase
      cases hDrainedPhase
    · exact ((offlineBuffer_drain c).trans (if_pos rfl)).trans (latest_nil _).symm
    · intro d hd
      obtain hd | hd := List.mem_append.mp hd
      · exact hDrained d hd
      · rw [List.mem_singleton.mp hd]
        exact hBuffer
  | subscribe =>
    obtain ⟨hPhase, rfl⟩ := subscribe_eq_some hStep
    refine ⟨?_, ?_, hSubs, hPushed, hDrains, ?_, hBuffer, hDrained⟩
    · rw [hPhase] at hCounted
      exact hCounted
    · intro k hk
      obtain ⟨n, hLength, hGet, hHeard⟩ := hLast k hk
      refine ⟨n, hLength, hGet, ?_⟩
      rw [← hHeard]
      constructor
      · rintro (hOld | ⟨since, hLive, hAfter⟩)
        · exact .inl hOld
        · obtain rfl : s.channel.sent.length = since := ConnPhase.live.inj hLive
          omega
      · rintro (hOld | ⟨since, hLive, -⟩)
        · exact .inl hOld
        · rw [hPhase] at hLive
          cases hLive
    · intro since hLive
      obtain rfl : s.channel.sent.length = since := ConnPhase.live.inj hLive
      exact Nat.le_refl _
  | abort =>
    obtain ⟨hCountedPhase, hEq, hSubs', hHeard⟩ := abort_eq_some hBefore hStep
    rw [if_neg hCountedPhase] at hCounted
    rw [hEq] at hHeard ⊢
    refine ⟨hCounted, ?_, hSubs', hPushed, hDrains, ?_, hBuffer, hDrained⟩
    · intro k hk
      obtain ⟨n, hLength, hGet, hBroadcast⟩ := hLast k hk
      exact ⟨n, hLength, hGet, (hHeard n (by omega)).trans hBroadcast⟩
    · intro since hEnded
      cases hEnded
  | markDisconnected now =>
    obtain ⟨hPhase, rfl⟩ := markDisconnected_eq_some hStep
    refine ⟨?_, ?_, hSubs, hPushed, hDrains, ?_, ?_, hDrained⟩
    · show (s.inner.markClientDisconnected c now).connectionCount c = 0
      rw [connectionCount_markClientDisconnected, if_pos rfl, hCounted, hPhase]
      rfl
    · simpa [Heard, hPhase] using hLast
    · intro since hOffline
      cases hOffline
    · exact (offlineBuffer_markClientDisconnected now c).trans hBuffer
  | other clientId op =>
    obtain ⟨hOther, rfl⟩ := other_eq_some hStep
    obtain ⟨hCount, hSame⟩ := connOp_frame s.inner hOther op
    exact ⟨hCount.trans hCounted, hLast, hSubs, hPushed, hDrains, hSince, hSame.trans hBuffer,
      hDrained⟩

/-- A step that broadcasts nothing, checks nothing and hands over what was handed
over keeps `NoLoss`, both ways. -/
theorem noLoss_congr (hChannel : t.channel = s.channel) (hChecking : t.checking = s.checking)
    (hHanded : ∀ i < s.channel.sent.length, t.HandedOver i ↔ s.HandedOver i) :
    NoLoss clients c t ↔ NoLoss clients c s := by
  have hChecked : t.checked = s.checked := by rw [checked, checked, hChannel, hChecking]
  rw [NoLoss, NoLoss, hChannel, hChecked]
  constructor
  · intro h i relayed hGet hKept hDone
    exact (hHanded i (Nat.lt_of_lt_of_le hDone (checked_le s))).mp (h i relayed hGet hKept hDone)
  · intro h i relayed hGet hKept hDone
    exact (hHanded i (Nat.lt_of_lt_of_le hDone (checked_le s))).mpr (h i relayed hGet hKept hDone)

/-- **Step lemma.** A step keeps `NoLoss` exactly when it is no `LossStep`. -/
theorem noLoss_step {a : OfflineStep} (hInv : OfflineInv c s)
    (hStep : s.step clients c a = some t) :
    NoLoss clients c t ↔ NoLoss clients c s ∧ ¬ LossStep clients c s a := by
  cases a with
  | relay relayed =>
    refine Iff.trans ?_ (and_iff_left not_false).symm
    obtain ⟨hChecking, rfl⟩ := relay_eq_some hStep
    -- the new event is not checked yet
    have hDone : ∀ i, i < (s.channel.send relayed).sent.length - 1 ↔ i < s.checked := by
      intro i
      rw [length_send, checked, hChecking]
      rfl
    constructor
    · intro h i relayed' hGet hKept hi
      exact h i relayed' (getElem?_send.mpr (.inl hGet)) hKept ((hDone i).mpr hi)
    · intro h i relayed' hGet hKept hi
      have hi' := (hDone i).mp hi
      obtain hGet | ⟨rfl, -⟩ := getElem?_send.mp hGet
      · exact h i relayed' hGet hKept hi'
      · exact absurd hi' (Nat.not_lt.mpr (checked_le s))
  | check now =>
    obtain ⟨k, n, hChecking, hLength, hChecked, hGet, hEq, -, -⟩ := check_eq_some hInv hStep
    obtain ⟨n', hLength', -, hHeard⟩ := hInv.checking_last k hChecking
    obtain rfl : n = n' := by omega
    have hDone : t.checked = n + 1 := by
      rw [hEq]
      exact hLength
    have hChannel : t.channel = s.channel := by rw [hEq]
    -- the events checked before are handed over as they were
    have hOld : ∀ i < n, t.HandedOver i ↔ s.HandedOver i := by
      intro i hi
      have hNe : i ≠ n := by omega
      rw [hEq]
      unfold HandedOver Heard
      dsimp only
      split <;> simp [hNe]
    -- nothing but the broadcast and this check can hand over the event
    have hNew : t.HandedOver n ↔ (∃ since, k.broadcastAt = .live since) ∨
        isBufferedFor clients c k.relayed.eventName k.relayed.event = true ∧
          s.phase = .offline := by
      have hNotPushed : n ∉ s.pushed := fun h => by
        have := hInv.pushed_lt n h
        omega
      have hNotDrained : ¬ ∃ d ∈ s.drains, n ∈ d.1 := by
        rintro ⟨d, hd, hn⟩
        have := hInv.drains_lt d hd n hn
        omega
      rw [← hHeard, hEq]
      unfold HandedOver Heard
      dsimp only
      split
      · rename_i hPush
        simp [hPush]
      · rename_i hPush
        simp [hPush, hNotPushed, hNotDrained]
    rw [NoLoss, hChannel, hDone, NoLoss, hChecked, LossStep]
    constructor
    · intro h
      refine ⟨fun i relayed hi hKept hBefore =>
        (hOld i hBefore).mp (h i relayed hi hKept (by omega)), ?_⟩
      rintro ⟨k', hk', hKept, hUnheard, hCounted⟩
      obtain rfl : k = k' := Option.some.inj (hChecking.symm.trans hk')
      obtain ⟨since, hLive⟩ | ⟨-, hOffline⟩ := hNew.mp (h n k.relayed hGet hKept (by omega))
      · exact hUnheard since hLive
      · exact hCounted hOffline
    · rintro ⟨h, hNot⟩ i relayed hi hKept hBefore
      obtain hBefore | rfl := Nat.lt_succ_iff_lt_or_eq.mp hBefore
      · exact (hOld i hBefore).mpr (h i relayed hi hKept hBefore)
      · obtain rfl : k.relayed = relayed := Option.some.inj (hGet.symm.trans hi)
        refine hNew.mpr ?_
        by_contra hLost
        push Not at hLost
        exact hNot ⟨k, hChecking, hKept, hLost.1, hLost.2 hKept⟩
  | markConnected =>
    refine Iff.trans ?_ (and_iff_left not_false).symm
    obtain ⟨hPhase, rfl⟩ := markConnected_eq_some hStep
    exact noLoss_congr rfl rfl fun i _ => by simp [HandedOver, Heard, hPhase]
  | drain =>
    refine Iff.trans ?_ (and_iff_left not_false).symm
    obtain ⟨hPhase, rfl⟩ := drain_eq_some hStep
    refine noLoss_congr rfl rfl fun i _ => ?_
    simp [HandedOver, Heard, hPhase, or_and_right, exists_or, or_comm]
  | subscribe =>
    refine Iff.trans ?_ (and_iff_left not_false).symm
    obtain ⟨hPhase, rfl⟩ := subscribe_eq_some hStep
    refine noLoss_congr rfl rfl fun i hi => ?_
    have hAfter : ¬ s.channel.sent.length ≤ i := by omega
    simp [HandedOver, Heard, hPhase, hAfter]
  | abort =>
    refine Iff.trans ?_ (and_iff_left not_false).symm
    obtain ⟨-, hEq, -, hHeard⟩ := abort_eq_some hInv hStep
    refine noLoss_congr (by rw [hEq]) (by rw [hEq]) fun i hi => ?_
    have hPushed : t.pushed = s.pushed := by rw [hEq]
    have hDrains : t.drains = s.drains := by rw [hEq]
    rw [HandedOver, HandedOver, hHeard i hi, hPushed, hDrains]
  | markDisconnected now =>
    refine Iff.trans ?_ (and_iff_left not_false).symm
    obtain ⟨hPhase, rfl⟩ := markDisconnected_eq_some hStep
    exact noLoss_congr rfl rfl fun i _ => by simp [HandedOver, Heard, hPhase]
  | other clientId op =>
    refine Iff.trans ?_ (and_iff_left not_false).symm
    obtain ⟨-, rfl⟩ := other_eq_some hStep
    exact noLoss_congr rfl rfl fun _ _ => Iff.rfl

end Steps

-- ---------------------------------------------------------------------------
-- Runs
-- ---------------------------------------------------------------------------

/-- **When the hand-over loses nothing.** In every run of a tenant that uses one
connection at a time, whatever the interleaving with the shard's task and with
other clients: every event kept for the tenant whose check is done was broadcast
to its subscription or pushed to its buffer if and only if no check found the
tenant counted as connected for an event that was broadcast while it had no
subscription. What was pushed is in the buffer or was returned by the next drain,
apart from what the limit of the buffer evicted, oldest first. -/
theorem offline_handover_iff (clients : Clients) (c : Str) (shards : List Shard)
    (shardCount : Nat) (steps : List OfflineStep) (s : Offline)
    (hRun : Runs.exec (Offline.step clients c) (Offline.new shards shardCount) steps = some s) :
    (NoLoss clients c s ↔
      Runs.Meets (Offline.step clients c) (fun s a => ¬ LossStep clients c s a)
        (Offline.new shards shardCount) steps) ∧
    s.inner.offlineBuffer c = latest offlineEventBufferLimit (bufferedAt s.channel s.pushed) ∧
    ∀ d ∈ s.drains, d.2 = latest offlineEventBufferLimit (bufferedAt s.channel d.1) := by
  have hInit := offlineInv_new c shards shardCount
  have hInv : OfflineInv c s :=
    Runs.exec_invariant (fun _ _ _ hInv hStep => offlineInv_step hInv hStep) hInit hRun
  refine ⟨?_, hInv.buffer_eq, hInv.drains_eq⟩
  have hNone : NoLoss clients c (Offline.new shards shardCount) := by
    intro i relayed _ _ hChecked
    exact absurd hChecked (Nat.not_lt_zero i)
  rw [Runs.exec_iff_meets (fun _ _ _ hInv hStep => offlineInv_step hInv hStep)
    (fun _ _ _ hInv hStep => noLoss_step hInv hStep) hInit hRun]
  exact and_iff_right hNone

namespace SampleOffline

/-- A message of guild 7. -/
def relayed : Relayed where
  eventName := "MESSAGE_CREATE".toList
  event :=
    { payload := "\x7b\"t\":\"MESSAGE_CREATE\",\"s\":90,\"op\":0,\"d\":\x7b\"guild_id\":\"7\"\x7d\x7d".toList
      sequence := GatewayEvent.findSequence
        "\x7b\"t\":\"MESSAGE_CREATE\",\"s\":90,\"op\":0,\"d\":\x7b\"guild_id\":\"7\"\x7d\x7d".toList
      guildId := some 7
      audience := .guild
      sequence_eq := rfl }

def c : Str := "c".toList

def clock : Str → Nat := fun _ => 0

/-- Client `c` has guild 7. -/
def clients : Clients := (∅ : Clients).insert c ⟨"s".toList, {7}, none, none⟩

/-- Relayed while away, then connecting, then relayed again. -/
def steps : List OfflineStep :=
  [.relay relayed, .check clock, .markConnected, .drain, .subscribe, .relay relayed, .check clock]

/-- Relayed between the count and the subscription. -/
def lossySteps : List OfflineStep :=
  [.markConnected, .relay relayed, .check clock, .drain, .subscribe]

end SampleOffline

/-- One event while away and one after the subscription are both handed over. -/
theorem offline_handover_both :
    ∃ s, Runs.exec (Offline.step SampleOffline.clients SampleOffline.c) (Offline.new [] 1)
        SampleOffline.steps = some s ∧ NoLoss SampleOffline.clients SampleOffline.c s := by
  refine ⟨_, rfl, ?_⟩
  refine (offline_handover_iff SampleOffline.clients SampleOffline.c [] 1 SampleOffline.steps _
    rfl).1.mpr ?_
  simp [SampleOffline.steps, Runs.Meets, LossStep, Offline.step, Offline.new]

/-- An event broadcast after the connection was counted and before it subscribed
is neither heard nor buffered. -/
theorem offline_event_lost :
    ∃ s, Runs.exec (Offline.step SampleOffline.clients SampleOffline.c) (Offline.new [] 1)
        SampleOffline.lossySteps = some s ∧ ¬ NoLoss SampleOffline.clients SampleOffline.c s := by
  refine ⟨_, rfl, ?_⟩
  intro hNoLoss
  obtain hHeard | hPushed | hDrained := hNoLoss 0 SampleOffline.relayed rfl (by decide) (by decide)
  · obtain ⟨p, hp, -⟩ | ⟨since, hLive, hAfter⟩ := hHeard
    · cases hp
    · obtain rfl : 1 = since := ConnPhase.live.inj hLive
      omega
  · exact absurd hPushed (by decide)
  · obtain ⟨d, hd, hMem⟩ := hDrained
    rw [List.mem_singleton.mp hd] at hMem
    cases hMem

end GatewayProxy
