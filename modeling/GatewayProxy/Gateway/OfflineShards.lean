import GatewayProxy.Gateway.Forwarding
import GatewayProxy.Gateway.Offline

/-!
# The offline buffer of a client on several shards

A tenant `c` with any number of connections, each to a shard. The task of each
shard relays the events of its guilds and looks after each whether `c` is
connected. The count of connections and the buffer are the client's, whatever
the shards: an event of a shard that `c` has no connection to is not buffered
while `c` has one to another shard, and what was buffered is replayed on the
first connection that drains, whatever its shard.

Main results:

* `shardInv_step`: what is delivered stays on its shard, and what nobody hears is
  buffered, as long as no check and no drain crosses shards.
* `offline_stays_on_shard_when`: the same for runs, and a step that crosses
  leads to a state where it fails.
* `offline_crosses_shards`: a client with a connection to the other shard.
-/

namespace GatewayProxy

open Utf8 Assoc Broadcast GatewayProxy.Inner

/-- Where the forwarding of a connection is. -/
inductive TaskPhase
  /-- the connection is counted, and nothing is drained -/
  | counted
  | replaying (rest : List BufferedClientEvent)
  | live (receiver : Receiver)
  /-- the forwarding is aborted, the count is still there -/
  | ended
  | gone

structure ShardConn where
  shardId : Nat
  phase : TaskPhase

namespace ShardConn

def isOpen (conn : ShardConn) : Bool :=
  match conn.phase with
  | .gone => false
  | _ => true

/-- What the connection has drained and not replayed yet. -/
def toReplay (conn : ShardConn) : List BufferedClientEvent :=
  match conn.phase with
  | .replaying rest => rest
  | _ => []

end ShardConn

/-- An event between its broadcast and its check. -/
structure Dispatched where
  relayed : Relayed
  /-- history: `c` had a connection to the shard at the broadcast -/
  connected : Bool

/-- History: an event whose check is done. -/
structure Checked where
  event : BufferedClientEvent
  /-- it is kept for `c` while away, by the registry at the check -/
  kept : Bool
  connected : Bool
  /-- the buffer of `c` before and after the check -/
  before : List BufferedClientEvent
  after : List BufferedClientEvent

/-- An event that is kept for `c`, and that no connection of `c` could hear, was
put in the buffer. -/
def Checked.BufferedUnheard (checked : Checked) : Prop :=
  checked.kept = true → checked.connected = false →
    checked.after = pushBounded checked.before checked.event

structure OfflineShards where
  inner : Inner
  /-- the registry -/
  clients : Clients
  channels : Nat → Channel BroadcastMessage
  /-- what the task of each shard is about to check -/
  checking : Nat → Option Dispatched
  /-- the connections of `c`, in the order in which they were accepted -/
  conns : List ShardConn
  /-- history: what was sent to `c`, with the shard of the connection -/
  delivered : List (Nat × BufferedClientEvent)
  checks : List Checked

inductive ShardsStep
  | registry (clients : Clients)
  | relay (shardId : Nat) (relayed : Relayed)
  | check (shardId : Nat) (now : Str → Nat)
  /-- an IDENTIFY or RESUME is accepted and counted -/
  | connect (shardId : Nat)
  | drain (i : Nat)
  | replay (i : Nat)
  | subscribe (i : Nat)
  | receive (i : Nat)
  | lag (i amount : Nat)
  | abort (i : Nat)
  | disconnect (i now : Nat)
  | other (clientId : Str) (op : ConnOp)

namespace OfflineShards

def new (shards : List Shard) (shardCount : Nat) (clients : Clients) : OfflineShards :=
  ⟨Inner.new shards shardCount, clients, fun _ => ⟨[]⟩, fun _ => none, [], [], []⟩

/-- The event is of a guild of the shard, if it is of a guild. -/
def OnShard (s : OfflineShards) (shardId : Nat) (guildId : Option Nat) : Prop :=
  ∀ g, guildId = some g → s.inner.shardIdForGuild g = shardId

instance (s : OfflineShards) (shardId : Nat) (guildId : Option Nat) :
    Decidable (s.OnShard shardId guildId) :=
  match guildId with
  | none => isTrue fun _ h => (nomatch h)
  | some g => decidable_of_iff (s.inner.shardIdForGuild g = shardId)
      ⟨fun h _ hEq => Option.some.inj hEq ▸ h, fun h => h g rfl⟩

/-- `c` has a connection to the shard. -/
def connectedTo (s : OfflineShards) (shardId : Nat) : Bool :=
  s.conns.any fun conn => conn.shardId == shardId && conn.isOpen

def setPhase (s : OfflineShards) (i shardId : Nat) (phase : TaskPhase) : OfflineShards :=
  { s with conns := s.conns.set i ⟨shardId, phase⟩ }

/-- Sends the events on a connection to the shard. -/
def deliver (s : OfflineShards) (shardId : Nat) (events : List BufferedClientEvent) :
    OfflineShards :=
  { s with delivered := s.delivered ++ events.map fun event => (shardId, event) }

def step (c : Str) (s : OfflineShards) : ShardsStep → Option OfflineShards
  | .registry clients => some { s with clients := clients }
  | .relay shardId relayed =>
    match s.checking shardId with
    | none =>
      -- Discord sends the events of a guild on the shard of the guild
      if s.OnShard shardId relayed.event.guildId then some { s with
        channels := Function.update s.channels shardId
          ((s.channels shardId).send relayed.event)
        checking := Function.update s.checking shardId
          (some ⟨relayed, s.connectedTo shardId⟩) }
      else none
    | some _ => none
  | .check shardId now =>
    (s.checking shardId).map fun d =>
      let inner := (bufferEvent s.clients s.inner d.relayed.eventName d.relayed.event now).2
      { s with
        inner := inner
        checking := Function.update s.checking shardId none
        checks := s.checks ++ [{
          event := d.relayed.event.buffered
          kept := isBufferedFor s.clients c d.relayed.eventName d.relayed.event
          connected := d.connected
          before := s.inner.offlineBuffer c
          after := inner.offlineBuffer c }] }
  | .connect shardId => some { s with
      inner := s.inner.markClientConnected c
      conns := s.conns ++ [⟨shardId, .counted⟩] }
  | .drain i =>
    match s.conns[i]? with
    | some ⟨shardId, .counted⟩ =>
      let (events, inner) := s.inner.drainOfflineEventsForClient c
      some { s.setPhase i shardId (.replaying events) with inner := inner }
    | _ => none
  | .replay i =>
    match s.conns[i]? with
    | some ⟨shardId, .replaying (event :: rest)⟩ =>
      some ((s.setPhase i shardId (.replaying rest)).deliver shardId
        (visibleReplayed c [(s.clients, event)]))
    | _ => none
  | .subscribe i =>
    match s.conns[i]? with
    | some ⟨shardId, .replaying []⟩ =>
      some (s.setPhase i shardId (.live (s.channels shardId).subscribe))
    | _ => none
  | .receive i =>
    match s.conns[i]? with
    | some ⟨shardId, .live receiver⟩ =>
      (receiver.recv (s.channels shardId)).map fun (message, receiver) =>
        (s.setPhase i shardId (.live receiver)).deliver shardId
          (visibleLive c [(s.clients, .message message)])
    | _ => none
  | .lag i amount =>
    match s.conns[i]? with
    | some ⟨shardId, .live receiver⟩ =>
      some (s.setPhase i shardId (.live ⟨receiver.next + amount⟩))
    | _ => none
  | .abort i =>
    match s.conns[i]? with
    | some ⟨shardId, .counted⟩ | some ⟨shardId, .replaying _⟩ | some ⟨shardId, .live _⟩ =>
      some (s.setPhase i shardId .ended)
    | _ => none
  | .disconnect i now =>
    match s.conns[i]? with
    | some ⟨shardId, .ended⟩ =>
      some { s.setPhase i shardId .gone with inner := s.inner.markClientDisconnected c now }
    | _ => none
  | .other clientId op =>
    if clientId = c then none else some { s with inner := op.apply s.inner clientId }

/-- Every event was delivered on a connection to its shard, and every event kept
for `c` that no connection to its shard could hear was put in the buffer. -/
structure StaysOnShard (s : OfflineShards) : Prop where
  delivered : ∀ d ∈ s.delivered, s.OnShard d.1 d.2.guildId
  buffered : ∀ checked ∈ s.checks, checked.BufferedUnheard

/-- No check and no drain crosses shards: an event that `c` had no connection for
is checked while `c` is not connected at all, and a connection drains a buffer
with events of its own shard only. -/
def OwnShard (c : Str) (s : OfflineShards) : ShardsStep → Prop
  | .check shardId _ => ∀ d, s.checking shardId = some d → d.connected = false →
      isBufferedFor s.clients c d.relayed.eventName d.relayed.event = true →
      s.inner.isClientConnected c = false
  | .drain i => ∀ conn, s.conns[i]? = some conn →
      ∀ event ∈ s.inner.offlineBuffer c, s.OnShard conn.shardId event.guildId
  | _ => True

-- ---------------------------------------------------------------------------
-- The number of shards
-- ---------------------------------------------------------------------------

theorem shardCount_bufferEventForClient (event : BufferedClientEvent) (guildId now : Nat)
    (inner : Inner) (clientId : Str) (config : ClientConfig) :
    (bufferEventForClient event guildId now inner clientId config).2.shardCount =
      inner.shardCount := by
  obtain ⟨attempts, hWoken⟩ := shouldWakeClient_lastWakeAttempts
    (inner.pushOfflineEventForClient clientId event) clientId wakeCooldown now
  have hCount := congrArg Inner.shardCount hWoken
  unfold bufferEventForClient
  split
  · rfl
  · split
    · rfl
    · dsimp only
      split
      · exact hCount
      · exact hCount

theorem shardCount_bufferEvent (clients : Clients) (inner : Inner) (eventName : Str)
    (message : BroadcastMessage) (now : Str → Nat) :
    (bufferEvent clients inner eventName message now).2.shardCount = inner.shardCount := by
  have hLoop : ∀ event guildId entries (inner : Inner),
      (bufferEventForClients event guildId now entries inner).2.shardCount = inner.shardCount := by
    intro event guildId entries
    induction entries with
    | nil => exact fun _ => rfl
    | cons entry rest ih =>
      intro inner
      rw [bufferEventForClients]
      exact (ih _).trans (shardCount_bufferEventForClient ..)
  unfold bufferEvent bufferEventForDisconnectedClients
  split
  · split
    · rfl
    · exact hLoop _ _ _ _
  · rfl

theorem shardCount_markClientDisconnected (inner : Inner) (clientId : Str) (now : Nat) :
    (inner.markClientDisconnected clientId now).shardCount = inner.shardCount := by
  unfold markClientDisconnected countDisconnected
  split <;> rfl

theorem shardCount_connOp (inner : Inner) (clientId : Str) (op : ConnOp) :
    (op.apply inner clientId).shardCount = inner.shardCount := by
  cases op with
  | markConnected => rfl
  | drain => rfl
  | markDisconnected now => exact shardCount_markClientDisconnected inner clientId now

section Steps

variable {c : Str} {s t : OfflineShards} {action : ShardsStep}

theorem onShard_congr (hCount : t.inner.shardCount = s.inner.shardCount) {shardId : Nat}
    {guildId : Option Nat} : t.OnShard shardId guildId ↔ s.OnShard shardId guildId := by
  unfold OnShard shardIdForGuild
  rw [hCount]

theorem abort_eq_some {i : Nat} (hStep : s.step c (.abort i) = some t) :
    ∃ shardId, t = s.setPhase i shardId .ended := by
  rw [step] at hStep
  split at hStep
  · exact ⟨_, (Option.some.inj hStep).symm⟩
  · exact ⟨_, (Option.some.inj hStep).symm⟩
  · exact ⟨_, (Option.some.inj hStep).symm⟩
  · cases hStep

-- ---------------------------------------------------------------------------
-- Invariants
-- ---------------------------------------------------------------------------

/-- What the tasks of the shards and of the connections hold is of their shard. -/
structure ShardInv (s : OfflineShards) : Prop where
  sent : ∀ shardId, ∀ message ∈ (s.channels shardId).sent, s.OnShard shardId message.guildId
  replaying : ∀ conn ∈ s.conns, ∀ event ∈ conn.toReplay, s.OnShard conn.shardId event.guildId
  stays : s.StaysOnShard

theorem shardInv_new (shards : List Shard) (shardCount : Nat) (clients : Clients) :
    ShardInv (new shards shardCount clients) where
  sent := fun _ _ h => (nomatch h)
  replaying := fun _ h => (nomatch h)
  stays := ⟨fun _ h => (nomatch h), fun _ h => (nomatch h)⟩

/-- Other operations on the shared state. -/
theorem ShardInv.inner {inner : Inner} (hInv : ShardInv s)
    (hCount : inner.shardCount = s.inner.shardCount) : ShardInv { s with inner := inner } where
  sent := fun shardId message hMem => (onShard_congr hCount).mpr (hInv.sent shardId message hMem)
  replaying := fun conn hConn event hMem =>
    (onShard_congr hCount).mpr (hInv.replaying conn hConn event hMem)
  stays := ⟨fun d hMem => (onShard_congr hCount).mpr (hInv.stays.delivered d hMem),
    hInv.stays.buffered⟩

/-- A connection goes on to a phase that holds events of its shard only. -/
theorem ShardInv.setPhase {i shardId : Nat} {phase : TaskPhase} (hInv : ShardInv s)
    (hOwn : ∀ event ∈ (⟨shardId, phase⟩ : ShardConn).toReplay, s.OnShard shardId event.guildId) :
    ShardInv (s.setPhase i shardId phase) where
  sent := hInv.sent
  replaying := by
    intro conn hConn event hMem
    rcases List.mem_or_eq_of_mem_set hConn with hOld | rfl
    · exact hInv.replaying conn hOld event hMem
    · exact hOwn event hMem
  stays := ⟨hInv.stays.delivered, hInv.stays.buffered⟩

theorem ShardInv.deliver {shardId : Nat} {events : List BufferedClientEvent} (hInv : ShardInv s)
    (hOwn : ∀ event ∈ events, s.OnShard shardId event.guildId) :
    ShardInv (s.deliver shardId events) where
  sent := hInv.sent
  replaying := hInv.replaying
  stays := by
    refine ⟨fun d hMem => ?_, hInv.stays.buffered⟩
    rcases List.mem_append.mp hMem with hOld | hNew
    · exact hInv.stays.delivered d hOld
    · obtain ⟨event, hEvent, rfl⟩ := List.mem_map.mp hNew
      exact hOwn event hEvent

theorem eq_of_mem_visibleReplayed {clients : Clients} {event event' : BufferedClientEvent}
    (h : event' ∈ visibleReplayed c [(clients, event)]) : event' = event := by
  obtain ⟨shown, hOne, hShown⟩ := Forwarding.visibleReplayed_one c clients event
  rw [hOne] at h
  exact (hShown event' (Option.mem_toList.mp h)).1

theorem eq_of_mem_visibleLive {clients : Clients} {message : BroadcastMessage}
    {event : BufferedClientEvent} (h : event ∈ visibleLive c [(clients, .message message)]) :
    event = message.buffered := by
  obtain ⟨shown, hOne, hShown⟩ := Forwarding.visibleLive_one c clients (.message message)
  rw [hOne] at h
  exact (Option.some.inj (hShown event (Option.mem_toList.mp h)).1).symm

/-- What the check does to the buffer, and what it leaves in the history. -/
theorem check_eq_some {shardId : Nat} {now : Str → Nat}
    (hStep : s.step c (.check shardId now) = some t) :
    ∃ d checked, s.checking shardId = some d ∧
      t = { s with
        inner := t.inner
        checking := Function.update s.checking shardId none
        checks := s.checks ++ [checked] } ∧
      checked.event = d.relayed.event.buffered ∧ checked.connected = d.connected ∧
      checked.kept = isBufferedFor s.clients c d.relayed.eventName d.relayed.event ∧
      checked.before = s.inner.offlineBuffer c ∧
      checked.after = (if checked.kept ∧ s.inner.isClientConnected c = false then
        pushBounded checked.before checked.event else checked.before) ∧
      t.inner.shardCount = s.inner.shardCount := by
  obtain ⟨d, hChecking, rfl⟩ := Option.map_eq_some_iff.mp hStep
  obtain ⟨hBuffer, -⟩ := offlineBuffer_bufferEvent s.inner now s.clients c
    d.relayed.eventName d.relayed.event
  have hConnected : s.inner.isClientConnected c = false ↔ s.inner.connectionCount c = 0 := by
    rw [isClientConnected, decide_eq_false_iff_not]
    omega
  refine ⟨d, _, hChecking, rfl, rfl, rfl, rfl, rfl, ?_, shardCount_bufferEvent ..⟩
  simp only [hConnected]
  exact hBuffer

/-- **Step lemma.** -/
theorem shardInv_step (hInv : ShardInv s) (hOwn : OwnShard c s action)
    (hStep : s.step c action = some t) : ShardInv t := by
  cases action with
  | registry clients =>
    obtain rfl := Option.some.inj hStep
    exact ⟨hInv.sent, hInv.replaying, hInv.stays.delivered, hInv.stays.buffered⟩
  | relay shardId relayed =>
    rw [step] at hStep
    split at hStep
    · split at hStep
      · rename_i hShard
        obtain rfl := Option.some.inj hStep
        refine ⟨fun k message hMem => ?_, hInv.replaying, hInv.stays.delivered, hInv.stays.buffered⟩
        by_cases hK : k = shardId
        · subst hK
          dsimp only at hMem
          rw [Function.update_self, sent_send] at hMem
          rcases List.mem_append.mp hMem with hOld | hNew
          · exact hInv.sent k message hOld
          · rw [List.mem_singleton.mp hNew]
            exact hShard
        · dsimp only at hMem
          rw [Function.update_of_ne hK] at hMem
          exact hInv.sent k message hMem
      · cases hStep
    · cases hStep
  | check shardId now =>
    obtain ⟨d, checked, hChecking, hEq, -, hConnected, hKept, -, hAfter, hCount⟩ :=
      check_eq_some hStep
    have hNew : checked.BufferedUnheard := by
      intro hKeep hUnheard
      have hAway := hOwn d hChecking (hConnected ▸ hUnheard) (hKept ▸ hKeep)
      rw [hAfter, if_pos ⟨hKeep, hAway⟩]
    have hSame := hInv.inner hCount
    rw [hEq]
    refine ⟨hSame.sent, hSame.replaying, hSame.stays.delivered, fun old hMem => ?_⟩
    rcases List.mem_append.mp hMem with hOld | hLast
    · exact hInv.stays.buffered old hOld
    · rw [List.mem_singleton.mp hLast]
      exact hNew
  | connect shardId =>
    obtain rfl := Option.some.inj hStep
    have hSame : ShardInv { s with inner := s.inner.markClientConnected c } := hInv.inner rfl
    refine ⟨hSame.sent, fun conn hConn event hMem => ?_, hSame.stays.delivered,
      hSame.stays.buffered⟩
    rcases List.mem_append.mp hConn with hOld | hNew
    · exact hSame.replaying conn hOld event hMem
    · rw [List.mem_singleton.mp hNew] at hMem
      cases hMem
  | drain i =>
    rw [step] at hStep
    split at hStep
    · rename_i shardId hConn
      obtain rfl := Option.some.inj hStep
      have hMoved : ShardInv (s.setPhase i shardId (.replaying (s.inner.offlineBuffer c))) :=
        hInv.setPhase (hOwn _ hConn)
      exact hMoved.inner rfl
    · cases hStep
  | replay i =>
    rw [step] at hStep
    split at hStep
    · rename_i shardId event rest hConn
      obtain rfl := Option.some.inj hStep
      have hHeld : ∀ held ∈ event :: rest, s.OnShard shardId held.guildId :=
        hInv.replaying _ (List.mem_of_getElem? hConn)
      have hMoved : ShardInv (s.setPhase i shardId (.replaying rest)) :=
        hInv.setPhase fun held hMem => hHeld held (List.mem_cons_of_mem _ hMem)
      refine hMoved.deliver fun sent hMem => ?_
      rw [eq_of_mem_visibleReplayed hMem]
      exact hHeld event List.mem_cons_self
    · cases hStep
  | subscribe i =>
    rw [step] at hStep
    split at hStep
    · obtain rfl := Option.some.inj hStep
      exact hInv.setPhase fun _ h => (nomatch h)
    · cases hStep
  | receive i =>
    rw [step] at hStep
    split at hStep
    · rename_i shardId receiver hConn
      obtain ⟨⟨message, receiver'⟩, hRecv, rfl⟩ := Option.map_eq_some_iff.mp hStep
      have hMoved : ShardInv (s.setPhase i shardId (.live receiver')) :=
        hInv.setPhase fun _ h => (nomatch h)
      refine hMoved.deliver fun sent hMem => ?_
      rw [eq_of_mem_visibleLive hMem]
      exact hInv.sent shardId message (List.mem_of_getElem? (recv_eq_some hRecv).1)
    · cases hStep
  | lag i amount =>
    rw [step] at hStep
    split at hStep
    · obtain rfl := Option.some.inj hStep
      exact hInv.setPhase fun _ h => (nomatch h)
    · cases hStep
  | abort i =>
    obtain ⟨shardId, rfl⟩ := abort_eq_some hStep
    exact hInv.setPhase fun _ h => (nomatch h)
  | disconnect i now =>
    rw [step] at hStep
    split at hStep
    · rename_i shardId _
      obtain rfl := Option.some.inj hStep
      have hMoved : ShardInv (s.setPhase i shardId .gone) :=
        hInv.setPhase fun _ h => (nomatch h)
      exact hMoved.inner (shardCount_markClientDisconnected ..)
    · cases hStep
  | other clientId op =>
    rw [step] at hStep
    split at hStep
    · cases hStep
    · obtain rfl := Option.some.inj hStep
      exact hInv.inner (shardCount_connOp ..)

-- ---------------------------------------------------------------------------
-- Crossing shards
-- ---------------------------------------------------------------------------

/-- The event that is checked next is not in the buffer of `c` already. -/
def Fresh (c : Str) (s : OfflineShards) : ShardsStep → Prop
  | .check shardId _ => ∀ d, s.checking shardId = some d →
      d.relayed.event.buffered ∉ s.inner.offlineBuffer c
  | _ => True

theorem mem_pushBounded (buffer : List BufferedClientEvent) (event : BufferedClientEvent) :
    event ∈ pushBounded buffer event := by
  unfold pushBounded
  exact List.mem_append_right _ (List.mem_singleton_self event)

/-- A check that finds `c` connected elsewhere loses the event. -/
theorem not_stays_of_check {shardId : Nat} {now : Str → Nat} {d : Dispatched}
    (hStep : s.step c (.check shardId now) = some t) (hChecking : s.checking shardId = some d)
    (hUnheard : d.connected = false)
    (hKept : isBufferedFor s.clients c d.relayed.eventName d.relayed.event = true)
    (hConnected : s.inner.isClientConnected c ≠ false)
    (hFresh : d.relayed.event.buffered ∉ s.inner.offlineBuffer c) : ¬ t.StaysOnShard := by
  intro hStays
  obtain ⟨d', checked, hChecking', hEq, hEvent, hSame, hKeeps, hBefore, hAfter, -⟩ :=
    check_eq_some hStep
  obtain rfl : d = d' := Option.some.inj (hChecking.symm.trans hChecking')
  have hMem : checked ∈ t.checks := by
    rw [hEq]
    exact List.mem_append_right _ (List.mem_singleton_self checked)
  have hPushed := hStays.buffered checked hMem (hKeeps.trans hKept) (hSame.trans hUnheard)
  rw [if_neg fun h => hConnected h.2, hPushed, hBefore, hEvent] at hAfter
  apply hFresh
  rw [← hAfter]
  exact mem_pushBounded _ _

/-- A drained event of the client's current guilds is delivered by replaying up
to it, on the shard of the connection. -/
theorem reaches_delivered {i shardId : Nat} {rest : List BufferedClientEvent}
    {event : BufferedClientEvent} (hConn : s.conns[i]? = some ⟨shardId, .replaying rest⟩)
    (hMem : event ∈ rest) (hVisible : guildVisible s.clients c event.guildId) :
    ∃ u, Runs.Reaches (step c) (OwnShard c) s u ∧ u.inner = s.inner ∧
      (shardId, event) ∈ u.delivered := by
  induction rest generalizing s with
  | nil => cases hMem
  | cons first rest ih =>
    obtain ⟨t, hStep, hInner, hClients, hConn', hDelivered⟩ :
        ∃ t, s.step c (.replay i) = some t ∧ t.inner = s.inner ∧ t.clients = s.clients ∧
          t.conns[i]? = some ⟨shardId, .replaying rest⟩ ∧
          t.delivered = s.delivered ++
            (visibleReplayed c [(s.clients, first)]).map fun event => (shardId, event) := by
      obtain ⟨hBound, -⟩ := List.getElem?_eq_some_iff.mp hConn
      refine ⟨(s.setPhase i shardId (.replaying rest)).deliver shardId
        (visibleReplayed c [(s.clients, first)]), ?_, rfl, rfl, List.getElem?_set_self hBound, rfl⟩
      rw [step, hConn]
    rcases List.mem_cons.mp hMem with rfl | hLater
    · refine ⟨t, .head hStep trivial (.refl t), hInner, ?_⟩
      rw [hDelivered]
      refine List.mem_append_right _ (List.mem_map_of_mem ?_)
      simp [visibleReplayed, hVisible]
    · obtain ⟨u, hReach, hSame, hSent⟩ := ih hConn' hLater (hClients ▸ hVisible)
      exact ⟨u, .head hStep trivial hReach, hSame.trans hInner, hSent⟩

/-- A registry in which `c` has the guild. -/
def withGuild (c : Str) (g : Nat) : Clients := (∅ : Clients).insert c ⟨[], {g}, none, none⟩

theorem guildVisible_withGuild (c : Str) (g : Nat) : guildVisible (withGuild c g) c (some g) := by
  refine ⟨g, rfl, ?_⟩
  rw [clientGuilds, withGuild, AList.lookup_insert]
  exact Finset.mem_singleton_self g

/-- A drain of an event of another shard: once the registry has its guild, the
replay delivers it. -/
theorem reaches_not_stays_of_drain {i : Nat} {conn : ShardConn} {event : BufferedClientEvent}
    (hStep : s.step c (.drain i) = some t) (hConn : s.conns[i]? = some conn)
    (hMem : event ∈ s.inner.offlineBuffer c) (hCross : ¬ s.OnShard conn.shardId event.guildId) :
    ∃ u, Runs.Reaches (step c) (OwnShard c) t u ∧ ¬ u.StaysOnShard := by
  obtain ⟨g, hGuild⟩ : ∃ g, event.guildId = some g := by
    cases hNone : event.guildId with
    | none =>
      rw [hNone] at hCross
      exact absurd (fun _ h => (nomatch h)) hCross
    | some g => exact ⟨g, rfl⟩
  rw [step, hConn] at hStep
  split at hStep
  · rename_i shardId hSame
    obtain rfl := Option.some.inj hSame
    obtain rfl := Option.some.inj hStep
    obtain ⟨hBound, -⟩ := List.getElem?_eq_some_iff.mp hConn
    obtain ⟨u, hReach, hInner, hSent⟩ :=
      reaches_delivered
        (s := { s.setPhase i shardId (.replaying (s.inner.offlineBuffer c)) with
          inner := (s.inner.drainOfflineEventsForClient c).2
          clients := withGuild c g })
        (List.getElem?_set_self hBound) hMem (hGuild ▸ guildVisible_withGuild c g)
    refine ⟨u, .head (a := .registry (withGuild c g)) rfl trivial hReach, fun hStays => hCross ?_⟩
    have hShard := hStays.delivered _ hSent
    refine (onShard_congr ?_).mp hShard
    rw [hInner]
    rfl
  · cases hStep

theorem reaches_not_stays (hStep : s.step c action = some t) (hCross : ¬ OwnShard c s action)
    (hFresh : Fresh c s action) :
    ∃ u, Runs.Reaches (step c) (OwnShard c) t u ∧ ¬ u.StaysOnShard := by
  cases action with
  | check shardId now =>
    simp only [OwnShard, not_forall] at hCross
    obtain ⟨d, hChecking, hUnheard, hKept, hConnected⟩ := hCross
    exact ⟨t, .refl t, not_stays_of_check hStep hChecking hUnheard hKept hConnected
      (hFresh d hChecking)⟩
  | drain i =>
    simp only [OwnShard, not_forall] at hCross
    obtain ⟨conn, hConn, event, hMem, hShard⟩ := hCross
    exact reaches_not_stays_of_drain hStep hConn hMem hShard
  | registry _ | relay _ _ | connect _ | replay _ | subscribe _ | receive _ | lag _ _ | abort _
  | disconnect _ _ | other _ _ => exact absurd trivial hCross

/-- **Offline events stay on their shard, as long as no check and no drain
crosses shards.** For every number of shards and every client, with connections
to any shards that open and close in any order: in a run in which each event
kept for the client, broadcast while it has no connection to the shard, is
checked while it is not connected at all, and each connection drains a buffer of
events of its own shard, every event is delivered on a connection to its shard,
and each of those events is put in the buffer. Each step that breaks the
condition leads, by steps that keep it, to a state where that fails, unless the
event is in the buffer already. -/
theorem offline_stays_on_shard_when (c : Str) {shards : List Shard} {shardCount : Nat}
    {clients : Clients} {steps : List ShardsStep}
    (hRun : Runs.exec (step c) (new shards shardCount clients) steps = some s) :
    (Runs.Meets (step c) (OwnShard c) (new shards shardCount clients) steps → s.StaysOnShard) ∧
      ∀ action t, s.step c action = some t → ¬ OwnShard c s action → Fresh c s action →
        ∃ u, Runs.Reaches (step c) (OwnShard c) t u ∧ ¬ u.StaysOnShard := by
  constructor
  · intro hMeets
    have hInv : ShardInv s :=
      Runs.exec_invariant_of_meets (C := OwnShard c)
        (fun _ _ _ hInv hOwn hStep => shardInv_step hInv hOwn hStep)
        (shardInv_new shards shardCount clients) hMeets hRun
    exact hInv.stays
  · intro action t hStep hCross hFresh
    exact reaches_not_stays hStep hCross hFresh

end Steps

namespace SampleShards

/-- Client `c` with guild 7, whose shard is the first of two. -/
def init : OfflineShards := new [] 2 SampleOffline.clients

/-- A message of guild 7 while `c` has a connection to the second shard. -/
def unheard : List ShardsStep :=
  [.connect 1, .relay 0 SampleOffline.relayed, .check 0 SampleOffline.clock]

/-- A message of guild 7 while `c` is away, and then a connection to a shard. -/
def replayedOn (shardId : Nat) : List ShardsStep :=
  [.relay 0 SampleOffline.relayed, .check 0 SampleOffline.clock, .connect shardId, .drain 0,
    .replay 0]

end SampleShards

open SampleShards in
/-- The client comes back on the shard of the guild. -/
theorem offline_stays_on_own_shard :
    ∃ s, Runs.exec (step SampleOffline.c) init (replayedOn 0) = some s ∧
      s.delivered = [(0, SampleOffline.relayed.event.buffered)] ∧ s.StaysOnShard := by
  have hOwn : Runs.Meets (step SampleOffline.c) (OwnShard SampleOffline.c) init (replayedOn 0) := by
    refine (Runs.meets_cons rfl).mpr ⟨trivial, ?_⟩
    refine (Runs.meets_cons rfl).mpr ⟨fun _ _ _ _ => rfl, ?_⟩
    refine (Runs.meets_cons rfl).mpr ⟨trivial, ?_⟩
    refine (Runs.meets_cons rfl).mpr ⟨fun conn hConn event hMem => ?_, ?_⟩
    · obtain rfl := Option.some.inj hConn
      obtain rfl := List.mem_singleton.mp hMem
      exact fun g hGuild => Option.some.inj hGuild ▸ rfl
    · exact (Runs.meets_cons rfl).mpr ⟨trivial, trivial⟩
  exact ⟨_, rfl, rfl, (offline_stays_on_shard_when SampleOffline.c rfl).1 hOwn⟩

open SampleShards in
/-- With a connection to the other shard the message is not buffered, and one
that was buffered is replayed there. -/
theorem offline_crosses_shards :
    (∃ s, Runs.exec (step SampleOffline.c) init unheard = some s ∧
      s.inner.offlineBuffer SampleOffline.c = [] ∧ ¬ s.StaysOnShard) ∧
    ∃ s, Runs.exec (step SampleOffline.c) init (replayedOn 1) = some s ∧
      s.delivered = [(1, SampleOffline.relayed.event.buffered)] ∧ ¬ s.StaysOnShard := by
  constructor
  · refine ⟨_, rfl, rfl, fun hStays => ?_⟩
    have hPushed := hStays.buffered _ List.mem_cons_self (by decide) rfl
    cases hPushed
  · refine ⟨_, rfl, rfl, fun hStays => ?_⟩
    have hShard := hStays.delivered _ List.mem_cons_self 7 rfl
    exact absurd hShard (by decide)

end OfflineShards

end GatewayProxy
