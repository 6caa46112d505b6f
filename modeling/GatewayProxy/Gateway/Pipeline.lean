import GatewayProxy.Gateway.Forwarding
import GatewayProxy.Gateway.Relay
import GatewayProxy.Lib.BoundedBroadcast

/-!
# From Discord to a tenant

The shard's task, its channel, which forgets, and the task that feeds one
tenant's connection, in any interleaving and with the registry and the other
tasks changing what they change. READY is built from what `wait_until_ready`
returned and from the cache at a later moment, and the offline buffer is drained
before the subscription.

Main results:

* `pipelineInv_step`: what the receiver yielded is accounted for, and what was
  built comes from a READY that was received.
* `pipeline_exact`: everything that was put into the connection's queue is a
  startup message or the text of an event visible to the tenant, its number
  replaced; the live ones are, in order and once each, messages that Discord sent
  while the session was up. The numbers are consecutive, whatever was lost.
-/

namespace GatewayProxy

open Utf8 Assoc Broadcast

def RecvResult.ofRecv : Recv BroadcastMessage → RecvResult
  | .value event => .message event
  | .lagged amount => .lagged amount

structure Pipeline where
  shard : ShardTask
  forwarding : Forwarding
  /-- what `wait_until_ready` returned -/
  awaited : Option JsonObject
  /-- with the number of messages sent before the subscription -/
  receiver : Option (Nat × Receiver)
  /-- history: what the receiver yielded -/
  outcomes : List (Recv BroadcastMessage)

inductive PipelineStep
  /-- the registry, as the connection's task reads it -/
  | registry (clients : Clients)
  /-- a step of the shard's task, or of any task but these two -/
  | shard (a : ShardStep)
  | awaitReady
  | build
  | enqueue
  | drain
  | replay
  | subscribe
  | receive

namespace Pipeline

def new (task : ForwardTask) (clients : Clients) (inner : Inner) : Pipeline :=
  ⟨.new inner, .new task clients, none, none, []⟩

/-- A step of the connection's task that is its own matter. -/
def forward (task : ForwardTask) (s : Pipeline) (a : ForwardingStep) : Option Pipeline :=
  (s.forwarding.step task a).map fun forwarding => { s with forwarding := forwarding }

def step (cfg : Config) (lib : ShardLib) (shardId capacity : Nat) (task : ForwardTask)
    (s : Pipeline) : PipelineStep → Option Pipeline
  | .registry clients => s.forward task (.registry clients)
  | .shard a => (s.shard.step cfg lib shardId a).map fun shard => { s with shard := shard }
  | .awaitReady =>
    match s.awaited with
    | none => (s.shard.cell shardId).map fun ready => { s with awaited := some ready }
    | some _ => none
  | .build =>
    s.awaited.bind fun ready =>
      (s.shard.inner.shard shardId).bind fun shard => s.forward task (.build ready shard.guilds)
  | .enqueue => s.forward task .enqueue
  | .drain =>
    match task.clientId with
    | none => s.forward task (.drain [])
    | some clientId =>
      let (buffered, inner) := s.shard.inner.drainOfflineEventsForClient clientId
      { s with shard := { s.shard with inner := inner } }.forward task (.drain buffered)
  | .replay => s.forward task .replay
  | .subscribe =>
    (s.forward task .subscribe).map fun t =>
      { t with receiver := some (s.shard.events.sent.length, s.shard.events.subscribe) }
  | .receive =>
    s.receiver.bind fun (since, receiver) =>
      (receiver.recvKept capacity s.shard.events).bind fun (outcome, receiver) =>
        (s.forward task (.receive (.ofRecv outcome))).map fun t =>
          { t with receiver := some (since, receiver), outcomes := s.outcomes ++ [outcome] }

end Pipeline

-- ---------------------------------------------------------------------------
-- What the parts do to the channel and to the events received
-- ---------------------------------------------------------------------------

namespace ShardTask

variable {cfg : Config} {lib : ShardLib} {shardId : Nat} {s t : ShardTask}

/-- A step broadcasts at most one message, and forgets none it received. -/
theorem step_events {a : ShardStep} (hStep : s.step cfg lib shardId a = some t) :
    (t.events = s.events ∨ ∃ message, t.events = s.events.send message) ∧
      s.received <+: t.received := by
  unfold step at hStep
  cases a with
  | next input =>
    dsimp only at hStep
    split at hStep
    · cases input with
      | text payload =>
        obtain rfl := Option.some.inj hStep
        unfold receive
        dsimp only
        split <;> exact ⟨.inl rfl, List.prefix_append _ _⟩
      | close shutdown =>
        obtain rfl := Option.some.inj hStep
        cases shutdown <;> exact ⟨.inl rfl, List.prefix_rfl⟩
      | failed =>
        obtain rfl := Option.some.inj hStep
        exact ⟨.inl rfl, List.prefix_rfl⟩
      | ended =>
        obtain rfl := Option.some.inj hStep
        exact ⟨.inl rfl, List.prefix_rfl⟩
    · cases hStep
  | handle clients =>
    dsimp only at hStep
    split at hStep
    · unfold handle at hStep
      split at hStep
      · obtain rfl := Option.some.inj hStep
        exact ⟨.inl rfl, List.prefix_rfl⟩
      · split at hStep
        · obtain ⟨inner, -, rfl⟩ := Option.map_eq_some_iff.mp hStep
          exact ⟨.inl rfl, List.prefix_rfl⟩
        · split at hStep
          · obtain rfl := Option.some.inj hStep
            exact ⟨.inl rfl, List.prefix_rfl⟩
          · split at hStep
            · obtain rfl := Option.some.inj hStep
              exact ⟨.inr ⟨_, rfl⟩, List.prefix_rfl⟩
            · obtain rfl := Option.some.inj hStep
              exact ⟨.inl rfl, List.prefix_rfl⟩
    · cases hStep
  | buffer clients now =>
    dsimp only at hStep
    split at hStep
    · obtain rfl := Option.some.inj hStep
      exact ⟨.inl rfl, List.prefix_rfl⟩
    · cases hStep
  | parse =>
    dsimp only at hStep
    split at hStep
    · obtain rfl := Option.some.inj hStep
      unfold finish
      split <;> exact ⟨.inl rfl, List.prefix_rfl⟩
    · cases hStep
  | other inner =>
    dsimp only at hStep
    split at hStep
    · obtain rfl := Option.some.inj hStep
      exact ⟨.inl rfl, List.prefix_rfl⟩
    · cases hStep

end ShardTask

/-- In every stage, what was broadcast are the messages to relay, but for the
message the loop is at. -/
theorem RelayInv.relayed_initial {cfg : Config} {lib : ShardLib} {shardId : Nat} {s : ShardTask}
    (hInv : RelayInv cfg lib shardId s) : s.relayed <+: relays lib s.received := by
  have hAt := hInv.stage
  unfold StageInv at hAt
  split at hAt
  · rw [hAt.2.2]
  · rw [hAt.2.2]
  · obtain ⟨done, hDone, -, -, hRelayed⟩ := hAt
    rw [hRelayed, hDone, relays_append]
    exact List.prefix_append _ _
  · obtain ⟨_, _, -, -, -, -, -, hRelayed⟩ := hAt
    rw [hRelayed]
  · obtain ⟨_, _, -, -, -, -, hRelayed⟩ := hAt
    rw [hRelayed]

namespace Forwarding

/-- What a step adds to the events received and to what was built. -/
theorem step_history {task : ForwardTask} {s t : Forwarding} {a : ForwardingStep}
    (hStep : s.step task a = some t) :
    (t.received = s.received ∨
        ∃ result, a = .receive result ∧ t.received = s.received ++ [(s.clients, result)]) ∧
      (t.built = s.built ∨ ∃ ready guilds, a = .build ready guilds ∧
        t.built = some (ready, guilds)) ∧
      (s.stage = .live → t.stage = .live) := by
  cases a with
  | registry clients =>
    obtain rfl := Option.some.inj hStep
    exact ⟨.inl rfl, .inl rfl, id⟩
  | build ready guilds =>
    obtain ⟨hStage, rfl⟩ := build_eq_some hStep
    exact ⟨.inl rfl, .inr ⟨ready, guilds, rfl, rfl⟩, fun hLive => by simp [hLive] at hStage⟩
  | enqueue =>
    obtain ⟨_, _, -, rfl⟩ := enqueue_eq_some hStep
    exact ⟨.inl rfl, .inl rfl, id⟩
  | drain buffered =>
    obtain ⟨hStage, _, rfl⟩ := drain_eq_some hStep
    exact ⟨.inl rfl, .inl rfl, fun hLive => by simp [hLive] at hStage⟩
  | replay =>
    rw [step] at hStep
    split at hStep
    · rename_i hStage _
      obtain ⟨_, -, rfl⟩ := Option.map_eq_some_iff.mp hStep
      exact ⟨.inl rfl, .inl rfl, fun hLive => by simp [hLive] at hStage⟩
    · cases hStep
  | subscribe =>
    obtain ⟨-, rfl⟩ := subscribe_eq_some hStep
    exact ⟨.inl rfl, .inl rfl, fun _ => rfl⟩
  | receive result =>
    rw [step] at hStep
    split at hStep
    · obtain ⟨_, -, rfl⟩ := Option.map_eq_some_iff.mp hStep
      exact ⟨.inr ⟨result, rfl, rfl⟩, .inl rfl, id⟩
    · cases hStep

end Forwarding

-- ---------------------------------------------------------------------------
-- The invariant
-- ---------------------------------------------------------------------------

/-- The payload is the scrubbed READY of a message that the shard received. -/
def FromReceived (cfg : Config) (lib : ShardLib) (shard : ShardTask) (ready : JsonObject) : Prop :=
  ∃ text ∈ shard.received, ∃ discord, lib.parseReady text = some discord ∧
    ready = scrubReady cfg lib discord

structure PipelineInv (cfg : Config) (lib : ShardLib) (shardId : Nat) (task : ForwardTask)
    (clientId : Str) (s : Pipeline) : Prop where
  relay : RelayInv cfg lib shardId s.shard
  shape : s.forwarding.Shape task clientId
  received : s.forwarding.received.map Prod.snd = s.outcomes.map RecvResult.ofRecv
  delivered : ∀ since receiver, s.receiver = some (since, receiver) →
    Delivered s.shard.events since s.outcomes receiver
  unsubscribed : s.receiver = none → s.outcomes = []
  subscribed : s.receiver.isSome = true → s.forwarding.stage = .live
  awaited : ∀ ready, s.awaited = some ready → FromReceived cfg lib s.shard ready
  built : ∀ ready guilds, s.forwarding.built = some (ready, guilds) →
    FromReceived cfg lib s.shard ready

theorem pipelineInv_new (cfg : Config) (lib : ShardLib) {shardId : Nat} (task : ForwardTask)
    (clientId : Str) (clients : Clients) {inner : Inner} {shard : Shard}
    (hShard : inner.shard shardId = some shard) (hFresh : shard.ready = none) :
    PipelineInv cfg lib shardId task clientId (Pipeline.new task clients inner) where
  relay := relayInv_new cfg lib hShard hFresh
  shape := Forwarding.shape_new task clientId clients
  received := rfl
  delivered := by
    intro since receiver h
    cases h
  unsubscribed := fun _ => rfl
  subscribed := by
    intro h
    cases h
  awaited := by
    intro ready h
    cases h
  built := by
    intro ready guilds h
    cases h

section Steps

variable {cfg : Config} {lib : ShardLib} {shardId capacity : Nat} {task : ForwardTask}
  {clientId : Str} {authorized : Finset Nat} {s t : Pipeline}

theorem FromReceived.mono {shard shard' : ShardTask} {ready : JsonObject}
    (h : FromReceived cfg lib shard ready) (hMore : shard.received <+: shard'.received) :
    FromReceived cfg lib shard' ready := by
  obtain ⟨text, hMem, hRest⟩ := h
  exact ⟨text, hMore.subset hMem, hRest⟩

/-- The shard's task goes on. -/
theorem PipelineInv.of_shard (hInv : PipelineInv cfg lib shardId task clientId s) {a : ShardStep}
    {shard : ShardTask} (hStep : s.shard.step cfg lib shardId a = some shard) :
    PipelineInv cfg lib shardId task clientId { s with shard := shard } := by
  obtain ⟨hEvents, hMore⟩ := ShardTask.step_events hStep
  refine ⟨relayInv_step hInv.relay hStep, hInv.shape, hInv.received, ?_, hInv.unsubscribed,
    hInv.subscribed, fun ready h => (hInv.awaited ready h).mono hMore,
    fun ready guilds h => (hInv.built ready guilds h).mono hMore⟩
  intro since receiver hReceiver
  have hBefore := hInv.delivered since receiver hReceiver
  show Delivered shard.events since s.outcomes receiver
  rcases hEvents with hSame | ⟨message, hSend⟩
  · rw [hSame]
    exact hBefore
  · rw [hSend]
    exact hBefore.send message

/-- A step of the connection's task that receives nothing. -/
theorem PipelineInv.of_forward (hClient : task.clientId = some clientId)
    (hAuthorized : task.authorizedGuilds = some authorized)
    (hInv : PipelineInv cfg lib shardId task clientId s) {a : ForwardingStep}
    (hNot : ∀ result, a ≠ .receive result)
    (hBuild : ∀ ready guilds, a = .build ready guilds → FromReceived cfg lib s.shard ready)
    (hStep : s.forward task a = some t) : PipelineInv cfg lib shardId task clientId t := by
  obtain ⟨forwarding, hForward, rfl⟩ := Option.map_eq_some_iff.mp hStep
  obtain ⟨hReceived, hBuilt, hLive⟩ := Forwarding.step_history hForward
  have hSame : forwarding.received = s.forwarding.received := by
    rcases hReceived with hSame | ⟨result, hReceive, -⟩
    · exact hSame
    · exact absurd hReceive (hNot result)
  refine ⟨hInv.relay, Forwarding.shape_step hClient hAuthorized hInv.shape hForward, ?_,
    hInv.delivered, hInv.unsubscribed, fun h => hLive (hInv.subscribed h), hInv.awaited, ?_⟩
  · rw [hSame]
    exact hInv.received
  · intro ready guilds h
    rcases hBuilt with hOld | ⟨ready', guilds', hAction, hNew⟩
    · exact hInv.built ready guilds (hOld.symm.trans h)
    · obtain ⟨rfl, rfl⟩ := Prod.mk.inj (Option.some.inj (hNew.symm.trans h))
      exact hBuild ready' guilds' hAction

/-- **Step lemma.** -/
theorem pipelineInv_step (hClient : task.clientId = some clientId)
    (hAuthorized : task.authorizedGuilds = some authorized) {a : PipelineStep}
    (hInv : PipelineInv cfg lib shardId task clientId s)
    (hStep : s.step cfg lib shardId capacity task a = some t) :
    PipelineInv cfg lib shardId task clientId t := by
  cases a with
  | registry clients => exact hInv.of_forward hClient hAuthorized (by simp) (by simp) hStep
  | shard a =>
    obtain ⟨shard, hShard, rfl⟩ := Option.map_eq_some_iff.mp hStep
    exact hInv.of_shard hShard
  | awaitReady =>
    rw [Pipeline.step] at hStep
    split at hStep
    · obtain ⟨ready, hCell, rfl⟩ := Option.map_eq_some_iff.mp hStep
      refine ⟨hInv.relay, hInv.shape, hInv.received, hInv.delivered, hInv.unsubscribed,
        hInv.subscribed, fun ready' h => ?_, hInv.built⟩
      obtain rfl := Option.some.inj h
      exact hInv.relay.cell_eq_some hCell
    · cases hStep
  | build =>
    obtain ⟨ready, hAwaited, hRest⟩ := Option.bind_eq_some_iff.mp hStep
    obtain ⟨shard, -, hForward⟩ := Option.bind_eq_some_iff.mp hRest
    refine hInv.of_forward hClient hAuthorized (by simp) (fun ready' guilds' hBuild => ?_) hForward
    obtain ⟨rfl, -⟩ := ForwardingStep.build.inj hBuild
    exact hInv.awaited ready hAwaited
  | enqueue => exact hInv.of_forward hClient hAuthorized (by simp) (by simp) hStep
  | drain =>
    rw [Pipeline.step, hClient] at hStep
    -- another task could have drained the buffer
    have hOther : s.shard.step cfg lib shardId
        (.other (s.shard.inner.drainOfflineEventsForClient clientId).2) =
          some { s.shard with inner := (s.shard.inner.drainOfflineEventsForClient clientId).2 } :=
      if_pos rfl
    exact (hInv.of_shard hOther).of_forward hClient hAuthorized (by simp) (by simp) hStep
  | replay => exact hInv.of_forward hClient hAuthorized (by simp) (by simp) hStep
  | subscribe =>
    obtain ⟨t', hForward, rfl⟩ := Option.map_eq_some_iff.mp hStep
    have hNext := hInv.of_forward hClient hAuthorized (by simp) (by simp) hForward
    obtain ⟨forwarding, hSubscribe, rfl⟩ := Option.map_eq_some_iff.mp hForward
    obtain ⟨hStage, rfl⟩ := Forwarding.subscribe_eq_some hSubscribe
    have hNone : s.outcomes = [] := by
      refine hInv.unsubscribed (Option.not_isSome_iff_eq_none.mp fun h => ?_)
      rw [hInv.subscribed h] at hStage
      cases hStage
    refine ⟨hNext.relay, hNext.shape, hNext.received, fun since receiver h => ?_,
      fun h => by simp at h, fun _ => rfl, hNext.awaited, hNext.built⟩
    obtain ⟨rfl, rfl⟩ := Prod.mk.inj (Option.some.inj h)
    show Delivered _ _ s.outcomes _
    rw [hNone]
    exact delivered_subscribe _
  | receive =>
    obtain ⟨⟨since, receiver⟩, hReceiver, hRest⟩ := Option.bind_eq_some_iff.mp hStep
    obtain ⟨⟨outcome, receiver'⟩, hRecv, hMap⟩ := Option.bind_eq_some_iff.mp hRest
    obtain ⟨t', hForward, rfl⟩ := Option.map_eq_some_iff.mp hMap
    obtain ⟨forwarding, hReceive, rfl⟩ := Option.map_eq_some_iff.mp hForward
    obtain ⟨hReceived, hBuilt, hLive⟩ := Forwarding.step_history hReceive
    refine ⟨hInv.relay, Forwarding.shape_step hClient hAuthorized hInv.shape hReceive, ?_,
      fun since' receiver'' h => ?_, fun h => by simp at h, fun _ => hLive ?_, hInv.awaited, ?_⟩
    · rcases hReceived with hSame | ⟨result, hAction, hMore⟩
      · -- a receive adds what it received
        obtain ⟨_, _, _, _, _, _, _, _, hEq⟩ :=
          Forwarding.receive_eq_some hClient hAuthorized hReceive
        rw [hEq] at hSame
        simp at hSame
      · obtain rfl := ForwardingStep.receive.inj hAction
        rw [hMore, List.map_append, List.map_append, hInv.received]
        rfl
    · obtain ⟨rfl, rfl⟩ := Prod.mk.inj (Option.some.inj h)
      exact (hInv.delivered since receiver hReceiver).recv hRecv
    · exact hInv.subscribed (by rw [hReceiver]; rfl)
    · intro ready guilds h
      rcases hBuilt with hOld | ⟨_, _, hAction, -⟩
      · exact hInv.built ready guilds (hOld.symm.trans h)
      · cases hAction

end Steps

/-- The live events are among the messages that the receiver yielded, in order. -/
theorem visibleLive_sublist (clientId : Str) {received : List (Clients × RecvResult)}
    {outcomes : List (Recv BroadcastMessage)}
    (h : received.map Prod.snd = outcomes.map RecvResult.ofRecv) :
    ((visibleLive clientId received).map BufferedClientEvent.payload).Sublist
      ((values outcomes).map BroadcastMessage.payload) := by
  induction outcomes generalizing received with
  | nil =>
    obtain rfl := List.map_eq_nil_iff.mp h
    exact List.nil_sublist _
  | cons outcome outcomes ih =>
    obtain ⟨entry, rest, rfl, hEntry, hRest⟩ := List.map_eq_cons_iff.mp h
    have hTail := ih hRest
    obtain ⟨clients, result⟩ := entry
    dsimp only at hEntry
    subst hEntry
    cases outcome with
    | lagged amount => exact hTail
    | value event =>
      show ((visibleLive clientId ((clients, .message event) :: rest)).map _).Sublist
        (event.payload :: (values outcomes).map BroadcastMessage.payload)
      by_cases hVisible : audienceVisible clientId event.audience ∧
          guildVisible clients clientId event.guildId
      · have hShown : visibleLive clientId ((clients, .message event) :: rest) =
            event.buffered :: visibleLive clientId rest := by
          simp [visibleLive, hVisible]
        rw [hShown]
        exact hTail.cons_cons _
      · have hHidden : visibleLive clientId ((clients, .message event) :: rest) =
            visibleLive clientId rest := by
          simp [visibleLive, hVisible]
        rw [hHidden]
        exact hTail.cons _

/-- **End to end.** Over every run of the two tasks, the registry and all else:
what was put into a tenant's queue are the startup messages, made from a READY
that Discord sent, and then the visible events, each its own text but for the
number. The live ones are, in order and once each, dispatches that Discord sent
while the session was up. The numbers are consecutive even if the channel
overran; the receiver was told of exactly as many messages as it missed, and
without that it missed none. -/
theorem pipeline_exact (cfg : Config) (lib : ShardLib) (shardId capacity : Nat)
    (task : ForwardTask) (clientId : Str) (authorized : Finset Nat)
    (hClient : task.clientId = some clientId)
    (hAuthorized : task.authorizedGuilds = some authorized) (clients : Clients) (inner : Inner)
    (shard : Shard) (hShard : inner.shard shardId = some shard) (hFresh : shard.ready = none)
    (steps : List PipelineStep) (s : Pipeline)
    (hRun : Runs.exec (Pipeline.step cfg lib shardId capacity task)
      (Pipeline.new task clients inner) steps = some s)
    (ready : JsonObject) (guilds : Guilds) (hBuilt : s.forwarding.built = some (ready, guilds)) :
    FromReceived cfg lib s.shard ready ∧
      (∃ events,
        s.forwarding.order.map Outgoing.message = (task.preamble ready guilds).1 ++ events ∧
        List.Forall₂ Carries (visibleReplayed clientId s.forwarding.buffered ++
          visibleLive clientId s.forwarding.received) events) ∧
      ((visibleLive clientId s.forwarding.received).map BufferedClientEvent.payload).Sublist
        (relays lib s.shard.received) ∧
      (task.seq + (sequences (s.forwarding.order.map Outgoing.message)).length < 2 ^ 64 →
        sequences (s.forwarding.order.map Outgoing.message) = List.range' (task.seq + 1)
          (sequences (s.forwarding.order.map Outgoing.message)).length) ∧
      ∀ since receiver, s.receiver = some (since, receiver) →
        since + (values s.outcomes).length + lost s.outcomes = receiver.next ∧
        (lost s.outcomes = 0 → s.forwarding.received.map Prod.snd =
          (s.shard.events.between since receiver.next).map RecvResult.message) := by
  have hInv : PipelineInv cfg lib shardId task clientId s :=
    Runs.exec_invariant
      (fun _ _ _ hInv hStep => pipelineInv_step hClient hAuthorized hInv hStep)
      (pipelineInv_new cfg lib task clientId clients hShard hFresh) hRun
  have hRefines := Forwarding.refines_forwardShard hClient hAuthorized hInv.shape hBuilt
  obtain ⟨events, messages, hForward, hMessages, hCarries, hNumbers⟩ :=
    forwardShard_spec task clientId authorized ready guilds s.forwarding.buffered
      s.forwarding.received hClient hAuthorized
  obtain rfl := Option.some.inj (hForward.symm.trans hRefines)
  refine ⟨hInv.built ready guilds hBuilt, ⟨events, hMessages, hCarries⟩, ?_, hNumbers, ?_⟩
  · have hLive := visibleLive_sublist clientId hInv.received
    cases hReceiver : s.receiver with
    | none =>
      rw [hInv.unsubscribed hReceiver] at hLive
      exact hLive.trans (List.nil_sublist _)
    | some p =>
      have hDelivered := hInv.delivered p.1 p.2 hReceiver
      have hSent : (s.shard.events.between p.1 p.2.next).Sublist s.shard.events.sent :=
        (List.drop_sublist _ _).trans (List.take_sublist _ _)
      exact hLive.trans (((hDelivered.sublist.trans hSent).map _).trans
        hInv.relay.relayed_initial.sublist)
  · intro since receiver hReceiver
    have hDelivered := hInv.delivered since receiver hReceiver
    refine ⟨hDelivered.count, fun hNone => ?_⟩
    rw [hInv.received, hDelivered.complete hNone, List.map_map]
    rfl

namespace SamplePipeline

open SampleRelay

/-- Client `c` of guild 7, on a fresh connection. -/
def task : ForwardTask := ⟨"x".toList, 0, true, 0, some {7}, some "c".toList⟩

/-- One message of Discord, up to the cache update. -/
def message : List PipelineStep :=
  [.shard (.next (.text messageText)), .shard (.handle clients),
    .shard (.buffer clients (fun _ => 5)), .shard .parse]

/-- READY, the startup of the connection, and three messages before it receives. -/
def steps : List PipelineStep :=
  [.shard (.next (.text readyText)), .shard (.handle clients), .shard .parse, .awaitReady, .build,
    .enqueue, .drain, .subscribe] ++ message ++ message ++ message ++ [.receive, .receive, .enqueue]

end SamplePipeline

open SampleRelay SamplePipeline in
/-- Where the channel keeps one message, two of the three are lost, and the
third gets the number after READY. -/
theorem pipeline_exact_lagging :
    ∃ s, Runs.exec (Pipeline.step config lib 0 1 task)
        (Pipeline.new task SampleStream.clients inner) SamplePipeline.steps = some s ∧
      lost s.outcomes = 2 ∧
      sequences (s.forwarding.order.map Outgoing.message) = [1, 2] ∧
      ((visibleLive "c".toList s.forwarding.received).map BufferedClientEvent.payload).Sublist
        (relays lib s.shard.received) := by
  have hRun : (Runs.exec (Pipeline.step config lib 0 1 task)
      (Pipeline.new task SampleStream.clients inner) SamplePipeline.steps).map
      (fun s => (lost s.outcomes, sequences (s.forwarding.order.map Outgoing.message),
        s.forwarding.built.isSome)) = some (2, [1, 2], true) := by
    decide +kernel
  obtain ⟨s, hRun, hSome⟩ := Option.map_eq_some_iff.mp hRun
  simp only [Prod.mk.injEq] at hSome
  obtain ⟨hLost, hSequences, hBuilt⟩ := hSome
  obtain ⟨⟨ready, guilds⟩, hBuilt⟩ := Option.isSome_iff_exists.mp hBuilt
  obtain ⟨-, -, hLive, -⟩ := pipeline_exact config lib 0 1 task "c".toList {7} rfl rfl
    SampleStream.clients inner ⟨0, none, ⟨[], [], []⟩⟩ rfl rfl _ s hRun ready guilds hBuilt
  exact ⟨s, hRun, hLost, hSequences, hLive⟩

end GatewayProxy
