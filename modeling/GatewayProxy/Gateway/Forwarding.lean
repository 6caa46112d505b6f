import GatewayProxy.Gateway.Stream
import GatewayProxy.Lib.Runs

/-!
# A connection's messages, one at a time

`forward_shard` of one tenant's connection as steps, while the registry changes
freely: it waits for the shard's READY, puts its startup messages into the
connection's queue, replays, and then forwards. The registry is read when an
event is checked, and may change before the event is put into the queue.

Main results:

* `preamble_lists_iff`: the startup messages list the guilds of IDENTIFY that
  the cache holds.
* `Forwarding.shape_step`: the messages so far are the startup messages and then
  one for each visible event.
* `Forwarding.refines_forwardShard`: what a run put into the queue is what
  `forwardShard` computes from the cache and the events it was given.
-/

namespace GatewayProxy

open Utf8 Assoc

/-- A message on its way into the queue, with the event that it carries; a
startup message carries none. -/
structure Outgoing where
  message : Message
  event : Option BufferedClientEvent

inductive ForwardStage
  /-- for the READY of the shard -/
  | waiting
  | starting
  | replaying (rest : List BufferedClientEvent)
  | live

structure Forwarding where
  /-- the registry -/
  clients : Clients
  stage : ForwardStage
  /-- built or checked, and to be put into the queue next -/
  pending : List Outgoing
  seq : Nat
  /-- the queue, each message with the registry at the moment it was put there -/
  enqueued : List (Outgoing × Clients)
  /-- history: what the startup messages were built from -/
  built : Option (JsonObject × Guilds)
  /-- history: the events replayed so far, with the registry at each check -/
  buffered : List (Clients × BufferedClientEvent)
  /-- history: what the receiver yielded so far, with the registry at each check -/
  received : List (Clients × RecvResult)

inductive ForwardingStep
  | registry (clients : Clients)
  | build (ready : JsonObject) (guilds : Guilds)
  | enqueue
  | drain (buffered : List BufferedClientEvent)
  | replay
  | subscribe
  | receive (result : RecvResult)

def RecvResult.event : RecvResult → Option BufferedClientEvent
  | .message event => some event.buffered
  | .lagged _ => none

namespace Forwarding

/-- The connection has just identified or resumed. -/
def new (task : ForwardTask) (clients : Clients) : Forwarding :=
  ⟨clients, .waiting, [], task.seq, [], none, [], []⟩

def step (task : ForwardTask) (s : Forwarding) : ForwardingStep → Option Forwarding
  | .registry clients => some { s with clients := clients }
  | .build ready guilds =>
    match s.stage with
    | .waiting =>
      let (messages, seq) := task.preamble ready guilds
      some { s with
        stage := .starting
        pending := messages.map fun message => ⟨message, none⟩
        seq := seq
        built := some (ready, guilds) }
    | _ => none
  | .enqueue =>
    match s.pending with
    | [] => none
    | outgoing :: rest => some { s with
        pending := rest
        enqueued := s.enqueued ++ [(outgoing, s.clients)] }
  | .drain buffered =>
    match s.stage, s.pending with
    | .starting, [] =>
      some { s with stage := .replaying (if task.clientId.isSome then buffered else []) }
    | _, _ => none
  | .replay =>
    match s.stage, s.pending with
    | .replaying (event :: rest), [] =>
      (task.replay [(s.clients, event)] s.seq).map fun (messages, seq) => { s with
        stage := .replaying rest
        pending := messages.map fun message => ⟨message, some event⟩
        seq := seq
        buffered := s.buffered ++ [(s.clients, event)] }
    | _, _ => none
  | .subscribe =>
    match s.stage, s.pending with
    | .replaying [], [] => some { s with stage := .live }
    | _, _ => none
  | .receive result =>
    match s.stage, s.pending with
    | .live, [] =>
      (task.live [(s.clients, result)] s.seq).map fun (messages, seq) => { s with
        pending := messages.map fun message => ⟨message, result.event⟩
        seq := seq
        received := s.received ++ [(s.clients, result)] }
    | _, _ => none

/-- The messages in the order in which they are put into the queue. -/
def order (s : Forwarding) : List Outgoing := s.enqueued.map Prod.fst ++ s.pending

/-- The events that passed the filters, in order. -/
def visible (s : Forwarding) (clientId : Str) : List BufferedClientEvent :=
  visibleReplayed clientId s.buffered ++ visibleLive clientId s.received

end Forwarding

-- ---------------------------------------------------------------------------
-- The startup messages
-- ---------------------------------------------------------------------------

/-- A startup message about the guild: its entry in READY, or its payload. -/
def Message.Lists (guildId : Nat) : Message → Prop
  | .ready payload => ∃ guilds, payload.d.lookup "guilds".toList = some (.guildList guilds) ∧
      guildIdToJson guildId ∈ guilds
  | .guild payload => payload.d.guildId = guildId
  | _ => False

/-- The cache has an entry for the guild. -/
def Guilds.Holds (guilds : Guilds) (guildId : Nat) : Prop :=
  (∃ guild ∈ guilds.guilds, guild.id = guildId) ∨ guildId ∈ guilds.unavailableGuilds

theorem formatNat_injective : Function.Injective formatNat := by
  intro n m h
  have hN : parseUnsigned (n + m + 1) (formatNat n) = some n := parseUnsigned_formatNat (by omega)
  have hM : parseUnsigned (n + m + 1) (formatNat m) = some m := parseUnsigned_formatNat (by omega)
  rw [h, hM] at hN
  exact (Option.some.inj hN).symm

theorem guildIdToJson_mem_readyGuilds {guilds : Guilds} {authorized : Option (Finset Nat)}
    {guildId : Nat} :
    guildIdToJson guildId ∈ readyGuilds guilds authorized ↔ isAuthorized authorized guildId = true ∧
      ((∃ guild ∈ guilds.guilds, guild.id = guildId ∧ guild.unavailable ≠ some true) ∨
        guildId ∈ guilds.unavailableGuilds) := by
  rw [mem_readyGuilds_iff]
  constructor
  · rintro ⟨id, hEntry, hRest⟩
    obtain rfl : guildId = id := formatNat_injective (congrArg Prod.fst hEntry)
    exact hRest
  · exact fun hRest => ⟨guildId, rfl, hRest⟩

theorem mem_numberGuilds {guilds : List CachedGuild} {seq : Nat} {guildId : Nat} :
    (∃ payload ∈ (numberGuilds guilds seq).1, payload.d.guildId = guildId) ↔
      ∃ guild ∈ guilds, guild.id = guildId := by
  induction guilds generalizing seq with
  | nil => simp [numberGuilds]
  | cons guild rest ih =>
    rw [numberGuilds]
    dsimp only
    rw [List.exists_mem_cons_iff, List.exists_mem_cons_iff, ih, guildPayload_guildId]

/-- The guilds array of READY, after the session id was put in. -/
theorem ready_lists_iff {task : ForwardTask} {ready : JsonObject} {guilds : Guilds}
    {guildId : Nat} :
    (Message.ready { (getReadyPayload guilds ready task.seq task.authorizedGuilds).1 with
        d := (getReadyPayload guilds ready task.seq task.authorizedGuilds).1.d.insert
          "session_id".toList (.string task.sessionId) }).Lists guildId ↔
      guildIdToJson guildId ∈ readyGuilds guilds task.authorizedGuilds := by
  have hEntry : ((getReadyPayload guilds ready task.seq task.authorizedGuilds).1.d.insert
      "session_id".toList (.string task.sessionId)).lookup "guilds".toList =
        some (.guildList (readyGuilds guilds task.authorizedGuilds)) := by
    rw [AList.lookup_insert_ne (by decide)]
    exact AList.lookup_insert _
  unfold Message.Lists
  dsimp only
  rw [hEntry]
  constructor
  · rintro ⟨list, hList, hMem⟩
    rw [OwnedValue.guildList.inj (Option.some.inj hList)]
    exact hMem
  · exact fun hMem => ⟨_, rfl, hMem⟩

/-- The startup messages are about the guilds of IDENTIFY that the cache holds. -/
theorem preamble_lists_iff {task : ForwardTask} {ready : JsonObject} {guilds : Guilds}
    {guildId : Nat} :
    (∃ message ∈ (task.preamble ready guilds).1, message.Lists guildId) ↔
      task.sendGuilds = true ∧ isAuthorized task.authorizedGuilds guildId = true ∧
        guilds.Holds guildId := by
  unfold ForwardTask.preamble
  cases task.sendGuilds with
  | false => simp [Message.Lists]
  | true =>
    rw [if_pos rfl]
    dsimp only
    rw [List.exists_mem_cons_iff, ready_lists_iff, guildIdToJson_mem_readyGuilds]
    have hPayloads : (∃ message ∈ (getGuildPayloads guilds
          (getReadyPayload guilds ready task.seq task.authorizedGuilds).2
          task.authorizedGuilds).1.map Message.guild, message.Lists guildId) ↔
        isAuthorized task.authorizedGuilds guildId = true ∧
          ∃ guild ∈ guilds.guilds, guild.id = guildId := by
      simp only [getGuildPayloads, List.mem_map, exists_exists_and_eq_and]
      refine Iff.trans mem_numberGuilds ?_
      constructor
      · rintro ⟨guild, hMem, rfl⟩
        obtain ⟨hGuild, hAuthorized⟩ := List.mem_filter.mp hMem
        exact ⟨hAuthorized, guild, hGuild, rfl⟩
      · rintro ⟨hAuthorized, guild, hGuild, rfl⟩
        exact ⟨guild, List.mem_filter.mpr ⟨hGuild, hAuthorized⟩, rfl⟩
    rw [hPayloads, ← and_or_left]
    constructor
    · rintro ⟨hAuthorized, (⟨guild, hMem, hId, -⟩ | hUnavailable) | hCached⟩
      · exact ⟨rfl, hAuthorized, .inl ⟨guild, hMem, hId⟩⟩
      · exact ⟨rfl, hAuthorized, .inr hUnavailable⟩
      · exact ⟨rfl, hAuthorized, .inl hCached⟩
    · rintro ⟨-, hAuthorized, hCached | hUnavailable⟩
      · exact ⟨hAuthorized, .inr hCached⟩
      · exact ⟨hAuthorized, .inl (.inr hUnavailable)⟩

-- ---------------------------------------------------------------------------
-- The shape of the stream
-- ---------------------------------------------------------------------------

theorem sendEvents_append (a b : List BufferedClientEvent) (seq : Nat) :
    sendEvents (a ++ b) seq = (sendEvents a seq).bind fun p =>
      (sendEvents b p.2).map fun q => (p.1 ++ q.1, q.2) := by
  induction a generalizing seq with
  | nil => cases h : sendEvents b seq <;> simp [sendEvents, h]
  | cons event rest ih =>
    rw [List.cons_append, sendEvents, sendEvents]
    cases overwriteSequence event.payload event.sequence seq with
    | none => rfl
    | some p =>
      simp only [Option.bind_eq_bind, Option.bind_some]
      rw [ih]
      cases sendEvents rest p.2 with
      | none => rfl
      | some q => cases h : sendEvents b q.2 <;> simp [h]

theorem length_sendEvents {events : List BufferedClientEvent} {seq seq' : Nat}
    {messages : List Message} (h : sendEvents events seq = some (messages, seq')) :
    messages.length = events.length := by
  obtain ⟨messages', seq'', hSend, hAll, -⟩ := sendEvents_spec events seq
  obtain ⟨rfl, rfl⟩ := Prod.mk.inj (Option.some.inj (h.symm.trans hSend))
  exact hAll.length_eq.symm

namespace Forwarding

/-- The events with the messages that carry them. -/
def carrying (messages : List Message) (events : List BufferedClientEvent) : List Outgoing :=
  List.zipWith (fun message event => ⟨message, some event⟩) messages events

/-- What the startup sends, and the counter after it. -/
def startup (task : ForwardTask) (s : Forwarding) : List Outgoing × Nat :=
  match s.built with
  | none => ([], task.seq)
  | some (ready, guilds) =>
    let (messages, seq) := task.preamble ready guilds
    (messages.map fun message => ⟨message, none⟩, seq)

/-- The messages are the startup messages and then the visible events. -/
structure Shape (task : ForwardTask) (clientId : Str) (s : Forwarding) : Prop where
  waiting : s.stage = .waiting → s.built = none ∧ s.pending = [] ∧ s.enqueued = []
  built : s.stage ≠ .waiting → s.built.isSome = true
  buffered : s.stage = .waiting ∨ s.stage = .starting → s.buffered = []
  received : s.stage ≠ .live → s.received = []
  order : ∃ messages, sendEvents (s.visible clientId) (s.startup task).2 = some (messages, s.seq) ∧
    s.order = (s.startup task).1 ++ carrying messages (s.visible clientId)

theorem shape_new (task : ForwardTask) (clientId : Str) (clients : Clients) :
    Shape task clientId (new task clients) where
  waiting := fun _ => ⟨rfl, rfl, rfl⟩
  built := fun h => absurd rfl h
  buffered := fun _ => rfl
  received := fun _ => rfl
  order := ⟨[], rfl, rfl⟩

/-- A step that appends visible events and the messages that carry them. -/
theorem shape_append {task : ForwardTask} {clientId : Str} {s : Forwarding}
    {events : List BufferedClientEvent} {messages : List Message} {seq : Nat}
    (hOrder : ∃ before, sendEvents (s.visible clientId) (s.startup task).2 = some (before, s.seq) ∧
      s.order = (s.startup task).1 ++ carrying before (s.visible clientId))
    (hSend : sendEvents events s.seq = some (messages, seq)) :
    ∃ all, sendEvents (s.visible clientId ++ events) (s.startup task).2 = some (all, seq) ∧
      s.order ++ carrying messages events =
        (s.startup task).1 ++ carrying all (s.visible clientId ++ events) := by
  obtain ⟨before, hBefore, hOrder⟩ := hOrder
  refine ⟨before ++ messages, ?_, ?_⟩
  · rw [sendEvents_append, hBefore, Option.bind_some, hSend, Option.map_some]
  · rw [hOrder, List.append_assoc, carrying, carrying, carrying,
      List.zipWith_append (length_sendEvents hBefore)]

section Steps

variable {task : ForwardTask} {clientId : Str} {authorized : Finset Nat} {s t : Forwarding}
  {action : ForwardingStep}

theorem visibleReplayed_append (clientId : Str) (a b : List (Clients × BufferedClientEvent)) :
    visibleReplayed clientId (a ++ b) = visibleReplayed clientId a ++ visibleReplayed clientId b :=
  List.filterMap_append

theorem visibleLive_append (clientId : Str) (a b : List (Clients × RecvResult)) :
    visibleLive clientId (a ++ b) = visibleLive clientId a ++ visibleLive clientId b :=
  List.filterMap_append

/-- A checked event is carried by the one message that its check made, if any. -/
theorem pending_eq_carrying {event shown : Option BufferedClientEvent} {messages : List Message}
    {seq seq' : Nat} (hSend : sendEvents shown.toList seq = some (messages, seq'))
    (hShown : ∀ e, shown = some e → event = some e) :
    messages.map (fun message => (⟨message, event⟩ : Outgoing)) =
      carrying messages shown.toList := by
  have hLength := length_sendEvents hSend
  cases shown with
  | none =>
    obtain rfl := List.length_eq_zero_iff.mp hLength
    rfl
  | some e =>
    obtain ⟨message, rfl⟩ := List.length_eq_one_iff.mp hLength
    rw [hShown e rfl]
    rfl

theorem visibleReplayed_one (clientId : Str) (clients : Clients) (event : BufferedClientEvent) :
    ∃ shown : Option BufferedClientEvent,
      visibleReplayed clientId [(clients, event)] = shown.toList ∧
        ∀ e, shown = some e → e = event ∧ guildVisible clients clientId event.guildId := by
  unfold visibleReplayed
  by_cases hVisible : guildVisible clients clientId event.guildId
  · refine ⟨some event, by simp [hVisible], fun e he => ?_⟩
    exact ⟨(Option.some.inj he).symm, hVisible⟩
  · exact ⟨none, by simp [hVisible], fun e he => by cases he⟩

theorem visibleLive_one (clientId : Str) (clients : Clients) (result : RecvResult) :
    ∃ shown : Option BufferedClientEvent,
      visibleLive clientId [(clients, result)] = shown.toList ∧
        ∀ e, shown = some e → result.event = some e ∧ guildVisible clients clientId e.guildId := by
  unfold visibleLive
  cases result with
  | lagged amount => exact ⟨none, rfl, fun e he => by cases he⟩
  | message event =>
    by_cases hVisible : audienceVisible clientId event.audience ∧
        guildVisible clients clientId event.guildId
    · refine ⟨some event.buffered, by simp [hVisible], fun e he => ?_⟩
      obtain rfl := Option.some.inj he
      exact ⟨rfl, hVisible.2⟩
    · exact ⟨none, by simp [hVisible], fun e he => by cases he⟩

-- ---------------------------------------------------------------------------
-- What a step does
-- ---------------------------------------------------------------------------

theorem build_eq_some {ready : JsonObject} {guilds : Guilds}
    (hStep : s.step task (.build ready guilds) = some t) :
    s.stage = .waiting ∧ t = { s with
      stage := .starting
      pending := (task.preamble ready guilds).1.map fun message => ⟨message, none⟩
      seq := (task.preamble ready guilds).2
      built := some (ready, guilds) } := by
  rw [step] at hStep
  split at hStep
  · rename_i hStage
    exact ⟨hStage, (Option.some.inj hStep).symm⟩
  · cases hStep

theorem enqueue_eq_some (hStep : s.step task .enqueue = some t) :
    ∃ outgoing rest, s.pending = outgoing :: rest ∧ t = { s with
      pending := rest
      enqueued := s.enqueued ++ [(outgoing, s.clients)] } := by
  rw [step] at hStep
  split at hStep
  · cases hStep
  · rename_i outgoing rest hPending
    exact ⟨outgoing, rest, hPending, (Option.some.inj hStep).symm⟩

theorem drain_eq_some {buffered : List BufferedClientEvent}
    (hStep : s.step task (.drain buffered) = some t) :
    s.stage = .starting ∧ ∃ rest, t = { s with stage := .replaying rest } := by
  rw [step] at hStep
  split at hStep
  · rename_i hStage _
    exact ⟨hStage, _, (Option.some.inj hStep).symm⟩
  · cases hStep

theorem subscribe_eq_some (hStep : s.step task .subscribe = some t) :
    s.stage = .replaying [] ∧ t = { s with stage := .live } := by
  rw [step] at hStep
  split at hStep
  · rename_i hStage _
    exact ⟨hStage, (Option.some.inj hStep).symm⟩
  · cases hStep

/-- A replayed event is sent if it is visible. -/
theorem replay_eq_some (hClient : task.clientId = some clientId)
    (hAuthorized : task.authorizedGuilds = some authorized) (hStep : s.step task .replay = some t) :
    ∃ event rest messages seq, ∃ shown : Option BufferedClientEvent,
      s.stage = .replaying (event :: rest) ∧ s.pending = [] ∧
      visibleReplayed clientId [(s.clients, event)] = shown.toList ∧
      sendEvents shown.toList s.seq = some (messages, seq) ∧
      (∀ e, shown = some e → guildVisible s.clients clientId e.guildId) ∧
      t = { s with
        stage := .replaying rest
        pending := carrying messages shown.toList
        seq := seq
        buffered := s.buffered ++ [(s.clients, event)] } := by
  rw [step] at hStep
  split at hStep
  · rename_i event rest hStage hPending
    obtain ⟨⟨messages, seq⟩, hReplay, rfl⟩ := Option.map_eq_some_iff.mp hStep
    obtain ⟨shown, hOne, hShown⟩ := visibleReplayed_one clientId s.clients event
    rw [replay_eq hClient hAuthorized, hOne] at hReplay
    refine ⟨event, rest, messages, seq, shown, hStage, hPending, hOne, hReplay, ?_, ?_⟩
    · intro e he
      obtain ⟨rfl, hVisible⟩ := hShown e he
      exact hVisible
    · dsimp only
      rw [pending_eq_carrying hReplay fun e he => congrArg some (hShown e he).1.symm]
  · cases hStep

/-- A received event is sent if it is visible. -/
theorem receive_eq_some {result : RecvResult} (hClient : task.clientId = some clientId)
    (hAuthorized : task.authorizedGuilds = some authorized)
    (hStep : s.step task (.receive result) = some t) :
    ∃ messages seq, ∃ shown : Option BufferedClientEvent,
      s.stage = .live ∧ s.pending = [] ∧
      visibleLive clientId [(s.clients, result)] = shown.toList ∧
      sendEvents shown.toList s.seq = some (messages, seq) ∧
      (∀ e, shown = some e → guildVisible s.clients clientId e.guildId) ∧
      t = { s with
        pending := carrying messages shown.toList
        seq := seq
        received := s.received ++ [(s.clients, result)] } := by
  rw [step] at hStep
  split at hStep
  · rename_i hStage hPending
    obtain ⟨⟨messages, seq⟩, hLive, rfl⟩ := Option.map_eq_some_iff.mp hStep
    obtain ⟨shown, hOne, hShown⟩ := visibleLive_one clientId s.clients result
    rw [live_eq hClient hAuthorized, hOne] at hLive
    refine ⟨messages, seq, shown, hStage, hPending, hOne, hLive, fun e he => (hShown e he).2, ?_⟩
    dsimp only
    rw [pending_eq_carrying hLive fun e he => (hShown e he).1]
  · cases hStep

/-- **Step lemma.** -/
theorem shape_step (hClient : task.clientId = some clientId)
    (hAuthorized : task.authorizedGuilds = some authorized) (hShape : Shape task clientId s)
    (hStep : s.step task action = some t) : Shape task clientId t := by
  cases action with
  | registry clients =>
    obtain rfl := Option.some.inj hStep
    exact ⟨hShape.waiting, hShape.built, hShape.buffered, hShape.received, hShape.order⟩
  | build ready guilds =>
    obtain ⟨hStage, rfl⟩ := build_eq_some hStep
    obtain ⟨-, -, hEnqueued⟩ := hShape.waiting hStage
    have hBuffered := hShape.buffered (.inl hStage)
    have hReceived := hShape.received (by simp [hStage])
    have hNone : s.visible clientId = [] := by
      rw [visible, hBuffered, hReceived]
      rfl
    refine ⟨fun h => absurd h (by simp), fun _ => rfl, fun _ => hBuffered, fun _ => hReceived, [],
      ?_, ?_⟩
    · show sendEvents (s.visible clientId) _ = _
      rw [hNone]
      rfl
    · show s.enqueued.map Prod.fst ++ _ = _ ++ carrying [] (s.visible clientId)
      rw [hNone, hEnqueued]
      exact (List.append_nil _).symm
  | enqueue =>
    obtain ⟨outgoing, rest, hPending, rfl⟩ := enqueue_eq_some hStep
    have hOrder : (s.enqueued ++ [(outgoing, s.clients)]).map Prod.fst ++ rest = s.order := by
      rw [order, hPending, List.map_append, List.append_assoc]
      rfl
    obtain ⟨messages, hSend, hSame⟩ := hShape.order
    refine ⟨fun hStage => ?_, hShape.built, hShape.buffered, hShape.received, messages, hSend,
      hOrder.trans hSame⟩
    obtain ⟨-, hNil, -⟩ := hShape.waiting hStage
    rw [hPending] at hNil
    cases hNil
  | drain buffered =>
    obtain ⟨hStage, rest, rfl⟩ := drain_eq_some hStep
    exact ⟨fun h => absurd h (by simp), fun _ => hShape.built (by simp [hStage]),
      fun h => absurd h (by simp), fun _ => hShape.received (by simp [hStage]), hShape.order⟩
  | replay =>
    obtain ⟨event, rest, messages, seq, shown, hStage, hPending, hOne, hSend, -, rfl⟩ :=
      replay_eq_some hClient hAuthorized hStep
    have hNone := hShape.received (by simp [hStage])
    obtain ⟨all, hAll, hOrder⟩ := shape_append hShape.order hSend
    have hVisible : visibleReplayed clientId (s.buffered ++ [(s.clients, event)]) ++
        visibleLive clientId s.received = s.visible clientId ++ shown.toList := by
      rw [visible, hNone, visibleReplayed_append, hOne]
      simp [visibleLive]
    refine ⟨fun h => absurd h (by simp), fun _ => hShape.built (by simp [hStage]),
      fun h => absurd h (by simp), fun _ => hNone, all, ?_, ?_⟩
    · rw [visible, hVisible]
      exact hAll
    · rw [order, hPending, List.append_nil] at hOrder
      rw [visible, hVisible, order]
      exact hOrder
  | subscribe =>
    obtain ⟨hStage, rfl⟩ := subscribe_eq_some hStep
    exact ⟨fun h => absurd h (by simp), fun _ => hShape.built (by simp [hStage]),
      fun h => absurd h (by simp), fun h => absurd rfl h, hShape.order⟩
  | receive result =>
    obtain ⟨messages, seq, shown, hStage, hPending, hOne, hSend, -, rfl⟩ :=
      receive_eq_some hClient hAuthorized hStep
    obtain ⟨all, hAll, hOrder⟩ := shape_append hShape.order hSend
    have hVisible : visibleReplayed clientId s.buffered ++
        visibleLive clientId (s.received ++ [(s.clients, result)]) =
          s.visible clientId ++ shown.toList := by
      rw [visible, visibleLive_append, hOne, List.append_assoc]
    refine ⟨fun h => absurd h (by simp [hStage]), fun _ => hShape.built (by simp [hStage]),
      fun h => absurd h (by simp [hStage]), fun h => absurd hStage h, all, ?_, ?_⟩
    · rw [visible, hVisible]
      exact hAll
    · rw [order, hPending, List.append_nil] at hOrder
      rw [visible, hVisible, order]
      exact hOrder

theorem run_shape {as : List ForwardingStep} {clients : Clients}
    (hClient : task.clientId = some clientId)
    (hAuthorized : task.authorizedGuilds = some authorized)
    (hRun : Runs.exec (step task) (new task clients) as = some s) : Shape task clientId s :=
  Runs.exec_invariant (fun _ _ _ hShape hStep => shape_step hClient hAuthorized hShape hStep)
    (shape_new task clientId clients) hRun

theorem carrying_messages {messages : List Message} {events : List BufferedClientEvent}
    (h : messages.length = events.length) :
    (carrying messages events).map Outgoing.message = messages := by
  rw [carrying, List.map_zipWith]
  have hZip : List.zipWith (fun message (_ : BufferedClientEvent) => message) messages events =
      (messages.zip events).map Prod.fst := (List.map_uncurry_zip_eq_zipWith).symm
  rw [hZip]
  exact List.map_fst_zip h.le

theorem carrying_events {messages : List Message} {events : List BufferedClientEvent}
    (h : messages.length = events.length) :
    (carrying messages events).map Outgoing.event = events.map some := by
  rw [carrying, List.map_zipWith]
  have hZip : List.zipWith (fun (_ : Message) event => some event) messages events =
      ((messages.zip events).map Prod.snd).map some := by
    rw [List.map_map]
    exact (List.map_uncurry_zip_eq_zipWith).symm
  rw [hZip, List.map_snd_zip h.ge]

/-- **Refinement.** The run puts into the queue, step by step, what
`forward_shard` sends for the cache, the offline buffer and the broadcasts that
it met. -/
theorem refines_forwardShard {ready : JsonObject} {guilds : Guilds}
    (hClient : task.clientId = some clientId)
    (hAuthorized : task.authorizedGuilds = some authorized)
    (hShape : Shape task clientId s) (hBuilt : s.built = some (ready, guilds)) :
    task.forwardShard ready guilds s.buffered s.received = some (s.order.map Outgoing.message) := by
  obtain ⟨messages, hSend, hOrder⟩ := hShape.order
  have hLength := length_sendEvents hSend
  rw [hOrder, List.map_append, carrying_messages hLength, startup, hBuilt]
  rw [startup, hBuilt, visible, sendEvents_append] at hSend
  obtain ⟨⟨replayed, seq⟩, hReplay, hRest⟩ := Option.bind_eq_some_iff.mp hSend
  obtain ⟨⟨forwarded, seq'⟩, hLive, hBoth⟩ := Option.map_eq_some_iff.mp hRest
  obtain ⟨rfl, rfl⟩ := Prod.mk.inj hBoth
  rw [← replay_eq hClient hAuthorized] at hReplay
  rw [← live_eq hClient hAuthorized] at hLive
  unfold ForwardTask.forwardShard
  rw [hClient]
  dsimp only at hReplay hLive ⊢
  simp [hReplay, hLive, Function.comp_def]

theorem mem_carrying {messages : List Message} {events : List BufferedClientEvent}
    {outgoing : Outgoing} (hLength : messages.length = events.length)
    (hMem : outgoing ∈ carrying messages events) :
    ∃ event ∈ events, outgoing.event = some event := by
  have hEvent := List.mem_map_of_mem (f := Outgoing.event) hMem
  rw [carrying_events hLength] at hEvent
  obtain ⟨event, hEvents, hSame⟩ := List.mem_map.mp hEvent
  exact ⟨event, hEvents, hSame.symm⟩

/-- A step makes startup messages, or messages of an event visible at this
moment, and leaves the others as they are. -/
theorem pending_step (hClient : task.clientId = some clientId)
    (hAuthorized : task.authorizedGuilds = some authorized) (hStep : s.step task action = some t)
    {outgoing : Outgoing} (hMem : outgoing ∈ t.pending) :
    outgoing ∈ s.pending ∨
      (∃ ready guilds, action = .build ready guilds ∧ outgoing.event = none ∧
        outgoing.message ∈ (task.preamble ready guilds).1) ∨
      t.clients = s.clients ∧
        ∃ event, outgoing.event = some event ∧ guildVisible s.clients clientId event.guildId := by
  cases action with
  | registry clients =>
    obtain rfl := Option.some.inj hStep
    exact .inl hMem
  | build ready guilds =>
    obtain ⟨-, rfl⟩ := build_eq_some hStep
    obtain ⟨message, hMessage, rfl⟩ := List.mem_map.mp hMem
    exact .inr (.inl ⟨ready, guilds, rfl, rfl, hMessage⟩)
  | enqueue =>
    obtain ⟨first, rest, hPending, rfl⟩ := enqueue_eq_some hStep
    rw [hPending]
    exact .inl (List.mem_cons_of_mem _ hMem)
  | drain buffered =>
    obtain ⟨-, rest, rfl⟩ := drain_eq_some hStep
    exact .inl hMem
  | replay =>
    obtain ⟨event, rest, messages, seq, shown, -, -, -, hSend, hShown, rfl⟩ :=
      replay_eq_some hClient hAuthorized hStep
    obtain ⟨e, he, hEvent⟩ := mem_carrying (length_sendEvents hSend) hMem
    exact .inr (.inr ⟨rfl, e, hEvent, hShown e (Option.mem_toList.mp he)⟩)
  | subscribe =>
    obtain ⟨-, rfl⟩ := subscribe_eq_some hStep
    exact .inl hMem
  | receive result =>
    obtain ⟨messages, seq, shown, -, -, -, hSend, hShown, rfl⟩ :=
      receive_eq_some hClient hAuthorized hStep
    obtain ⟨e, he, hEvent⟩ := mem_carrying (length_sendEvents hSend) hMem
    exact .inr (.inr ⟨rfl, e, hEvent, hShown e (Option.mem_toList.mp he)⟩)

/-- A step puts at most a pending message into the queue, under the registry of
this moment, and only a change of the registry changes it. -/
theorem enqueued_step (hClient : task.clientId = some clientId)
    (hAuthorized : task.authorizedGuilds = some authorized)
    (hStep : s.step task action = some t) :
    (t.enqueued = s.enqueued ∨
      ∃ outgoing ∈ s.pending, t.enqueued = s.enqueued ++ [(outgoing, s.clients)]) ∧
    (t.clients = s.clients ∨ action = .registry t.clients) := by
  cases action with
  | registry clients =>
    obtain rfl := Option.some.inj hStep
    exact ⟨.inl rfl, .inr rfl⟩
  | build ready guilds =>
    obtain ⟨-, rfl⟩ := build_eq_some hStep
    exact ⟨.inl rfl, .inl rfl⟩
  | enqueue =>
    obtain ⟨outgoing, rest, hPending, rfl⟩ := enqueue_eq_some hStep
    rw [hPending]
    exact ⟨.inr ⟨outgoing, List.mem_cons_self, rfl⟩, .inl rfl⟩
  | drain buffered =>
    obtain ⟨-, rest, rfl⟩ := drain_eq_some hStep
    exact ⟨.inl rfl, .inl rfl⟩
  | replay =>
    obtain ⟨_, _, _, _, _, -, -, -, -, -, rfl⟩ := replay_eq_some hClient hAuthorized hStep
    exact ⟨.inl rfl, .inl rfl⟩
  | subscribe =>
    obtain ⟨-, rfl⟩ := subscribe_eq_some hStep
    exact ⟨.inl rfl, .inl rfl⟩
  | receive result =>
    obtain ⟨_, _, _, -, -, -, -, -, rfl⟩ := receive_eq_some hClient hAuthorized hStep
    exact ⟨.inl rfl, .inl rfl⟩

/-- What is pending can be put into the queue before anything else happens. -/
theorem reaches_enqueued (s : Forwarding) :
    Runs.Reaches (step task) (fun _ a => a = .enqueue) s { s with
      pending := []
      enqueued := s.enqueued ++ s.pending.map fun outgoing => (outgoing, s.clients) } := by
  obtain ⟨clients, stage, pending, seq, enqueued, built, buffered, received⟩ := s
  induction pending generalizing enqueued with
  | nil =>
    rw [List.map_nil, List.append_nil]
    exact .refl _
  | cons outgoing rest ih =>
    refine .head (a := .enqueue) rfl rfl ?_
    have hRest := ih (enqueued ++ [(outgoing, clients)])
    rw [List.append_assoc] at hRest
    exact hRest

end Steps

end Forwarding

end GatewayProxy
