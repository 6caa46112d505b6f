import GatewayProxy.Lib.Runs
import GatewayProxy.Source.Server
import GatewayProxy.Source.ShardTask

/-!
# What a shard relays and keeps

The task of a shard over every sequence of messages of the Discord connection,
with the other tasks in between. Its flag, its channel and the READY cell follow
from the messages alone: the last session event decides about the flag
(`readyAfter`) and the last READY or lost session about the cell (`cellAfter`).

Main results:

* `relayInv_step`: what a step of any stage keeps.
* `relay_exact`: between messages, the channel holds exactly the dispatches that
  arrived while the session was up, in order and once each.
* `ready_scrubbed`: the READY that a connection builds from the cell has the
  proxy's URL, the connection's session and its guilds; the rest is Discord's.
-/

namespace GatewayProxy

open Utf8 Assoc Broadcast

-- ---------------------------------------------------------------------------
-- What the messages say
-- ---------------------------------------------------------------------------

/-- READY or RESUMED. -/
def GatewayEvent.startsSession (event : GatewayEvent) : Bool :=
  event.eventType.any fun info => info.name = "READY".toList ∨ info.name = "RESUMED".toList

def GatewayEvent.isReadyEvent (event : GatewayEvent) : Bool :=
  event.eventType.any fun info => info.name = "READY".toList

/-- Whether a message says that the session is up or down. -/
def sessionEvent (lib : ShardLib) (payload : Str) : Option Bool :=
  match GatewayEvent.fromJson payload with
  | none => none
  | some event =>
    match lib.parse payload with
    | .invalidateSession _ => some false
    | _ => if event.startsSession then some true else none

/-- Whether the session is up after the messages. -/
def readyAfter (lib : ShardLib) (received : List Str) : Bool :=
  (received.filterMap (sessionEvent lib)).getLast?.getD false

/-- A dispatch other than READY and RESUMED, while the session is up. -/
def isRelayed (isReady : Bool) (payload : Str) : Bool :=
  ((GatewayEvent.fromJson payload).bind fun event => relayedName event isReady).isSome

/-- The messages to relay, in order. -/
def relays (lib : ShardLib) (received : List Str) : List Str :=
  (List.range received.length).filterMap fun k =>
    (received[k]?).filter fun payload => isRelayed (readyAfter lib (received.take k)) payload

/-- What a message puts into the READY cell. -/
def cellEvent (cfg : Config) (lib : ShardLib) (payload : Str) : Option (Option JsonObject) :=
  match GatewayEvent.fromJson payload with
  | none => none
  | some event =>
    match lib.parse payload with
    | .invalidateSession false => some none
    | _ =>
      if event.isReadyEvent then
        (lib.parseReady payload).map fun ready => some (scrubReady cfg lib ready)
      else none

def cellAfter (cfg : Config) (lib : ShardLib) (received : List Str) : Option JsonObject :=
  (received.filterMap (cellEvent cfg lib)).getLast?.getD none

/-- The READY that a message brings, or the loss of the session. -/
def readyEvent (lib : ShardLib) (payload : Str) : Option (Option JsonObject) :=
  match GatewayEvent.fromJson payload with
  | none => none
  | some event =>
    match lib.parse payload with
    | .invalidateSession false => some none
    | _ => if event.isReadyEvent then (lib.parseReady payload).map some else none

/-- The last READY as Discord sent it, since a session was lost for good. -/
def lastReady (lib : ShardLib) (received : List Str) : Option JsonObject :=
  (received.filterMap (readyEvent lib)).getLast?.getD none

/-- What is kept of a READY: the proxy's URL to resume at, no guilds, and every
other member. -/
structure Scrubbed (cfg : Config) (lib : ShardLib) (discord ready : JsonObject) : Prop where
  url : ready.lookup "resume_gateway_url".toList = some (.string cfg.externallyAccessibleUrl)
  guilds : ∀ list, discord.lookup "guilds".toList = some list → list.isArray lib = true →
    ready.lookup "guilds".toList = some (.guildList [])
  others : ∀ key, key ≠ "guilds".toList → key ≠ "resume_gateway_url".toList →
    ready.lookup key = discord.lookup key

section Appending

variable (cfg : Config) (lib : ShardLib) (received : List Str) (payload : Str)

/-- The last of some readings, after one more message. -/
theorem getLast?_filterMap_append {α β : Type} (f : α → Option β) (l : List α) (a : α) (b : β) :
    ((l ++ [a]).filterMap f).getLast?.getD b = (f a).getD ((l.filterMap f).getLast?.getD b) := by
  rw [List.filterMap_append]
  cases h : f a with
  | none => simp [h]
  | some c => simp [h]

theorem readyAfter_append :
    readyAfter lib (received ++ [payload]) =
      (sessionEvent lib payload).getD (readyAfter lib received) :=
  getLast?_filterMap_append _ _ _ _

theorem cellAfter_append :
    cellAfter cfg lib (received ++ [payload]) =
      (cellEvent cfg lib payload).getD (cellAfter cfg lib received) :=
  getLast?_filterMap_append _ _ _ _

theorem relays_append :
    relays lib (received ++ [payload]) =
      relays lib received ++
        if isRelayed (readyAfter lib received) payload then [payload] else [] := by
  unfold relays
  rw [List.length_append, List.length_singleton, List.range_succ, List.filterMap_append]
  congr 1
  · refine List.filterMap_congr fun k hk => ?_
    have hLt := List.mem_range.mp hk
    rw [List.getElem?_append_left hLt, List.take_append_of_le_length (by omega)]
  · have hLast : (received ++ [payload])[received.length]? = some payload := by simp
    have hTake : (received ++ [payload]).take received.length = received := by simp
    rw [List.filterMap_cons, hLast, hTake, List.filterMap_nil]
    cases h : isRelayed (readyAfter lib received) payload <;> simp [Option.filter, h]

end Appending

section Names

variable {payload : Str} {event : GatewayEvent} {info : EventTypeInfo}

/-- READY starts a session. -/
theorem GatewayEvent.startsSession_of_isReadyEvent (h : event.isReadyEvent = true) :
    event.startsSession = true := by
  unfold isReadyEvent at h
  unfold startsSession
  cases hType : event.eventType with
  | none =>
    rw [hType] at h
    cases h
  | some info =>
    rw [hType, Option.any_some, decide_eq_true_eq] at h
    rw [Option.any_some, decide_eq_true_eq]
    exact .inl h

theorem startsSession_iff (hType : event.eventType = some info) :
    event.startsSession = true ↔
      info.name = "READY".toList ∨ info.name = "RESUMED".toList := by
  rw [GatewayEvent.startsSession, hType, Option.any_some, decide_eq_true_eq]

theorem isReadyEvent_iff (hType : event.eventType = some info) :
    event.isReadyEvent = true ↔ info.name = "READY".toList := by
  rw [GatewayEvent.isReadyEvent, hType, Option.any_some, decide_eq_true_eq]

theorem isRelayed_iff (hEvent : GatewayEvent.fromJson payload = some event)
    (hType : event.eventType = some info) (isReady : Bool) :
    isRelayed isReady payload = true ↔
      event.startsSession = false ∧ event.op.op = 0 ∧ isReady = true := by
  rw [← Bool.not_eq_true, startsSession_iff hType, isRelayed, hEvent, Option.bind_some, relayedName,
    hType]
  dsimp only
  split
  · rename_i hName
    exact iff_of_false (by simp) fun h => h.1 hName
  · rename_i hName
    split
    · rename_i hDispatch
      exact iff_of_true rfl ⟨hName, hDispatch⟩
    · rename_i hDispatch
      exact iff_of_false (by simp) fun h => hDispatch h.2

end Names

-- ---------------------------------------------------------------------------
-- The invariant
-- ---------------------------------------------------------------------------

namespace ShardTask

/-- The READY cell of the shard. -/
def cell (s : ShardTask) (shardId : Nat) : Option JsonObject :=
  (s.inner.shard shardId).bind Shard.ready

/-- The texts that were broadcast. -/
def relayed (s : ShardTask) : List Str := s.events.sent.map BroadcastMessage.payload

end ShardTask

/-- A message is the event of its text, for the audience that the registry and
the voice owners gave at the time. -/
def BroadcastMessage.Faithful (message : BroadcastMessage) : Prop :=
  ∃ event info clients inner, GatewayEvent.fromJson message.payload = some event ∧
    event.eventType = some info ∧ message.guildId = event.guildId ∧
    message.audience = audienceFor clients inner info.name event.guildId

/-- What READY puts into the cell, before the parser sees it. -/
def announced (cfg : Config) (lib : ShardLib) (payload : Str) (event : GatewayEvent) :
    Option JsonObject :=
  if event.isReadyEvent then (lib.parseReady payload).map (scrubReady cfg lib) else none

/-- The flag, the cell and the channel, in each stage of the loop. `done` are the
messages that the loop is done with. -/
def StageInv (cfg : Config) (lib : ShardLib) (shardId : Nat) (s : ShardTask) : Prop :=
  match s.stage with
  | .receiving | .returned =>
    s.isReady = readyAfter lib s.received ∧ s.cell shardId = cellAfter cfg lib s.received ∧
      s.relayed = relays lib s.received
  | .received payload _ _ => ∃ done, s.received = done ++ [payload] ∧
      s.isReady = readyAfter lib done ∧ s.cell shardId = cellAfter cfg lib done ∧
      s.relayed = relays lib done
  | .buffering _ message => ∃ done event, s.received = done ++ [message.payload] ∧
      GatewayEvent.fromJson message.payload = some event ∧ event.startsSession = false ∧
      s.isReady = readyAfter lib done ∧ s.cell shardId = cellAfter cfg lib done ∧
      s.relayed = relays lib s.received
  | .parsing payload => ∃ done event, s.received = done ++ [payload] ∧
      GatewayEvent.fromJson payload = some event ∧
      s.isReady = (event.startsSession || readyAfter lib done) ∧
      s.cell shardId = (announced cfg lib payload event).or (cellAfter cfg lib done) ∧
      s.relayed = relays lib s.received

structure RelayInv (cfg : Config) (lib : ShardLib) (shardId : Nat) (s : ShardTask) : Prop where
  here : (s.inner.shard shardId).isSome = true
  stage : StageInv cfg lib shardId s
  faithful : ∀ message ∈ s.events.sent, message.Faithful

theorem relayInv_new (cfg : Config) (lib : ShardLib) {shardId : Nat} {inner : Inner} {shard : Shard}
    (hShard : inner.shard shardId = some shard) (hReady : shard.ready = none) :
    RelayInv cfg lib shardId (ShardTask.new inner) where
  here := by
    show (inner.shard shardId).isSome = true
    rw [hShard]
    rfl
  stage := by
    refine ⟨rfl, ?_, rfl⟩
    show (inner.shard shardId).bind Shard.ready = none
    rw [hShard]
    exact hReady
  faithful := by
    intro message hMem
    cases hMem

-- ---------------------------------------------------------------------------
-- What a step does
-- ---------------------------------------------------------------------------

section Steps

variable {cfg : Config} {lib : ShardLib} {shardId : Nat} {s t : ShardTask}

/-- A message the loop skips says nothing, and one it takes is at the branches next. -/
theorem stageInv_receive (hStage : s.stage = .receiving) (hInv : StageInv cfg lib shardId s)
    (payload : Str) : StageInv cfg lib shardId (s.receive payload) := by
  unfold StageInv at hInv
  rw [hStage] at hInv
  obtain ⟨hReady, hCell, hRelayed⟩ := hInv
  unfold ShardTask.receive
  dsimp only
  split
  · rename_i hNone
    unfold StageInv
    dsimp only
    rw [hStage]
    have hSession : sessionEvent lib payload = none := by rw [sessionEvent, hNone]
    have hPut : cellEvent cfg lib payload = none := by rw [cellEvent, hNone]
    have hNot : isRelayed (readyAfter lib s.received) payload = false := by
      rw [isRelayed, hNone]
      rfl
    refine ⟨?_, ?_, ?_⟩
    · rw [readyAfter_append, hSession]
      exact hReady
    · rw [cellAfter_append, hPut]
      exact hCell
    · rw [relays_append, hNot]
      exact hRelayed.trans (List.append_nil _).symm
  · exact ⟨s.received, rfl, hReady, hCell, hRelayed⟩

theorem shard_setReady (inner : Inner) (payload : JsonObject) :
    (inner.setReady shardId payload).shard shardId =
      (inner.shard shardId).map fun s => { s with ready := some payload } :=
  Inner.shard_updateShard (f := fun s => { s with ready := some payload }) (fun _ => rfl) inner shardId

theorem shard_setNotReady (inner : Inner) :
    (inner.setNotReady shardId).shard shardId =
      (inner.shard shardId).map fun s => { s with ready := none } :=
  Inner.shard_updateShard (f := fun s => { s with ready := none }) (fun _ => rfl) inner shardId

/-- READY fills the cell. -/
theorem handleReady_eq_some {inner inner' : Inner} {payload : Str}
    (h : handleReady cfg lib shardId inner payload = some inner') :
    ∃ ready, lib.parseReady payload = some ready ∧
      inner'.shard shardId = (inner.shard shardId).map fun s =>
        { s with ready := some (scrubReady cfg lib ready) } := by
  obtain ⟨ready, hReady, rfl⟩ := Option.map_eq_some_iff.mp h
  refine ⟨ready, hReady, ?_⟩
  dsimp only
  rw [shard_setReady]
  congr 1
  split <;> rfl

/-- The branches keep the invariant. -/
theorem relayInv_handle {payload : Str} {event : GatewayEvent}
    {hEvent : GatewayEvent.fromJson payload = some event} {clients : Clients}
    (hStage : s.stage = .received payload event hEvent) (hInv : RelayInv cfg lib shardId s)
    (hStep : s.handle cfg lib shardId clients payload event hEvent = some t) :
    RelayInv cfg lib shardId t := by
  have hAt := hInv.stage
  unfold StageInv at hAt
  rw [hStage] at hAt
  obtain ⟨done, hDone, hReady, hCell, hRelayed⟩ := hAt
  have hKeep : isRelayed (readyAfter lib done) payload = false →
      s.relayed = relays lib s.received := by
    intro hNot
    rw [hDone, relays_append, hNot]
    exact hRelayed.trans (List.append_nil _).symm
  -- nothing is relayed and the cell is not written
  have hQuiet : event.startsSession = false → isRelayed (readyAfter lib done) payload = false →
      RelayInv cfg lib shardId { s with stage := .parsing payload } := by
    intro hStarts hNot
    refine ⟨hInv.here, ⟨done, event, hDone, hEvent, ?_, ?_, hKeep hNot⟩, hInv.faithful⟩
    · rw [hStarts]
      exact hReady
    · have hNotReady : ¬ event.isReadyEvent = true := fun h => by
        rw [GatewayEvent.startsSession_of_isReadyEvent h] at hStarts
        cases hStarts
      rw [announced, if_neg hNotReady]
      exact hCell
  unfold ShardTask.handle at hStep
  cases hType : event.eventType with
  | none =>
    rw [hType] at hStep
    obtain rfl := Option.some.inj hStep
    refine hQuiet ?_ ?_
    · rw [GatewayEvent.startsSession, hType]
      rfl
    · rw [isRelayed, hEvent, Option.bind_some, relayedName, hType]
      rfl
  | some info =>
    rw [hType] at hStep
    dsimp only at hStep
    have hNotRelayed : ¬ (event.startsSession = false ∧ event.op.op = 0 ∧ s.isReady = true) →
        isRelayed (readyAfter lib done) payload = false := by
      intro hNot
      rw [← Bool.not_eq_true, isRelayed_iff hEvent hType, ← hReady]
      exact hNot
    split at hStep
    · -- READY
      rename_i hName
      obtain ⟨inner, hHandle, rfl⟩ := Option.map_eq_some_iff.mp hStep
      obtain ⟨ready, hParse, hShard⟩ := handleReady_eq_some hHandle
      have hIsReady := (isReadyEvent_iff hType).mpr hName
      have hStarts := GatewayEvent.startsSession_of_isReadyEvent hIsReady
      obtain ⟨shard, hHere⟩ := Option.isSome_iff_exists.mp hInv.here
      refine ⟨?_, ⟨done, event, hDone, hEvent, ?_, ?_, hKeep (hNotRelayed ?_)⟩, hInv.faithful⟩
      · show (inner.shard shardId).isSome = true
        rw [hShard, hHere]
        rfl
      · rw [hStarts]
        rfl
      · show (inner.shard shardId).bind Shard.ready = _
        rw [hShard, hHere, announced, if_pos hIsReady, hParse]
        rfl
      · exact fun h => by simp [hStarts] at h
    · rename_i hNotReady
      split at hStep
      · -- RESUMED
        rename_i hName
        obtain rfl := Option.some.inj hStep
        have hStarts := (startsSession_iff hType).mpr (.inr hName)
        refine ⟨hInv.here, ⟨done, event, hDone, hEvent, ?_, ?_, hKeep (hNotRelayed ?_)⟩,
          hInv.faithful⟩
        · rw [hStarts]
          rfl
        · rw [announced, if_neg fun h => hNotReady ((isReadyEvent_iff hType).mp h)]
          exact hCell
        · exact fun h => by simp [hStarts] at h
      · rename_i hNotResumed
        have hStarts : event.startsSession = false := by
          rw [← Bool.not_eq_true, startsSession_iff hType]
          exact fun h => h.elim hNotReady hNotResumed
        split at hStep
        · -- a dispatch
          rename_i hDispatch
          obtain rfl := Option.some.inj hStep
          have hSame := trackEvent_shards lib.json s.inner info.name payload event.guildId
          have hShard := Inner.shard_of_shards_eq hSame shardId
          have hIs : isRelayed (readyAfter lib done) payload = true := by
            rw [isRelayed_iff hEvent hType, ← hReady]
            exact ⟨hStarts, hDispatch⟩
          refine ⟨?_, ⟨done, event, hDone, hEvent, hStarts, hReady, ?_, ?_⟩, ?_⟩
          · show ((trackEvent _ _ _ _ _).shard shardId).isSome = true
            rw [hShard]
            exact hInv.here
          · show ((trackEvent _ _ _ _ _).shard shardId).bind Shard.ready = _
            rw [hShard]
            exact hCell
          · show (s.events.sent ++ [_]).map BroadcastMessage.payload = relays lib s.received
            rw [hDone, relays_append, if_pos hIs, List.map_append]
            exact congrArg (· ++ [payload]) hRelayed
          · intro message hMem
            rcases List.mem_append.mp hMem with hOld | hNew
            · exact hInv.faithful message hOld
            · rw [List.mem_singleton.mp hNew]
              exact ⟨event, info, clients, _, hEvent, hType, rfl, rfl⟩
        · rename_i hNot
          obtain rfl := Option.some.inj hStep
          exact hQuiet hStarts (hNotRelayed fun h => hNot h.2)

/-- The parsed event decides last. -/
theorem relayInv_finish {payload : Str} (hStage : s.stage = .parsing payload)
    (hInv : RelayInv cfg lib shardId s) : RelayInv cfg lib shardId (s.finish lib shardId payload) := by
  have hAt := hInv.stage
  unfold StageInv at hAt
  rw [hStage] at hAt
  obtain ⟨done, event, hDone, hEvent, hReady, hCell, hRelayed⟩ := hAt
  obtain ⟨shard, hHere⟩ := Option.isSome_iff_exists.mp hInv.here
  have hCellAt : s.cell shardId = shard.ready := by
    rw [ShardTask.cell, hHere]
    rfl
  -- without a lost session, what READY and RESUMED did stands
  have hUp : (∀ canResume, lib.parse payload ≠ .invalidateSession canResume) →
      s.isReady = readyAfter lib s.received ∧ shard.ready = cellAfter cfg lib s.received := by
    intro hParse
    have hSession : sessionEvent lib payload =
        if event.startsSession then some true else none := by
      rw [sessionEvent, hEvent]
      dsimp only
      split
      · rename_i canResume hLost
        exact absurd hLost (hParse canResume)
      · rfl
    have hPut : cellEvent cfg lib payload = (announced cfg lib payload event).map some := by
      rw [cellEvent, hEvent, announced]
      dsimp only
      split
      · rename_i hLost
        exact absurd hLost (hParse false)
      · split
        · rw [Option.map_map]
          rfl
        · rfl
    rw [hDone, readyAfter_append, cellAfter_append, hSession, hPut, hReady, ← hCellAt, hCell]
    constructor
    · cases event.startsSession <;> rfl
    · cases announced cfg lib payload event <;> rfl
  unfold ShardTask.finish
  cases hParse : lib.parse payload with
  | dispatch =>
    obtain ⟨hFlag, hPut⟩ := hUp fun canResume h => by simp [hParse] at h
    have hShard := (Inner.shard_updateShard (f := fun shard =>
      { shard with guilds := lib.update shard.guilds payload }) (fun _ => rfl) s.inner shardId)
    rw [hHere] at hShard
    refine ⟨?_, ⟨hFlag, ?_, hRelayed⟩, hInv.faithful⟩
    · show ((s.inner.updateShard shardId _).shard shardId).isSome = true
      rw [hShard]
      rfl
    · show ((s.inner.updateShard shardId _).shard shardId).bind Shard.ready = _
      rw [hShard]
      exact hPut
  | ignored =>
    obtain ⟨hFlag, hPut⟩ := hUp fun canResume h => by simp [hParse] at h
    exact ⟨hInv.here, ⟨hFlag, hCellAt.trans hPut, hRelayed⟩, hInv.faithful⟩
  | invalidateSession canResume =>
    have hSession : sessionEvent lib payload = some false := by rw [sessionEvent, hEvent, hParse]
    have hFlag : false = readyAfter lib s.received := by
      rw [hDone, readyAfter_append, hSession]
      rfl
    cases canResume with
    | true =>
      have hPut : cellEvent cfg lib payload = (announced cfg lib payload event).map some := by
        rw [cellEvent, hEvent, announced, hParse]
        dsimp only
        split
        · rw [Option.map_map]
          rfl
        · rfl
      refine ⟨hInv.here, ⟨hFlag, ?_, hRelayed⟩, hInv.faithful⟩
      show s.cell shardId = cellAfter cfg lib s.received
      rw [hDone, cellAfter_append, hPut, hCell]
      cases announced cfg lib payload event <;> rfl
    | false =>
      have hPut : cellEvent cfg lib payload = some none := by rw [cellEvent, hEvent, hParse]
      have hShard : (s.inner.setNotReady shardId).shard shardId =
          some { shard with ready := none } := by
        rw [shard_setNotReady, hHere]
        rfl
      refine ⟨?_, ⟨hFlag, ?_, hRelayed⟩, hInv.faithful⟩
      · show ((s.inner.setNotReady shardId).shard shardId).isSome = true
        rw [hShard]
        rfl
      · show ((s.inner.setNotReady shardId).shard shardId).bind Shard.ready = _
        rw [hShard, hDone, cellAfter_append, hPut]
        rfl

/-- A step that leaves the entry of the shard alone, and the stage. -/
theorem RelayInv.of_inner (hInv : RelayInv cfg lib shardId s) {inner : Inner}
    (hSame : inner.shard shardId = s.inner.shard shardId) :
    RelayInv cfg lib shardId { s with inner := inner } := by
  have hCell : ({ s with inner := inner } : ShardTask).cell shardId = s.cell shardId := by
    rw [ShardTask.cell, hSame, ShardTask.cell]
  refine ⟨?_, ?_, hInv.faithful⟩
  · rw [hSame]
    exact hInv.here
  · have hStage := hInv.stage
    unfold StageInv at hStage ⊢
    dsimp only
    rw [hCell]
    exact hStage

/-- **Step lemma.** -/
theorem relayInv_step {a : ShardStep} (hInv : RelayInv cfg lib shardId s)
    (hStep : s.step cfg lib shardId a = some t) : RelayInv cfg lib shardId t := by
  unfold ShardTask.step at hStep
  cases a with
  | next input =>
    dsimp only at hStep
    split at hStep
    · rename_i hStage
      have hReturned : RelayInv cfg lib shardId { s with stage := .returned } := by
        have hAt := hInv.stage
        unfold StageInv at hAt
        rw [hStage] at hAt
        exact ⟨hInv.here, hAt, hInv.faithful⟩
      cases input with
      | text payload =>
        obtain rfl := Option.some.inj hStep
        have hRest : (s.receive payload).inner = s.inner ∧
            (s.receive payload).events = s.events := by
          unfold ShardTask.receive
          dsimp only
          split <;> exact ⟨rfl, rfl⟩
        refine ⟨?_, stageInv_receive hStage hInv.stage payload, ?_⟩
        · rw [hRest.1]
          exact hInv.here
        · rw [hRest.2]
          exact hInv.faithful
      | close shutdown =>
        obtain rfl := Option.some.inj hStep
        cases shutdown with
        | true => exact hReturned
        | false => exact hInv
      | failed =>
        obtain rfl := Option.some.inj hStep
        exact hInv
      | ended =>
        obtain rfl := Option.some.inj hStep
        exact hReturned
    · cases hStep
  | handle clients =>
    dsimp only at hStep
    split at hStep
    · rename_i hStage
      exact relayInv_handle hStage hInv hStep
    · cases hStep
  | buffer clients now =>
    dsimp only at hStep
    split at hStep
    · rename_i eventName message hStage
      obtain rfl := Option.some.inj hStep
      have hSame := Inner.shard_of_shards_eq
        (bufferEvent_shards clients s.inner eventName message now) shardId
      have hNext := hInv.of_inner hSame
      have hAt := hNext.stage
      unfold StageInv at hAt
      dsimp only at hAt
      rw [hStage] at hAt
      obtain ⟨done, event, hDone, hEvent, hStarts, hReady, hCell, hRelayed⟩ := hAt
      refine ⟨hNext.here, ⟨done, event, hDone, hEvent, ?_, ?_, hRelayed⟩, hNext.faithful⟩
      · rw [hStarts]
        exact hReady
      · have hNotReady : ¬ event.isReadyEvent = true := fun h => by
          rw [GatewayEvent.startsSession_of_isReadyEvent h] at hStarts
          cases hStarts
        rw [announced, if_neg hNotReady]
        exact hCell
    · cases hStep
  | parse =>
    dsimp only at hStep
    split at hStep
    · rename_i hStage
      obtain rfl := Option.some.inj hStep
      exact relayInv_finish hStage hInv
    · cases hStep
  | other inner =>
    dsimp only at hStep
    split at hStep
    · rename_i hSame
      obtain rfl := Option.some.inj hStep
      exact hInv.of_inner hSame
    · cases hStep

end Steps

theorem scrubbed_scrubReady (cfg : Config) (lib : ShardLib) (discord : JsonObject) :
    Scrubbed cfg lib discord (scrubReady cfg lib discord) := by
  refine ⟨AList.lookup_insert _, fun list hList hArray => ?_, fun key hGuilds hUrl => ?_⟩
  · unfold scrubReady
    dsimp only
    rw [AList.lookup_insert_ne (by decide), hList]
    dsimp only
    rw [if_pos hArray]
    exact AList.lookup_insert _
  · unfold scrubReady
    dsimp only
    rw [AList.lookup_insert_ne hUrl]
    split
    · split
      · rw [AList.lookup_insert_ne hGuilds]
      · rfl
    · rfl

/-- The cell is the last READY, scrubbed. -/
theorem cellAfter_eq (cfg : Config) (lib : ShardLib) (received : List Str) :
    cellAfter cfg lib received = (lastReady lib received).map (scrubReady cfg lib) := by
  have hEvent : ∀ payload, cellEvent cfg lib payload =
      (readyEvent lib payload).map (Option.map (scrubReady cfg lib)) := by
    intro payload
    unfold cellEvent readyEvent
    cases GatewayEvent.fromJson payload with
    | none => rfl
    | some event =>
      dsimp only
      split
      · rfl
      · split
        · rw [Option.map_map]
          rfl
        · rfl
  have hAll : received.filterMap (cellEvent cfg lib) =
      (received.filterMap (readyEvent lib)).map (Option.map (scrubReady cfg lib)) := by
    rw [List.map_filterMap]
    exact List.filterMap_congr fun payload _ => hEvent payload
  unfold cellAfter lastReady
  rw [hAll, List.getLast?_map]
  cases (received.filterMap (readyEvent lib)).getLast? <;> rfl

/-- Over every run of the shard's task and the others, each time the loop waits
for a message: the channel holds the dispatches that arrived while the last
session event was READY or RESUMED, in order and once each, with what was read
off their texts; and the READY cell holds the last READY since a session was
lost for good, with the proxy's URL and without its guilds. -/
theorem relay_exact (cfg : Config) (lib : ShardLib) (shardId : Nat) (inner : Inner) (shard : Shard)
    (hShard : inner.shard shardId = some shard) (hFresh : shard.ready = none)
    (steps : List ShardStep) (s : ShardTask)
    (hRun : Runs.exec (ShardTask.step cfg lib shardId) (ShardTask.new inner) steps = some s)
    (hWaits : s.stage = .receiving) :
    s.relayed = relays lib s.received ∧ s.isReady = readyAfter lib s.received ∧
      s.cell shardId = cellAfter cfg lib s.received ∧
      (lastReady lib s.received = none → s.cell shardId = none) ∧
      (∀ discord, lastReady lib s.received = some discord →
        ∃ ready, s.cell shardId = some ready ∧ Scrubbed cfg lib discord ready) ∧
      ∀ message ∈ s.events.sent, message.Faithful := by
  have hInv : RelayInv cfg lib shardId s :=
    Runs.exec_invariant (fun _ _ _ hInv hStep => relayInv_step hInv hStep)
      (relayInv_new cfg lib hShard hFresh) hRun
  have hAt := hInv.stage
  unfold StageInv at hAt
  rw [hWaits] at hAt
  obtain ⟨hReady, hCell, hRelayed⟩ := hAt
  refine ⟨hRelayed, hReady, hCell, fun hNone => ?_, fun discord hLast => ?_, hInv.faithful⟩
  · rw [hCell, cellAfter_eq, hNone, Option.map_none]
  · refine ⟨_, ?_, scrubbed_scrubReady cfg lib discord⟩
    rw [hCell, cellAfter_eq, hLast, Option.map_some]

-- ---------------------------------------------------------------------------
-- The READY of a connection
-- ---------------------------------------------------------------------------

theorem cellAfter_eq_some {cfg : Config} {lib : ShardLib} {received : List Str}
    {ready : JsonObject} (h : cellAfter cfg lib received = some ready) :
    ∃ payload ∈ received, ∃ discord, lib.parseReady payload = some discord ∧
      ready = scrubReady cfg lib discord := by
  unfold cellAfter at h
  cases hLast : (received.filterMap (cellEvent cfg lib)).getLast? with
  | none =>
    rw [hLast] at h
    cases h
  | some put =>
    rw [hLast, Option.getD_some] at h
    obtain ⟨payload, hMem, hPut⟩ := List.mem_filterMap.mp (List.mem_of_getLast? hLast)
    refine ⟨payload, hMem, ?_⟩
    rw [h, cellEvent] at hPut
    split at hPut
    · cases hPut
    · split at hPut
      · cases hPut
      · split at hPut
        · obtain ⟨discord, hParse, hScrub⟩ := Option.map_eq_some_iff.mp hPut
          exact ⟨discord, hParse, (Option.some.inj hScrub).symm⟩
        · cases hPut

/-- In every stage the cell holds a READY that was received, scrubbed. -/
theorem RelayInv.cell_eq_some {cfg : Config} {lib : ShardLib} {shardId : Nat} {s : ShardTask}
    (hInv : RelayInv cfg lib shardId s) {ready : JsonObject}
    (hCell : s.cell shardId = some ready) :
    ∃ payload ∈ s.received, ∃ discord, lib.parseReady payload = some discord ∧
      ready = scrubReady cfg lib discord := by
  have hEarlier : ∀ {done : List Str} {payload : Str}, s.received = done ++ [payload] →
      cellAfter cfg lib done = some ready →
      ∃ payload ∈ s.received, ∃ discord, lib.parseReady payload = some discord ∧
        ready = scrubReady cfg lib discord := by
    intro done payload hDone hAfter
    obtain ⟨payload, hMem, hRest⟩ := cellAfter_eq_some hAfter
    exact ⟨payload, hDone ▸ List.mem_append_left _ hMem, hRest⟩
  have hAt := hInv.stage
  unfold StageInv at hAt
  split at hAt
  · exact cellAfter_eq_some (hAt.2.1.symm.trans hCell)
  · exact cellAfter_eq_some (hAt.2.1.symm.trans hCell)
  · obtain ⟨done, hDone, -, hAfter, -⟩ := hAt
    exact hEarlier hDone (hAfter.symm.trans hCell)
  · obtain ⟨done, event, hDone, -, -, -, hAfter, -⟩ := hAt
    exact hEarlier hDone (hAfter.symm.trans hCell)
  · rename_i payload _
    obtain ⟨done, event, hDone, -, -, hAfter, -⟩ := hAt
    rw [hCell] at hAfter
    cases hAnnounced : announced cfg lib payload event with
    | none =>
      rw [hAnnounced, Option.none_or] at hAfter
      exact hEarlier hDone hAfter.symm
    | some scrubbed =>
      rw [hAnnounced, Option.some_or] at hAfter
      unfold announced at hAnnounced
      split at hAnnounced
      · obtain ⟨discord, hParse, hScrub⟩ := Option.map_eq_some_iff.mp hAnnounced
        exact ⟨payload, hDone ▸ List.mem_append_right _ List.mem_cons_self, discord, hParse,
          (Option.some.inj hAfter).trans hScrub.symm⟩
      · cases hAnnounced

/-- The members of READY that the proxy decides about. -/
def ownReadyMembers : List Str :=
  ["guilds".toList, "resume_gateway_url".toList, "session_id".toList]

/-- READY among the startup messages. -/
theorem ready_of_mem_preamble {task : ForwardTask} {ready : JsonObject} {guilds : Guilds}
    {payload : Payload JsonObject} (hSent : .ready payload ∈ (task.preamble ready guilds).1) :
    payload.d = (ready.insert "guilds".toList
      (.guildList (readyGuilds guilds task.authorizedGuilds))).insert "session_id".toList
        (.string task.sessionId) := by
  unfold ForwardTask.preamble at hSent
  split at hSent
  · rcases List.mem_cons.mp hSent with hReady | hGuild
    · rw [Message.ready.inj hReady]
      rfl
    · obtain ⟨entry, -, hEq⟩ := List.mem_map.mp hGuild
      cases hEq
  · simp at hSent

theorem isAuthorized_iff {authorizedGuilds : Option (Finset Nat)} {guildId : Nat} :
    isAuthorized authorizedGuilds guildId = true ↔
      ∀ authorized ∈ authorizedGuilds, guildId ∈ authorized := by
  unfold isAuthorized
  cases authorizedGuilds <;> simp

/-- Over every run, a connection that starts from the READY cell sends a READY
with the proxy's URL to resume at, its own session, and a guild listed exactly
when the connection is authorised for it and the shard has it cached; every other
member is that of a READY that Discord sent. -/
theorem ready_scrubbed (cfg : Config) (lib : ShardLib) (shardId : Nat) (inner : Inner)
    (shard : Shard) (hShard : inner.shard shardId = some shard) (hFresh : shard.ready = none)
    (steps : List ShardStep) (s : ShardTask)
    (hRun : Runs.exec (ShardTask.step cfg lib shardId) (ShardTask.new inner) steps = some s)
    (ready : JsonObject) (hCell : s.cell shardId = some ready) (task : ForwardTask)
    (guilds : Guilds) (payload : Payload JsonObject)
    (hSent : .ready payload ∈ (task.preamble ready guilds).1) :
    payload.d.lookup "resume_gateway_url".toList = some (.string cfg.externallyAccessibleUrl) ∧
      payload.d.lookup "session_id".toList = some (.string task.sessionId) ∧
      (∃ list, payload.d.lookup "guilds".toList = some (.guildList list) ∧
        ∀ entry, entry ∈ list ↔ ∃ guildId, entry = (formatNat guildId, true) ∧
          (∀ authorized ∈ task.authorizedGuilds, guildId ∈ authorized) ∧
          ((∃ guild ∈ guilds.guilds, guild.id = guildId ∧ guild.unavailable ≠ some true) ∨
            guildId ∈ guilds.unavailableGuilds)) ∧
      ∃ text ∈ s.received, ∃ discord, lib.parseReady text = some discord ∧
        ∀ key ∉ ownReadyMembers, payload.d.lookup key = discord.lookup key := by
  have hInv : RelayInv cfg lib shardId s :=
    Runs.exec_invariant (fun _ _ _ hInv hStep => relayInv_step hInv hStep)
      (relayInv_new cfg lib hShard hFresh) hRun
  obtain ⟨text, hMem, discord, hParse, rfl⟩ := hInv.cell_eq_some hCell
  have hScrubbed := scrubbed_scrubReady cfg lib discord
  rw [ready_of_mem_preamble hSent]
  refine ⟨?_, AList.lookup_insert _, ⟨readyGuilds guilds task.authorizedGuilds, ?_, ?_⟩, text, hMem,
    discord, hParse, fun key hKey => ?_⟩
  · rw [AList.lookup_insert_ne (by decide), AList.lookup_insert_ne (by decide)]
    exact hScrubbed.url
  · rw [AList.lookup_insert_ne (by decide)]
    exact AList.lookup_insert _
  · intro entry
    simp only [mem_readyGuilds_iff, isAuthorized_iff]
  · simp only [ownReadyMembers, List.mem_cons, List.not_mem_nil, or_false, not_or] at hKey
    rw [AList.lookup_insert_ne hKey.2.2, AList.lookup_insert_ne hKey.1]
    exact hScrubbed.others key hKey.1 hKey.2.1

namespace SampleRelay

def config : Config := ⟨"bot".toList, true, true, "wss://proxy".toList, none⟩

def readyText : Str :=
  ("\x7b\"op\":0,\"t\":\"READY\",\"s\":1,\"d\":\x7b\"v\":10,\"guilds\":[],".toList ++
    "\"resume_gateway_url\":\"wss://discord\",\"session_id\":\"d\"\x7d\x7d".toList)

def messageText : Str :=
  "\x7b\"op\":0,\"t\":\"MESSAGE_CREATE\",\"s\":2,\"d\":\x7b\"guild_id\":\"7\"\x7d\x7d".toList

/-- An invalidated session that cannot be resumed. -/
def lostText : Str := "\x7b\"op\":9,\"t\":null,\"s\":null,\"d\":false\x7d".toList

/-- The members of the READY above. -/
def discordReady : JsonObject :=
  (((∅ : JsonObject).insert "v".toList (.other "10".toList)).insert "guilds".toList
    (.other "[]".toList)).insert "resume_gateway_url".toList
      (.string "wss://discord".toList) |>.insert "session_id".toList (.string "d".toList)

def jsonLib : JsonLib where
  parseIdentify _ := none
  parseResume _ := none
  parseRequestGuildMembers _ := none
  parseVoiceStateUpdate _ := none
  parseVoiceStateEvent _ := none
  parseKeys _ := none
  objectGuildId _ := none
  requestGuildMembersToString _ := none
  voiceStateUpdateToString _ := none

/-- The libraries on the texts above. -/
def lib : ShardLib where
  json := jsonLib
  parseReady text := if text = readyText then some discordReady else none
  parseReadyUser _ := none
  isArray text := text.head? = some '['
  parse text := if text = lostText then .invalidateSession false else .dispatch
  update guilds _ := guilds

def inner : Inner := Inner.new [⟨0, none, ⟨[], [], []⟩⟩] 1

def clients : Clients := ∅

/-- A dispatch before READY and one after it, and the loss of the session. -/
def steps : List ShardStep :=
  [.next (.text messageText), .handle clients, .parse, .next (.text readyText), .handle clients,
    .parse, .next (.text messageText), .handle clients, .buffer clients (fun _ => 5), .parse,
    .next (.text lostText), .handle clients, .parse, .next (.text messageText), .handle clients,
    .parse]

/-- What was broadcast, and whether the loop waits for a message. -/
def outcome (s : ShardTask) : List Str × Bool :=
  (s.relayed, match s.stage with
    | .receiving => true
    | _ => false)

theorem receiving_of_outcome {s : ShardTask} (h : (outcome s).2 = true) : s.stage = .receiving := by
  unfold outcome at h
  dsimp only at h
  split at h
  · assumption
  · cases h

end SampleRelay

open SampleRelay in
/-- Of three dispatches, the one between READY and the loss is relayed. -/
theorem relay_exact_one :
    ∃ s, Runs.exec (ShardTask.step config lib 0) (ShardTask.new inner) steps = some s ∧
      s.relayed = relays lib s.received ∧ s.relayed = [messageText] ∧
      s.cell 0 = cellAfter config lib s.received := by
  have hRun : (Runs.exec (ShardTask.step config lib 0) (ShardTask.new inner) steps).map outcome =
      some ([messageText], true) := by
    decide +kernel
  obtain ⟨s, hRun, hSome⟩ := Option.map_eq_some_iff.mp hRun
  have hWaits := receiving_of_outcome (congrArg Prod.snd hSome)
  obtain ⟨hExact, -, hCell, -, -, -⟩ :=
    relay_exact config lib 0 inner ⟨0, none, ⟨[], [], []⟩⟩ rfl rfl steps s hRun hWaits
  exact ⟨s, hRun, hExact, congrArg Prod.fst hSome, hCell⟩

open SampleRelay in
/-- After READY, a tenant of guild 7 is sent the proxy's URL. -/
theorem ready_scrubbed_tenant :
    ∃ s ready payload,
      Runs.exec (ShardTask.step config lib 0) (ShardTask.new inner) (steps.take 6) = some s ∧
      .ready payload ∈ (ForwardTask.preamble ⟨"x".toList, 0, true, 0, some {7}, none⟩ ready
        ⟨[], [7, 8], []⟩).1 ∧
      payload.d.lookup "resume_gateway_url".toList = some (.string "wss://proxy".toList) ∧
      ∃ list, payload.d.lookup "guilds".toList = some (.guildList list) ∧
        ("7".toList, true) ∈ list ∧ ("8".toList, true) ∉ list := by
  have hRun : (Runs.exec (ShardTask.step config lib 0) (ShardTask.new inner) (steps.take 6)).map
      (fun s => (s.cell 0).isSome) = some true := by
    decide +kernel
  obtain ⟨s, hRun, hSome⟩ := Option.map_eq_some_iff.mp hRun
  obtain ⟨ready, hCell⟩ := Option.isSome_iff_exists.mp hSome
  obtain ⟨hUrl, -, ⟨list, hList, hMem⟩, -⟩ :=
    ready_scrubbed config lib 0 inner ⟨0, none, ⟨[], [], []⟩⟩ rfl rfl (steps.take 6) s hRun ready hCell
      ⟨"x".toList, 0, true, 0, some {7}, none⟩ ⟨[], [7, 8], []⟩ _ List.mem_cons_self
  refine ⟨s, ready, _, hRun, List.mem_cons_self, hUrl, list, hList,
    (hMem _).mpr ⟨7, rfl, by decide, .inr (by decide)⟩, fun hEight => ?_⟩
  obtain ⟨guildId, hEntry, hAuthorized, -⟩ := (hMem _).mp hEight
  obtain rfl : guildId = 7 := Finset.mem_singleton.mp (hAuthorized _ rfl)
  exact absurd hEntry (by decide)

end GatewayProxy
