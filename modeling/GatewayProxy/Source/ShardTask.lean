import GatewayProxy.Lib.Broadcast
import GatewayProxy.Source.Wake

/-!
# The task of a shard

`events` of `dispatch.rs`: the loop over what one Discord connection yields, as
steps, between which the other tasks change the shared state. Only this task
writes the READY cell and the cache of its shard. `shard.next` and the event
parser belong to the gateway library; so does `InMemoryCache::update`. The
statistics and the log lines are left out.
-/

namespace GatewayProxy

open Utf8 Assoc Broadcast

/-- What `parse` makes of a payload. -/
inductive ParsedEvent
  | dispatch
  | invalidateSession (canResume : Bool)
  /-- another event, one the cache has no use for, or an error -/
  | ignored
  deriving DecidableEq

/-- The libraries that the task calls, at its types. -/
structure ShardLib where
  json : JsonLib
  /-- the `d` of a READY, with all its members -/
  parseReady : Str → Option JsonObject
  /-- `d.user.id` of a READY -/
  parseReadyUser : Str → Option Str
  /-- whether a JSON text is an array -/
  isArray : Str → Bool
  parse : Str → ParsedEvent
  update : Guilds → Str → Guilds

/-- `as_array_mut` finds an array. -/
def OwnedValue.isArray (lib : ShardLib) : OwnedValue → Bool
  | .string _ => false
  | .guildList _ => true
  | .other text => lib.isArray text

namespace Inner

def shard (inner : Inner) (shardId : Nat) : Option Shard :=
  inner.shards.find? fun s => s.id = shardId

/-- A write through the `Arc` of the shard. -/
def updateShard (inner : Inner) (shardId : Nat) (f : Shard → Shard) : Inner :=
  { inner with shards := inner.shards.map fun s => if s.id = shardId then f s else s }

def setReady (inner : Inner) (shardId : Nat) (payload : JsonObject) : Inner :=
  inner.updateShard shardId fun s => { s with ready := some payload }

def setNotReady (inner : Inner) (shardId : Nat) : Inner :=
  inner.updateShard shardId fun s => { s with ready := none }

end Inner

/-- What becomes of the `d` of a READY before it is kept. -/
def scrubReady (cfg : Config) (lib : ShardLib) (ready : JsonObject) : JsonObject :=
  let cleared := match ready.lookup "guilds".toList with
    | some guilds =>
      if guilds.isArray lib then ready.insert "guilds".toList (OwnedValue.guildList []) else ready
    | none => ready
  cleared.insert "resume_gateway_url".toList (.string cfg.externallyAccessibleUrl)

/-- The branch of READY; none when `unwrap` panics. -/
def handleReady (cfg : Config) (lib : ShardLib) (shardId : Nat) (inner : Inner) (payload : Str) :
    Option Inner :=
  (lib.parseReady payload).map fun ready =>
    let inner := match (lib.parseReadyUser payload).bind parseU64 with
      | some id => { inner with botUserIdCell := id }
      | none => inner
    inner.setReady shardId (scrubReady cfg lib ready)

/-- Where the loop is. -/
inductive ShardStage
  /-- at `shard.next` -/
  | receiving
  | received (payload : Str) (event : GatewayEvent)
      (fromJson_eq : GatewayEvent.fromJson payload = some event)
  /-- the message was broadcast, and is buffered next -/
  | buffering (eventName : Str) (message : BroadcastMessage)
  /-- at the parser, for the cache -/
  | parsing (payload : Str)
  | returned

/-- What `shard.next` yields. -/
inductive ShardInput
  | text (payload : Str)
  | close (shutdown : Bool)
  | failed
  | ended
  deriving DecidableEq

structure ShardTask where
  inner : Inner
  isReady : Bool
  stage : ShardStage
  /-- the channel of the shard -/
  events : Channel BroadcastMessage
  /-- history: the texts that `shard.next` yielded -/
  received : List Str

inductive ShardStep
  | next (input : ShardInput)
  /-- up to the broadcast; the registry is read for the audience -/
  | handle (clients : Clients)
  | buffer (clients : Clients) (now : Str → Nat)
  | parse
  /-- another task has changed the shared state -/
  | other (inner : Inner)

namespace ShardTask

/-- The task as `main` spawns it. -/
def new (inner : Inner) : ShardTask := ⟨inner, false, .receiving, ⟨[]⟩, []⟩

/-- The text that `shard.next` yielded. -/
def receive (s : ShardTask) (payload : Str) : ShardTask :=
  let s := { s with received := s.received ++ [payload] }
  match h : GatewayEvent.fromJson payload with
  | none => s
  | some event => { s with stage := .received payload event h }

/-- The branches on the name of the event. -/
def handle (cfg : Config) (lib : ShardLib) (shardId : Nat) (clients : Clients) (s : ShardTask)
    (payload : Str) (event : GatewayEvent)
    (hEvent : GatewayEvent.fromJson payload = some event) : Option ShardTask :=
  match event.eventType with
  | none => some { s with stage := .parsing payload }
  | some info =>
    if info.name = "READY".toList then
      (handleReady cfg lib shardId s.inner payload).map fun inner =>
        { s with inner := inner, isReady := true, stage := .parsing payload }
    else if info.name = "RESUMED".toList then
      some { s with isReady := true, stage := .parsing payload }
    else if event.op.op = 0 ∧ s.isReady = true then
      let inner := trackEvent lib.json s.inner info.name payload event.guildId
      let message := broadcastMessage clients inner payload event info.name hEvent
      some { s with
        inner := inner
        events := s.events.send message
        stage := .buffering info.name message }
    else some { s with stage := .parsing payload }

/-- What the parsed event changes. -/
def finish (lib : ShardLib) (shardId : Nat) (s : ShardTask) (payload : Str) : ShardTask :=
  match lib.parse payload with
  | .dispatch => { s with
      inner := s.inner.updateShard shardId fun shard =>
        { shard with guilds := lib.update shard.guilds payload }
      stage := .receiving }
  | .invalidateSession canResume => { s with
      inner := if canResume then s.inner else s.inner.setNotReady shardId
      isReady := false
      stage := .receiving }
  | .ignored => { s with stage := .receiving }

def step (cfg : Config) (lib : ShardLib) (shardId : Nat) (s : ShardTask) :
    ShardStep → Option ShardTask
  | .next input =>
    match s.stage with
    | .receiving =>
      match input with
      | .text payload => some (s.receive payload)
      | .close shutdown => some (if shutdown then { s with stage := .returned } else s)
      | .failed => some s
      | .ended => some { s with stage := .returned }
    | _ => none
  | .handle clients =>
    match s.stage with
    | .received payload event hEvent => s.handle cfg lib shardId clients payload event hEvent
    | _ => none
  | .buffer clients now =>
    match s.stage with
    | .buffering eventName message => some { s with
        inner := (bufferEvent clients s.inner eventName message now).2
        stage := .parsing message.payload }
    | _ => none
  | .parse =>
    match s.stage with
    | .parsing payload => some (s.finish lib shardId payload)
    | _ => none
  | .other inner =>
    if inner.shard shardId = s.inner.shard shardId then some { s with inner := inner } else none

end ShardTask

-- ---------------------------------------------------------------------------
-- The entry of the shard
-- ---------------------------------------------------------------------------

theorem Inner.shard_updateShard {f : Shard → Shard} (hId : ∀ s, (f s).id = s.id) (inner : Inner)
    (shardId : Nat) : (inner.updateShard shardId f).shard shardId = (inner.shard shardId).map f := by
  unfold shard updateShard
  dsimp only
  induction inner.shards with
  | nil => rfl
  | cons s rest ih =>
    rw [List.map_cons, List.find?_cons, List.find?_cons]
    by_cases hs : s.id = shardId
    · simp [hs, hId]
    · simpa [hs] using ih

theorem Inner.shard_of_shards_eq {inner inner' : Inner} (h : inner'.shards = inner.shards)
    (shardId : Nat) : inner'.shard shardId = inner.shard shardId := by
  rw [shard, h, shard]

theorem trackEvent_shards (lib : JsonLib) (inner : Inner) (eventName payload : Str)
    (guildId : Option Nat) :
    (trackEvent lib inner eventName payload guildId).shards = inner.shards := by
  have hLeave : ∀ guildId, (inner.onBotVoiceLeave guildId).shards = inner.shards := by
    intro guildId
    unfold Inner.onBotVoiceLeave
    split
    · split <;> rfl
    · rfl
  unfold trackEvent trackBotVoiceState
  split
  · split
    · split
      · split
        · exact hLeave _
        · rfl
      · rfl
    · rfl
  · rfl

theorem bufferEvent_shards (clients : Clients) (inner : Inner) (eventName : Str)
    (message : BroadcastMessage) (now : Str → Nat) :
    (bufferEvent clients inner eventName message now).2.shards = inner.shards := by
  have hTurn : ∀ (event : BufferedClientEvent) (guildId now : Nat) (inner : Inner)
      (clientId : Str) (config : ClientConfig),
      (bufferEventForClient event guildId now inner clientId config).2.shards = inner.shards := by
    intro event guildId now inner clientId config
    unfold bufferEventForClient
    split
    · rfl
    · split
      · rfl
      · dsimp only
        obtain ⟨attempts, hWoken⟩ := Inner.shouldWakeClient_lastWakeAttempts
          (inner.pushOfflineEventForClient clientId event) clientId wakeCooldown now
        split <;> rw [hWoken] <;> rfl
  have hLoop : ∀ (event : BufferedClientEvent) (guildId : Nat) (l : List (Str × ClientConfig))
      (inner : Inner), (bufferEventForClients event guildId now l inner).2.shards =
        inner.shards := by
    intro event guildId l
    induction l with
    | nil => exact fun inner => rfl
    | cons entry rest ih => exact fun inner => (ih _).trans (hTurn event guildId _ inner _ _)
  unfold bufferEvent bufferEventForDisconnectedClients
  split
  · split
    · rfl
    · exact hLoop _ _ _ _
  · rfl

end GatewayProxy
