import GatewayProxy.Source.Cache
import GatewayProxy.Source.Deserializer

/-!
# The proxy's shared state

`state.rs`: sessions, connection counts, offline buffers, command windows and
the voice owner of each guild. Every function is one transition of `Inner`;
where the source takes two locks in turn, the two parts are functions of
their own. Times are passed in (`now`, in milliseconds).

The voice owner rule: a guild belongs to the first client that joins. It
passes to another client only after the owner gave it up (`wantsVoice` is
false) and the bot is out of voice, that is, the bot's null voice state was
seen or the voice state cache shows none.
-/

namespace GatewayProxy

open Utf8 Assoc

def sessionTtl : Nat := 30 * 60 * 1000

def offlineEventBufferLimit : Nat := 200

/-- How long a voice owner may stay disconnected. -/
def voiceOwnerGrace : Nat := 60 * 1000

structure VoiceOwner where
  clientId : Str
  /-- set while the owner has no live gateway connection -/
  disconnectedAt : Option Nat
  /-- false after the owner, or the proxy for it, sent a leave -/
  wantsVoice : Bool
  deriving DecidableEq

inductive VoiceDecision
  | allow
  | deny
  deriving DecidableEq

def decideVoiceCommand (owner : Option VoiceOwner) (clientId : Str) (botInVoice : Bool) :
    VoiceDecision :=
  match owner with
  | none => .allow
  | some owner =>
    if owner.clientId = clientId then .allow
    else if !owner.wantsVoice && !botInVoice then .allow
    else .deny

/-- A buffered event. The place of its sequence number was read off its text. -/
structure BufferedClientEvent where
  payload : Str
  sequence : Option SequenceInfo
  guildId : Option Nat
  sequence_eq : sequence = GatewayEvent.findSequence payload

structure Shard where
  id : Nat
  /-- the READY payload, once the shard received it -/
  ready : Option JsonObject
  guilds : Guilds
  deriving DecidableEq

/-- The shards `main` creates, `shard_start..shard_end`, in order. -/
def newShards (shardStart shardEnd : Nat) : List Shard :=
  (List.range' shardStart (shardEnd - shardStart)).map fun id => ⟨id, none, ⟨[], [], []⟩⟩

structure Session where
  shardId : Nat
  compress : Option Bool
  principal : SessionPrincipal
  authorizedGuilds : Option (Finset Nat)
  lastAccessed : Nat
  deriving DecidableEq

structure Inner where
  shards : List Shard
  shardCount : Nat
  sessions : Map Str Session
  activeClientConnections : Map Str Nat
  offlineEventBuffers : Map Str (List BufferedClientEvent)
  lastWakeAttempts : Map Str Nat
  /-- the start of the window and the commands counted in it -/
  clientCommandWindows : Map Str (Nat × Nat)
  voiceOwners : Map Nat VoiceOwner
  /-- 0 until the first READY -/
  botUserIdCell : Nat

namespace Inner

/-- The state `main` starts with. -/
def new (shards : List Shard) (shardCount : Nat) : Inner where
  shards := shards
  shardCount := shardCount
  sessions := ∅
  activeClientConnections := ∅
  offlineEventBuffers := ∅
  lastWakeAttempts := ∅
  clientCommandWindows := ∅
  voiceOwners := ∅
  botUserIdCell := 0

-- ---------------------------------------------------------------------------
-- Sessions
-- ---------------------------------------------------------------------------

def pruneExpiredSessions (sessions : Map Str Session) (now : Nat) : Map Str Session :=
  sessions.retain fun _ session => now - session.lastAccessed ≤ sessionTtl

def getSession (inner : Inner) (sessionId : Str) (now : Nat) : Option Session × Inner :=
  let sessions := pruneExpiredSessions inner.sessions now
  match sessions.lookup sessionId with
  | none => (none, { inner with sessions := sessions })
  | some session =>
    let used := { session with lastAccessed := now }
    (some used, { inner with sessions := sessions.insert sessionId used })

/-- `draws` are the random ids the loop tries, in order; none when all of them
are in use and the loop goes on. -/
def createSession (inner : Inner) (session : Session) (now : Nat) (draws : List Str) :
    Option (Str × Inner) :=
  let sessions := pruneExpiredSessions inner.sessions now
  (draws.find? fun id => (sessions.lookup id).isNone).map fun sessionId =>
    (sessionId, { inner with sessions := sessions.insert sessionId session })

-- ---------------------------------------------------------------------------
-- Shards
-- ---------------------------------------------------------------------------

def resolveGuildIdForChannel (inner : Inner) (channelId : Nat) : Option Nat :=
  inner.shards.findSome? fun shard => shard.guilds.resolveGuildIdForChannel channelId

def shardIdForGuild (inner : Inner) (guildId : Nat) : Nat :=
  (guildId >>> 22) % inner.shardCount

def shardForGuild (inner : Inner) (guildId : Nat) : Option Shard :=
  inner.shards.find? fun shard => shard.id == inner.shardIdForGuild guildId

def botUserId (inner : Inner) : Option Nat :=
  if inner.botUserIdCell = 0 then none else some inner.botUserIdCell

-- ---------------------------------------------------------------------------
-- Voice owners
-- ---------------------------------------------------------------------------

def setVoiceOwnerDisconnected (inner : Inner) (clientId : Str) (at? : Option Nat) : Inner :=
  { inner with voiceOwners := inner.voiceOwners.mapVals fun _ owner =>
      if owner.clientId = clientId then { owner with disconnectedAt := at? } else owner }

def voiceOwner (inner : Inner) (guildId : Nat) : Option Str :=
  (inner.voiceOwners.lookup guildId).map VoiceOwner.clientId

/-- Unknown counts as in voice. -/
def botInVoice (cfg : Config) (inner : Inner) (guildId : Nat) : Bool :=
  match inner.botUserId, inner.shardForGuild guildId with
  | some botUserId, some shard =>
    !cfg.voiceStates || shard.guilds.hasVoiceState guildId botUserId
  | _, _ => true

/-- The owner after a command of `clientId` that was allowed. -/
def claimOwner (owner : Option VoiceOwner) (clientId : Str) (joining : Bool) :
    Option VoiceOwner :=
  if joining then some ⟨clientId, none, true⟩
  else owner.map fun o => { o with wantsVoice := false }

def claimVoice (cfg : Config) (inner : Inner) (guildId : Nat) (clientId : Str)
    (joining : Bool) : VoiceDecision × Inner :=
  let owner := inner.voiceOwners.lookup guildId
  let decision := decideVoiceCommand owner clientId (inner.botInVoice cfg guildId)
  if decision = .allow then
    match claimOwner owner clientId joining with
    | some o => (decision, { inner with voiceOwners := inner.voiceOwners.insert guildId o })
    | none => (decision, inner)
  else (decision, inner)

/-- The guilds a client gives up on a shard. -/
def givesUpOn (inner : Inner) (clientId : Str) (shardId guildId : Nat) (owner : VoiceOwner) :
    Bool :=
  owner.clientId == clientId && owner.wantsVoice && inner.shardIdForGuild guildId == shardId

def leaveVoiceForClient (inner : Inner) (clientId : Str) (shardId : Nat) :
    List Nat × Inner :=
  (inner.voiceOwners.keysWhere (inner.givesUpOn clientId shardId),
    { inner with voiceOwners := inner.voiceOwners.mapVals fun guildId owner =>
        if inner.givesUpOn clientId shardId guildId owner then { owner with wantsVoice := false }
        else owner })

def onBotVoiceLeave (inner : Inner) (guildId : Nat) : Inner :=
  match inner.voiceOwners.lookup guildId with
  | some owner =>
    if owner.wantsVoice then inner
    else { inner with voiceOwners := inner.voiceOwners.erase guildId }
  | none => inner

def ownerExpired (now : Nat) (owner : VoiceOwner) : Bool :=
  match owner.disconnectedAt with
  | some at' => voiceOwnerGrace ≤ now - at'
  | none => false

def ownerRevoked (authorized : Map Str (Finset Nat)) (guildId : Nat) (owner : VoiceOwner) :
    Bool :=
  match authorized.lookup owner.clientId with
  | some guilds => guildId ∉ guilds
  | none => true

/-- The owners that the sweep makes give up. -/
def isStale (authorized : Map Str (Finset Nat)) (now guildId : Nat) (owner : VoiceOwner) :
    Bool :=
  owner.wantsVoice && (ownerExpired now owner || ownerRevoked authorized guildId owner)

def takeStaleVoiceOwners (cfg : Config) (inner : Inner) (authorized : Map Str (Finset Nat))
    (now : Nat) : List Nat × Inner :=
  let kept := inner.voiceOwners.retain fun guildId owner =>
    owner.wantsVoice || inner.botInVoice cfg guildId
  (kept.keysWhere (isStale authorized now),
    { inner with voiceOwners := kept.mapVals fun guildId owner =>
        if isStale authorized now guildId owner then { owner with wantsVoice := false }
        else owner })

/-- The op 4 command of `send_voice_leave`, with the shard it goes out on. -/
def sendVoiceLeave (inner : Inner) (guildId : Nat) : Option (Nat × Str) :=
  (inner.shardForGuild guildId).map fun shard =>
    (shard.id, "\x7b\"op\":4,\"d\":\x7b\"guild_id\":\"".toList ++ formatNat guildId ++
      "\",\"channel_id\":null,\"self_mute\":false,\"self_deaf\":false\x7d\x7d".toList)

-- ---------------------------------------------------------------------------
-- Connections and offline buffers
-- ---------------------------------------------------------------------------

def connectionCount (inner : Inner) (clientId : Str) : Nat :=
  (inner.activeClientConnections.lookup clientId).getD 0

/-- The part of `mark_client_connected` under the lock of the counts. -/
def countConnected (inner : Inner) (clientId : Str) : Inner :=
  { inner with activeClientConnections :=
      inner.activeClientConnections.insert clientId (inner.connectionCount clientId + 1) }

def markClientConnected (inner : Inner) (clientId : Str) : Inner :=
  (inner.countConnected clientId).setVoiceOwnerDisconnected clientId none

/-- The part of `mark_client_disconnected` under the lock of the counts. -/
def countDisconnected (inner : Inner) (clientId : Str) : Inner :=
  if inner.connectionCount clientId ≤ 1 then
    { inner with activeClientConnections := inner.activeClientConnections.erase clientId }
  else
    { inner with activeClientConnections :=
        inner.activeClientConnections.insert clientId (inner.connectionCount clientId - 1) }

def markClientDisconnected (inner : Inner) (clientId : Str) (now : Nat) : Inner :=
  if inner.connectionCount clientId ≤ 1 then
    (inner.countDisconnected clientId).setVoiceOwnerDisconnected clientId (some now)
  else inner.countDisconnected clientId

def isClientConnected (inner : Inner) (clientId : Str) : Bool :=
  0 < inner.connectionCount clientId

def offlineBuffer (inner : Inner) (clientId : Str) : List BufferedClientEvent :=
  (inner.offlineEventBuffers.lookup clientId).getD []

/-- `push_back` on a buffer that holds at most `offlineEventBufferLimit` events. -/
def pushBounded (buffer : List BufferedClientEvent) (event : BufferedClientEvent) :
    List BufferedClientEvent :=
  (if offlineEventBufferLimit ≤ buffer.length then buffer.tail else buffer) ++ [event]

def pushOfflineEventForClient (inner : Inner) (clientId : Str) (event : BufferedClientEvent) :
    Inner :=
  { inner with offlineEventBuffers :=
      inner.offlineEventBuffers.insert clientId (pushBounded (inner.offlineBuffer clientId) event) }

def drainOfflineEventsForClient (inner : Inner) (clientId : Str) :
    List BufferedClientEvent × Inner :=
  (inner.offlineBuffer clientId,
    { inner with offlineEventBuffers := inner.offlineEventBuffers.erase clientId })

def shouldWakeClient (inner : Inner) (clientId : Str) (cooldown now : Nat) : Bool × Inner :=
  let woken := { inner with lastWakeAttempts := inner.lastWakeAttempts.insert clientId now }
  match inner.lastWakeAttempts.lookup clientId with
  | some last => if now - last < cooldown then (false, inner) else (true, woken)
  | none => (true, woken)

def allowClientCommand (inner : Inner) (clientId : Str) (limit window now : Nat) :
    Bool × Inner :=
  let entry := (inner.clientCommandWindows.lookup clientId).getD (now, 0)
  let entry := if window ≤ now - entry.1 then (now, 0) else entry
  if limit ≤ entry.2 then
    (false, { inner with clientCommandWindows := inner.clientCommandWindows.insert clientId entry })
  else
    (true, { inner with clientCommandWindows :=
        inner.clientCommandWindows.insert clientId (entry.1, entry.2 + 1) })

def pruneStaleClientState (inner : Inner) (validClientIds : Finset Str) : Inner :=
  { inner with
    offlineEventBuffers := inner.offlineEventBuffers.retain fun clientId _ =>
      clientId ∈ validClientIds
    lastWakeAttempts := inner.lastWakeAttempts.retain fun clientId _ => clientId ∈ validClientIds
    clientCommandWindows := inner.clientCommandWindows.retain fun clientId _ =>
      clientId ∈ validClientIds }

-- ---------------------------------------------------------------------------
-- What the operations do to the voice owner of one guild
-- ---------------------------------------------------------------------------

variable {cfg : Config} {inner : Inner} {clientId : Str} {g : Nat}

/-- The bot is known to be out of voice when its id, the guild's shard and the
voice state cache are all available and the cache shows no voice state. -/
theorem botInVoice_eq_false_iff :
    inner.botInVoice cfg g = false ↔
      ∃ bot shard, inner.botUserId = some bot ∧ inner.shardForGuild g = some shard ∧
        cfg.voiceStates = true ∧ shard.guilds.hasVoiceState g bot = false := by
  unfold botInVoice
  cases hBot : inner.botUserId with
  | none => simp
  | some bot =>
    cases hShard : inner.shardForGuild g with
    | none => simp
    | some shard => simp

theorem claimVoice_decision (guildId : Nat) (joining : Bool) :
    (inner.claimVoice cfg guildId clientId joining).1 =
      decideVoiceCommand (inner.voiceOwners.lookup guildId) clientId
        (inner.botInVoice cfg guildId) := by
  unfold claimVoice
  dsimp only
  split
  · split <;> rfl
  · rfl

theorem lookup_claimVoice (guildId : Nat) (joining : Bool) :
    (inner.claimVoice cfg guildId clientId joining).2.voiceOwners.lookup g =
      if g = guildId ∧ (inner.claimVoice cfg guildId clientId joining).1 = .allow then
        claimOwner (inner.voiceOwners.lookup g) clientId joining
      else inner.voiceOwners.lookup g := by
  rw [claimVoice_decision]
  unfold claimVoice
  dsimp only
  split
  · rename_i hAllow
    split
    · rename_i owner hOwner
      rw [Map.lookup_insert_eq]
      by_cases hg : g = guildId
      · rw [if_pos hg, if_pos ⟨hg, hAllow⟩, hg, hOwner]
      · rw [if_neg hg, if_neg fun h => hg h.1]
    · rename_i hOwner
      by_cases hg : g = guildId
      · have hNone : inner.voiceOwners.lookup guildId = none := by
          unfold claimOwner at hOwner
          split at hOwner
          · simp at hOwner
          · exact Option.map_eq_none_iff.mp hOwner
        rw [if_pos ⟨hg, hAllow⟩, hg, hOwner, hNone]
      · rw [if_neg fun h => hg h.1]
  · rename_i hDeny
    rw [if_neg fun h => hDeny h.2]

theorem claimVoice_deny {guildId : Nat} {joining : Bool}
    (h : (inner.claimVoice cfg guildId clientId joining).1 = .deny) :
    (inner.claimVoice cfg guildId clientId joining).2 = inner := by
  rw [claimVoice_decision] at h
  unfold claimVoice
  dsimp only
  rw [if_neg (by rw [h]; decide)]

theorem claimVoice_voiceOwners (guildId : Nat) (joining : Bool) :
    (inner.claimVoice cfg guildId clientId joining).2.voiceOwners =
      if decideVoiceCommand (inner.voiceOwners.lookup guildId) clientId
          (inner.botInVoice cfg guildId) = .allow then
        match claimOwner (inner.voiceOwners.lookup guildId) clientId joining with
        | some o => inner.voiceOwners.insert guildId o
        | none => inner.voiceOwners
      else inner.voiceOwners := by
  unfold claimVoice
  dsimp only
  split
  · split <;> rfl
  · rfl

theorem claimVoice_activeClientConnections (guildId : Nat) (joining : Bool) :
    (inner.claimVoice cfg guildId clientId joining).2.activeClientConnections =
      inner.activeClientConnections := by
  unfold claimVoice
  dsimp only
  split
  · split <;> rfl
  · rfl

/-- A claim changes the voice owners only. -/
theorem claimVoice_shards (guildId : Nat) (joining : Bool) :
    (inner.claimVoice cfg guildId clientId joining).2.shards = inner.shards ∧
      (inner.claimVoice cfg guildId clientId joining).2.shardCount = inner.shardCount := by
  unfold claimVoice
  dsimp only
  split
  · split <;> exact ⟨rfl, rfl⟩
  · exact ⟨rfl, rfl⟩

/-- Counting a command touches its window only. -/
theorem allowClientCommand_windows (inner : Inner) (clientId : Str) (limit window now : Nat) :
    ∃ windows, (inner.allowClientCommand clientId limit window now).2 =
      { inner with clientCommandWindows := windows } := by
  unfold allowClientCommand
  dsimp only
  -- a new window or the old one, at the limit or below it
  split <;> split <;> exact ⟨_, rfl⟩

/-- The random draws find an id, and the session is stored under it. -/
theorem createSession_eq_some {session : Session} {now : Nat} {draws : List Str}
    {sessionId : Str} {inner' : Inner}
    (h : inner.createSession session now draws = some (sessionId, inner')) :
    (pruneExpiredSessions inner.sessions now).lookup sessionId = none ∧
      inner' = { inner with
        sessions := (pruneExpiredSessions inner.sessions now).insert sessionId session } := by
  unfold createSession at h
  obtain ⟨id, hFind, hPair⟩ := Option.map_eq_some_iff.mp h
  obtain ⟨rfl, rfl⟩ := Prod.mk.inj hPair
  exact ⟨by simpa using List.find?_some hFind, rfl⟩

theorem lookup_leaveVoiceForClient (shardId : Nat) :
    (inner.leaveVoiceForClient clientId shardId).2.voiceOwners.lookup g =
      (inner.voiceOwners.lookup g).map fun owner =>
        if inner.givesUpOn clientId shardId g owner then { owner with wantsVoice := false }
        else owner :=
  Map.lookup_mapVals _ _ _

theorem lookup_onBotVoiceLeave (guildId : Nat) :
    (inner.onBotVoiceLeave guildId).voiceOwners.lookup g =
      if g = guildId then (inner.voiceOwners.lookup g).filter VoiceOwner.wantsVoice
      else inner.voiceOwners.lookup g := by
  unfold onBotVoiceLeave
  cases hOwner : inner.voiceOwners.lookup guildId with
  | none =>
    by_cases hg : g = guildId
    · rw [if_pos hg, hg, hOwner, Option.filter_none]
    · rw [if_neg hg]
  | some owner =>
    dsimp only
    split
    · rename_i hWants
      by_cases hg : g = guildId
      · rw [if_pos hg, hg, hOwner, Option.filter_some_pos hWants]
      · rw [if_neg hg]
    · rename_i hWants
      rw [Map.lookup_erase_eq]
      by_cases hg : g = guildId
      · rw [if_pos hg, if_pos hg, hg, hOwner, Option.filter_some_neg (by simpa using hWants)]
      · rw [if_neg hg, if_neg hg]

theorem lookup_takeStaleVoiceOwners (authorized : Map Str (Finset Nat)) (now : Nat) :
    (inner.takeStaleVoiceOwners cfg authorized now).2.voiceOwners.lookup g =
      ((inner.voiceOwners.lookup g).filter fun owner =>
          owner.wantsVoice || inner.botInVoice cfg g).map fun owner =>
        if isStale authorized now g owner then { owner with wantsVoice := false } else owner := by
  unfold takeStaleVoiceOwners
  dsimp only
  rw [Map.lookup_mapVals, Map.lookup_retain]

theorem lookup_setVoiceOwnerDisconnected (at? : Option Nat) :
    (inner.setVoiceOwnerDisconnected clientId at?).voiceOwners.lookup g =
      (inner.voiceOwners.lookup g).map fun owner =>
        if owner.clientId = clientId then { owner with disconnectedAt := at? } else owner :=
  Map.lookup_mapVals _ _ _

@[simp] theorem countDisconnected_voiceOwners :
    (inner.countDisconnected clientId).voiceOwners = inner.voiceOwners := by
  unfold countDisconnected
  split <;> rfl

theorem lookup_markClientConnected :
    (inner.markClientConnected clientId).voiceOwners.lookup g =
      (inner.voiceOwners.lookup g).map fun owner =>
        if owner.clientId = clientId then { owner with disconnectedAt := none } else owner :=
  lookup_setVoiceOwnerDisconnected none

theorem lookup_markClientDisconnected (now : Nat) :
    (inner.markClientDisconnected clientId now).voiceOwners.lookup g =
      if inner.connectionCount clientId ≤ 1 then
        (inner.voiceOwners.lookup g).map fun owner =>
          if owner.clientId = clientId then { owner with disconnectedAt := some now } else owner
      else inner.voiceOwners.lookup g := by
  unfold markClientDisconnected
  split
  · rw [lookup_setVoiceOwnerDisconnected, countDisconnected_voiceOwners]
  · rw [countDisconnected_voiceOwners]

-- ---------------------------------------------------------------------------
-- What the operations do to the connection count of one client
-- ---------------------------------------------------------------------------

@[simp] theorem connectionCount_setVoiceOwnerDisconnected (c : Str) (at? : Option Nat) :
    (inner.setVoiceOwnerDisconnected clientId at?).connectionCount c =
      inner.connectionCount c := rfl

theorem connectionCount_countConnected (c : Str) :
    (inner.countConnected clientId).connectionCount c =
      if c = clientId then inner.connectionCount clientId + 1 else inner.connectionCount c := by
  unfold connectionCount countConnected
  dsimp only
  rw [Map.lookup_insert_eq]
  split <;> rfl

theorem connectionCount_countDisconnected (c : Str) :
    (inner.countDisconnected clientId).connectionCount c =
      if c = clientId then inner.connectionCount clientId - 1 else inner.connectionCount c := by
  unfold countDisconnected
  split
  · rename_i hLast
    show ((inner.activeClientConnections.erase clientId).lookup c).getD 0 = _
    rw [Map.lookup_erase_eq]
    split
    · rw [Option.getD_none]
      omega
    · rfl
  · show ((inner.activeClientConnections.insert clientId _).lookup c).getD 0 = _
    rw [Map.lookup_insert_eq]
    split <;> rfl

theorem connectionCount_markClientConnected (c : Str) :
    (inner.markClientConnected clientId).connectionCount c =
      if c = clientId then inner.connectionCount clientId + 1 else inner.connectionCount c :=
  connectionCount_countConnected c

theorem connectionCount_markClientDisconnected (now : Nat) (c : Str) :
    (inner.markClientDisconnected clientId now).connectionCount c =
      if c = clientId then inner.connectionCount clientId - 1 else inner.connectionCount c := by
  unfold markClientDisconnected
  split <;> exact connectionCount_countDisconnected c

-- ---------------------------------------------------------------------------
-- What the operations do to the offline buffer of one client
-- ---------------------------------------------------------------------------

theorem offlineBuffer_push (c : Str) (event : BufferedClientEvent) :
    (inner.pushOfflineEventForClient clientId event).offlineBuffer c =
      if c = clientId then pushBounded (inner.offlineBuffer clientId) event
      else inner.offlineBuffer c := by
  unfold offlineBuffer pushOfflineEventForClient
  dsimp only
  rw [Map.lookup_insert_eq]
  split <;> rfl

@[simp] theorem connectionCount_push (c : Str) (event : BufferedClientEvent) :
    (inner.pushOfflineEventForClient clientId event).connectionCount c =
      inner.connectionCount c := rfl

theorem offlineBuffer_drain (c : Str) :
    (inner.drainOfflineEventsForClient clientId).2.offlineBuffer c =
      if c = clientId then [] else inner.offlineBuffer c := by
  unfold offlineBuffer drainOfflineEventsForClient
  dsimp only
  rw [Map.lookup_erase_eq]
  split <;> rfl

@[simp] theorem connectionCount_drain (c : Str) :
    (inner.drainOfflineEventsForClient clientId).2.connectionCount c =
      inner.connectionCount c := rfl

@[simp] theorem offlineBuffer_markClientConnected (c : Str) :
    (inner.markClientConnected clientId).offlineBuffer c = inner.offlineBuffer c := rfl

@[simp] theorem offlineBuffer_markClientDisconnected (now : Nat) (c : Str) :
    (inner.markClientDisconnected clientId now).offlineBuffer c = inner.offlineBuffer c := by
  unfold markClientDisconnected countDisconnected
  split <;> rfl

/-- Waking a client touches its last attempt only. -/
theorem shouldWakeClient_lastWakeAttempts (inner : Inner) (clientId : Str) (cooldown now : Nat) :
    ∃ attempts, (inner.shouldWakeClient clientId cooldown now).2 =
      { inner with lastWakeAttempts := attempts } := by
  unfold shouldWakeClient
  dsimp only
  split
  · split <;> exact ⟨_, rfl⟩
  · exact ⟨_, rfl⟩

end Inner

end GatewayProxy
