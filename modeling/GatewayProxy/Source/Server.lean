import GatewayProxy.Source.Dispatch

/-!
# A gateway connection

`server.rs`: the commands a tenant may send upstream (`filterClientCommand`),
the task that feeds a connection (`forward_shard`), and the loop over the
client's messages (`handle_client`).

`forward_shard` is modelled phase by phase: the preamble, the replay of the
offline buffer, and the live loop, each threading the sequence counter of the
connection. The registry is read again at each event, so the replayed and the
live events come with the registry of that moment.

`handle_client` handles one message as one step. A step gets the shared state
and what it reads from outside (`Env`), and returns the connection's locals,
the shared state, what it sent and how the loop goes on.
-/

namespace GatewayProxy

open Utf8 Assoc

/-- A message in the queue of a connection. READY and the guild payloads stand
for their JSON text. -/
inductive Message
  | text (text : Str)
  | ready (payload : Payload JsonObject)
  | guild (payload : Payload GuildData)
  | close (code : Nat) (reason : Str)
  deriving DecidableEq

def heartbeatAck : Str := "\x7b\"t\":null,\"s\":null,\"op\":11,\"d\":null\x7d".toList

def invalidSession : Str := "\x7b\"t\":null,\"s\":null,\"op\":9,\"d\":false\x7d".toList

def resumed : Str := "\x7b\"t\":\"RESUMED\",\"s\":null,\"op\":0,\"d\":\x7b\x7d\x7d".toList

def clientCommandLimit : Nat := 20

def clientCommandWindow : Nat := 60 * 1000

-- ---------------------------------------------------------------------------
-- The command filter
-- ---------------------------------------------------------------------------

inductive ClientCommand
  /-- send upstream on the shard of `guildId` -/
  | forward (guildId : Nat) (command : Str)
  /-- also needs the channel check and the voice owner lock -/
  | voice (guildId : Nat) (channelId : Option Nat) (command : Str)
  | drop (reason : Str)
  deriving DecidableEq

/-- The checks that both opcodes share; `channelId` is none for opcode 8. -/
def checkClientCommand (guildId : Str) (channelId : Option (Option Str))
    (serialized : Option Str) (authorizedGuilds : Finset Nat) : ClientCommand :=
  match parseU64 guildId with
  | none => .drop "invalid guild_id".toList
  | some guildId =>
    if guildId ∉ authorizedGuilds then .drop "guild not authorized".toList
    else match serialized with
      | none => .drop "failed to serialize command".toList
      | some command =>
        if 4096 < byteLen command then .drop "command exceeds gateway payload limit".toList
        else match channelId with
          | none => .forward guildId command
          | some none => .voice guildId none command
          | some (some channelId) =>
            match parseU64 channelId with
            | some channelId => .voice guildId (some channelId) command
            | none => .drop "invalid channel_id".toList

def filterClientCommand (lib : JsonLib) (op : Nat) (payload : Str)
    (authorizedGuilds : Finset Nat) : ClientCommand :=
  if op = 8 then
    match lib.parseRequestGuildMembers payload with
    | none => .drop "invalid request guild members payload".toList
    | some request =>
      checkClientCommand request.guildId none
        (lib.requestGuildMembersToString ⟨op, request⟩) authorizedGuilds
  else if op = 4 then
    match lib.parseVoiceStateUpdate payload with
    | none => .drop "invalid voice state update payload".toList
    | some update =>
      checkClientCommand update.guildId (some update.channelId)
        (lib.voiceStateUpdateToString ⟨op, update⟩) authorizedGuilds
  else .drop "opcode not allowed for multi-tenant clients".toList

-- ---------------------------------------------------------------------------
-- Feeding a connection
-- ---------------------------------------------------------------------------

/-- The arguments of `forward_shard`. -/
structure ForwardTask where
  sessionId : Str
  shardId : Nat
  sendGuilds : Bool
  seq : Nat
  authorizedGuilds : Option (Finset Nat)
  clientId : Option Str
  deriving DecidableEq

namespace ForwardTask

/-- READY with the guild payloads, or RESUMED, and the counter after them. -/
def preamble (task : ForwardTask) (ready : JsonObject) (guilds : Guilds) :
    List Message × Nat :=
  if task.sendGuilds then
    let (payload, seq) := getReadyPayload guilds ready task.seq task.authorizedGuilds
    let payload := { payload with
      d := payload.d.insert "session_id".toList (.string task.sessionId) }
    let (payloads, seq) := getGuildPayloads guilds seq task.authorizedGuilds
    (.ready payload :: payloads.map .guild, seq)
  else ([.text resumed], task.seq)

/-- Current access of a tenant, the snapshot of IDENTIFY otherwise. -/
def isLiveGuild (task : ForwardTask) (clients : Clients) (snapshot : Finset Nat)
    (guildId : Nat) : Bool :=
  match task.clientId with
  | none => guildId ∈ snapshot
  | some clientId => clientHasGuild clients clientId guildId

/-- The guild filter, for replayed and live events. -/
def passesGuild (task : ForwardTask) (clients : Clients) (guildId : Option Nat) : Bool :=
  match task.authorizedGuilds with
  | none => true
  | some guilds =>
    match guildId with
    | some guildId => task.isLiveGuild clients guilds guildId
    | none => false

/-- The audience filter, for live events only. -/
def passesAudience (task : ForwardTask) (audience : Audience) : Bool :=
  match task.authorizedGuilds with
  | none => true
  | some _ =>
    match audience with
    | .guild => true
    | .botOnly => false
    | .client owner => task.clientId == some owner

end ForwardTask

/-- Overwrites the sequence number of an event, if it has one; none where
`replace_range` would panic. -/
def overwriteSequence (payload : Str) (sequence : Option SequenceInfo) (seq : Nat) :
    Option (Str × Nat) :=
  match sequence with
  | none => some (payload, seq)
  | some info =>
    (replaceRange payload info.range (formatNat (nextSeq seq))).map fun text => (text, nextSeq seq)

/-- What `event_receiver.recv` returns, as long as the sender is alive. -/
inductive RecvResult
  | message (message : BroadcastMessage)
  | lagged (amount : Nat)

namespace ForwardTask

/-- The drained offline buffer, each event with the registry at its turn. -/
def replay (task : ForwardTask) :
    List (Clients × BufferedClientEvent) → Nat → Option (List Message × Nat)
  | [], seq => some ([], seq)
  | (clients, event) :: rest, seq =>
    if task.passesGuild clients event.guildId then do
      let (text, seq) ← overwriteSequence event.payload event.sequence seq
      let (messages, seq) ← task.replay rest seq
      return (.text text :: messages, seq)
    else task.replay rest seq

/-- The live loop over what the receiver yields. -/
def live (task : ForwardTask) :
    List (Clients × RecvResult) → Nat → Option (List Message × Nat)
  | [], seq => some ([], seq)
  | (_, .lagged _) :: rest, seq => task.live rest seq
  | (clients, .message event) :: rest, seq =>
    if task.passesAudience event.audience && task.passesGuild clients event.guildId then do
      let (text, seq) ← overwriteSequence event.payload event.sequence seq
      let (messages, seq) ← task.live rest seq
      return (.text text :: messages, seq)
    else task.live rest seq

/-- All that `forward_shard` enqueues, once the shard has its READY payload. -/
def forwardShard (task : ForwardTask) (ready : JsonObject) (guilds : Guilds)
    (buffered : List (Clients × BufferedClientEvent)) (received : List (Clients × RecvResult)) :
    Option (List Message) := do
  let (start, seq) := task.preamble ready guilds
  -- only a tenant has an offline buffer
  let (replayed, seq) ← if task.clientId.isSome then task.replay buffered seq else some ([], seq)
  let (forwarded, _) ← task.live received seq
  return start ++ replayed ++ forwarded

end ForwardTask

-- ---------------------------------------------------------------------------
-- The client's messages
-- ---------------------------------------------------------------------------

/-- The locals of `handle_client`. -/
structure Conn where
  /-- `compress_tx` is still there: no IDENTIFY or RESUME succeeded -/
  compressPending : Bool
  /-- the shard whose command queue the connection sends into -/
  shardSender : Option Nat
  shardForwardTask : Option ForwardTask
  activeClientId : Option Str
  /-- set for tenants: their commands are filtered -/
  commandScope : Option Str
  gracefulClose : Bool
  deriving DecidableEq

def Conn.new : Conn := ⟨true, none, none, none, none, false⟩

inductive Effect
  | toClient (message : Message)
  /-- into the command queue of a shard -/
  | upstream (shardId : Nat) (command : Str)
  /-- `send_voice_leave`, with the shard and the command if the shard is here -/
  | voiceLeave (guildId : Nat) (sent : Option (Nat × Str))
  | spawnForward (task : ForwardTask)
  | compression (compress : Option Bool)
  | resetHeartbeat
  deriving DecidableEq

/-- How the loop goes on after a message. -/
inductive Flow
  | next
  | stop
  /-- an index out of bounds aborts the process -/
  | panics
  /-- every random session id so far is in use -/
  | spins
  deriving DecidableEq

structure Reply where
  conn : Conn
  inner : Inner
  effects : List Effect
  flow : Flow

/-- What a step reads from outside: the registry, the clock, and the random
session ids. -/
structure Env where
  clients : Clients
  dataState : ClientDataState
  now : Nat
  draws : List Str

inductive ClientInput
  | text (payload : Str)
  /-- a frame that is not text -/
  | binary
  /-- the stream ended or failed -/
  | ended
  | sinkDone
  | heartbeatTimeout

/-- A message and a close frame, which the teardown waits for. -/
def rejectSession (conn : Conn) (inner : Inner) (reason : Str) : Reply :=
  ⟨{ conn with gracefulClose := true }, inner,
    [.toClient (.text invalidSession), .toClient (.close 4007 reason)], .stop⟩

/-- The first success counts the connection for its client. -/
def countConnection (conn : Conn) (inner : Inner) : Option Str → Conn × Inner
  | some clientId =>
    if conn.activeClientId.isNone then
      ({ conn with activeClientId := some clientId }, inner.markClientConnected clientId)
    else (conn, inner)
  | none => (conn, inner)

/-- A fresh IDENTIFY of a tenant leaves the calls of its shard. -/
def leaveVoice (inner : Inner) (shardId : Nat) : Option Str → List Effect × Inner
  | some clientId =>
    let (guilds, inner) := inner.leaveVoiceForClient clientId shardId
    (guilds.map fun guildId => .voiceLeave guildId (inner.sendVoiceLeave guildId), inner)
  | none => ([], inner)

/-- The part of IDENTIFY after the authentication. -/
def acceptIdentify (env : Env) (conn : Conn) (inner : Inner) (info : IdentifyInfo)
    (auth : AuthContext) : Reply :=
  let shardId := info.shard.1
  let clientId := auth.principal.clientId
  let (conn, inner) := countConnection conn inner clientId
  let (leaves, inner) := leaveVoice inner shardId clientId
  let conn := { conn with commandScope := clientId }
  let session : Session := ⟨shardId, info.compress, auth.principal, auth.authorizedGuilds, env.now⟩
  match inner.createSession session env.now env.draws with
  | none => ⟨conn, inner, leaves, .spins⟩
  | some (sessionId, inner) =>
    match inner.shards[shardId]? with
    | none => ⟨conn, inner, leaves, .panics⟩
    | some shard =>
      let conn := { conn with shardSender := some shard.id }
      if conn.compressPending then
        let task : ForwardTask := ⟨sessionId, shard.id, true, 0, auth.authorizedGuilds, clientId⟩
        ⟨{ conn with shardForwardTask := some task, compressPending := false }, inner,
          leaves ++ [.spawnForward task, .compression info.compress], .next⟩
      else ⟨conn, inner, leaves, .next⟩

/-- Opcode 2. -/
def handleIdentify (cfg : Config) (lib : JsonLib) (env : Env) (conn : Conn) (inner : Inner)
    (payload : Str) : Reply :=
  -- one IDENTIFY or RESUME per connection
  if !conn.compressPending then ⟨conn, inner, [], .stop⟩
  else match lib.parseIdentify payload with
    | none => ⟨conn, inner, [], .next⟩
    | some info =>
      if info.shard.2 ≠ inner.shardCount then ⟨conn, inner, [], .stop⟩
      else if info.shard.2 ≤ info.shard.1 then ⟨conn, inner, [], .stop⟩
      else match authenticateGatewayToken cfg env.clients env.dataState
          (normalizeGatewayToken info.token) with
        | .stale => ⟨conn, inner, [], .stop⟩
        | .invalid => ⟨conn, inner, [], .stop⟩
        | .ok auth => acceptIdentify env conn inner info auth

/-- The part of RESUME after the session was found to be the principal's. -/
def acceptResume (conn : Conn) (inner : Inner) (info : ResumeInfo) (auth : AuthContext)
    (session : Session) : Reply :=
  match inner.shards[session.shardId]? with
  | none => ⟨conn, inner, [], .panics⟩
  | some shard =>
    let conn := { conn with shardSender := some shard.id }
    let clientId := session.principal.clientId
    let authorizedGuilds :=
      if clientId.isSome then auth.authorizedGuilds else session.authorizedGuilds
    let (conn, inner) := countConnection conn inner clientId
    let conn := { conn with commandScope := clientId }
    if conn.compressPending then
      let task : ForwardTask :=
        ⟨info.sessionId, shard.id, false, info.seq, authorizedGuilds, clientId⟩
      ⟨{ conn with shardForwardTask := some task, compressPending := false }, inner,
        [.spawnForward task, .compression session.compress], .next⟩
    else rejectSession conn inner "session rejected".toList

/-- Opcode 6. -/
def handleResume (cfg : Config) (lib : JsonLib) (env : Env) (conn : Conn) (inner : Inner)
    (payload : Str) : Reply :=
  match lib.parseResume payload with
  | none => ⟨conn, inner, [], .next⟩
  | some info =>
    match authenticateGatewayToken cfg env.clients env.dataState
        (normalizeGatewayToken info.token) with
    | .stale => ⟨conn, inner, [], .stop⟩
    | .invalid => ⟨conn, inner, [], .stop⟩
    | .ok auth =>
      match inner.getSession info.sessionId env.now with
      | (none, inner) => rejectSession conn inner "session not found".toList
      | (some session, inner) =>
        if session.principal ≠ auth.principal then
          rejectSession conn inner "session rejected".toList
        else acceptResume conn inner info auth session

/-- The channel of a join belongs to the guild, as far as the cache knows. -/
def channelInGuild (inner : Inner) (guildId : Nat) : Option (Option Nat) → Bool
  | some (some channelId) => inner.resolveGuildIdForChannel channelId == some guildId
  | _ => true

/-- The last checks of a tenant's command: the channel of a join, the rate
limit, the voice owner lock, and the shard of the guild. -/
def sendClientCommand (cfg : Config) (env : Env) (conn : Conn) (inner : Inner) (clientId : Str)
    (guildId : Nat) (voiceChannel : Option (Option Nat)) (command : Str) : Reply :=
  if !channelInGuild inner guildId voiceChannel then ⟨conn, inner, [], .next⟩
  else
    let (allowed, inner) :=
      inner.allowClientCommand clientId clientCommandLimit clientCommandWindow env.now
    if !allowed then ⟨conn, inner, [], .next⟩
    else
      let (decision, inner) := match voiceChannel with
        | some channelId => inner.claimVoice cfg guildId clientId channelId.isSome
        | none => (.allow, inner)
      if decision = .deny then ⟨conn, inner, [], .next⟩
      else match inner.shardForGuild guildId with
        | none => ⟨conn, inner, [], .next⟩
        | some shard => ⟨conn, inner, [.upstream shard.id command], .next⟩

/-- Every other opcode. -/
def handleCommand (cfg : Config) (lib : JsonLib) (env : Env) (conn : Conn) (inner : Inner)
    (op : Nat) (payload : Str) : Reply :=
  match conn.shardSender with
  | none =>
    ⟨{ conn with gracefulClose := true }, inner,
      [.toClient (.close 4003 "not authenticated".toList)], .stop⟩
  | some sender =>
    match conn.commandScope with
    | none => ⟨conn, inner, [.upstream sender payload], .next⟩
    | some clientId =>
      let guilds := (clientGuilds env.clients clientId).getD ∅
      match filterClientCommand lib op payload guilds with
      | .forward guildId command =>
        sendClientCommand cfg env conn inner clientId guildId none command
      | .voice guildId channelId command =>
        sendClientCommand cfg env conn inner clientId guildId (some channelId) command
      | .drop _ => ⟨conn, inner, [], .next⟩

/-- One round of the loop of `handle_client`. -/
def handleInput (cfg : Config) (lib : JsonLib) (env : Env) (conn : Conn) (inner : Inner) :
    ClientInput → Reply
  | .sinkDone => ⟨conn, inner, [], .stop⟩
  | .heartbeatTimeout =>
    ⟨{ conn with gracefulClose := true }, inner,
      [.toClient (.close 4009 "session timed out".toList)], .stop⟩
  | .ended => ⟨conn, inner, [], .stop⟩
  | .binary => ⟨conn, inner, [], .next⟩
  | .text payload =>
    match GatewayEvent.fromJson payload with
    | none => ⟨conn, inner, [], .next⟩
    | some event =>
      match event.op.op with
      | 1 => ⟨conn, inner, [.resetHeartbeat, .toClient (.text heartbeatAck)], .next⟩
      | 2 => handleIdentify cfg lib env conn inner payload
      | 6 => handleResume cfg lib env conn inner payload
      | op => handleCommand cfg lib env conn inner op payload

/-- After the loop the client is counted out. -/
def teardown (conn : Conn) (inner : Inner) (now : Nat) : Inner :=
  match conn.activeClientId with
  | some clientId => inner.markClientDisconnected clientId now
  | none => inner

end GatewayProxy
