import GatewayProxy.Gateway.Exits

/-!
# What one message of a client can do

Each round of the loop of `handle_client` is one of five things (`Handles`), by
`handles_input`; what holds of a connection is shown from these five.

* `quiet`: the connection keeps its authority, and only the client is sent
  anything;
* `accepts`: an IDENTIFY or RESUME of a principal succeeds, on a connection
  that had none;
* `ends`: the loop ends, with nothing sent upstream but voice leaves;
* `direct`: a connection that is not a tenant's passes its message on;
* `command`: a tenant's command goes upstream.
-/

namespace GatewayProxy

open Utf8 Assoc GatewayProxy.Inner

/-- One round of the loop: the shared state at that moment, what is read from
outside, and the input. -/
structure Turn where
  inner : Inner
  env : Env
  input : ClientInput

def Effect.isSpawn : Effect → Bool
  | .spawnForward _ => true
  | _ => false

/-- Effects that reach the connection's own client only. -/
def Effect.isLocal : Effect → Bool
  | .toClient _ => true
  | .resetHeartbeat => true
  | _ => false

/-- The proxy's own voice leaves, besides local effects. -/
def Effect.isLeave : Effect → Bool
  | .voiceLeave _ _ => true
  | effect => effect.isLocal

/-- The locals that decide what a connection may do. -/
structure Conn.SameAuthority (conn conn' : Conn) : Prop where
  compressPending : conn'.compressPending = conn.compressPending
  shardSender : conn'.shardSender = conn.shardSender
  activeClientId : conn'.activeClientId = conn.activeClientId
  commandScope : conn'.commandScope = conn.commandScope

theorem Conn.SameAuthority.refl (conn : Conn) : conn.SameAuthority conn := ⟨rfl, rfl, rfl, rfl⟩

-- ---------------------------------------------------------------------------
-- A tenant's command
-- ---------------------------------------------------------------------------

/-- A command that tenant `clientId` may send upstream on a shard, with the
shared state after it. -/
def ConfinedCommand (cfg : Config) (lib : JsonLib) (turn : Turn) (inner' : Inner)
    (clientId : Str) (shardId : Nat) (command : Str) : Prop :=
  ∃ payload guildId voiceChannel,
    turn.input = .text payload ∧
    Rebuilt lib payload ((clientGuilds turn.env.clients clientId).getD ∅) guildId
      voiceChannel command ∧
    guildId ∈ (clientGuilds turn.env.clients clientId).getD ∅ ∧
    shardId = turn.inner.shardIdForGuild guildId ∧
    -- opcode 8 leaves the voice owners alone, opcode 4 needs a claim
    (voiceChannel = none → inner'.voiceOwners = turn.inner.voiceOwners) ∧
    (∀ channelId, voiceChannel = some channelId →
      (turn.inner.claimVoice cfg guildId clientId channelId.isSome).1 = .allow ∧
      inner'.voiceOwners =
        (turn.inner.claimVoice cfg guildId clientId channelId.isSome).2.voiceOwners) ∧
    ∀ channelId, voiceChannel = some (some channelId) →
      turn.inner.resolveGuildIdForChannel channelId = some guildId

-- ---------------------------------------------------------------------------
-- The five kinds of rounds
-- ---------------------------------------------------------------------------

/-- The credentials of an IDENTIFY or RESUME, as the registry answers them. -/
def Credentials (cfg : Config) (lib : JsonLib) (turn : Turn) (principal : SessionPrincipal) :
    Prop :=
  ∃ payload event token auth,
    turn.input = .text payload ∧ GatewayEvent.fromJson payload = some event ∧
    ((event.op.op = 2 ∧ ∃ info, lib.parseIdentify payload = some info ∧ info.token = token) ∨
      (event.op.op = 6 ∧ ∃ info, lib.parseResume payload = some info ∧ info.token = token)) ∧
    authenticateGatewayToken cfg turn.env.clients turn.env.dataState
      (normalizeGatewayToken token) = .ok auth ∧
    auth.principal = principal

inductive Handles (cfg : Config) (lib : JsonLib) (turn : Turn) (conn : Conn) : Reply → Prop
  | quiet {reply : Reply}
      (hAuthority : conn.SameAuthority reply.conn)
      (hEffects : ∀ effect ∈ reply.effects, effect.isLocal = true)
      (hOwners : ∀ clientId, conn.commandScope = some clientId →
        OwnersClaimedBy cfg turn.inner reply.inner clientId) :
      Handles cfg lib turn conn reply
  | accepts {reply : Reply} (principal : SessionPrincipal) (task : ForwardTask)
      (leaves : List Effect) (compress : Option Bool)
      (hPending : conn.compressPending = true)
      (hCredentials : Credentials cfg lib turn principal)
      (hTask : task.clientId = principal.clientId)
      (hSender : reply.conn.shardSender = some task.shardId)
      (hScope : reply.conn.commandScope = principal.clientId)
      (hActive : reply.conn.activeClientId =
        if conn.activeClientId.isNone then principal.clientId else conn.activeClientId)
      (hDone : reply.conn.compressPending = false)
      (hEffects : reply.effects = leaves ++ [.spawnForward task, .compression compress])
      (hLeaves : ∀ effect ∈ leaves, effect.isLeave = true)
      (hFlow : reply.flow = .next) :
      Handles cfg lib turn conn reply
  | ends {reply : Reply}
      (hFlow : reply.flow ≠ .next)
      (hEffects : ∀ effect ∈ reply.effects, effect.isLeave = true)
      (hLocal : conn.compressPending = false → ∀ effect ∈ reply.effects, effect.isLocal = true)
      (hLeaves : (∃ effect ∈ reply.effects, effect.isLocal = false) →
        ∃ principal, Credentials cfg lib turn principal)
      (hOwners : conn.compressPending = false → conn.activeClientId.isSome = true →
        turn.inner.SameOwners reply.inner) :
      Handles cfg lib turn conn reply
  | direct {sender : Nat} {payload : Str}
      (hSender : conn.shardSender = some sender)
      (hScope : conn.commandScope = none) :
      Handles cfg lib turn conn ⟨conn, turn.inner, [.upstream sender payload], .next⟩
  | command {inner' : Inner} {sender shardId : Nat} {clientId command : Str}
      (hSender : conn.shardSender = some sender)
      (hScope : conn.commandScope = some clientId)
      (hCommand : ConfinedCommand cfg lib turn inner' clientId shardId command)
      (hOwners : OwnersClaimedBy cfg turn.inner inner' clientId) :
      Handles cfg lib turn conn ⟨conn, inner', [.upstream shardId command], .next⟩

variable {cfg : Config} {lib : JsonLib} {turn : Turn} {conn : Conn}

/-- A round that changes nothing and sends nothing. -/
theorem Handles.idle (flow : Flow) : Handles cfg lib turn conn ⟨conn, turn.inner, [], flow⟩ :=
  .quiet (.refl conn) (by simp) fun clientId _ => ownersClaimedBy_refl turn.inner clientId

/-- Every opcode but 1, 2 and 6. -/
theorem handles_command {op : Nat} {payload : Str} (hInput : turn.input = .text payload) :
    Handles cfg lib turn conn (handleCommand cfg lib turn.env conn turn.inner op payload) := by
  have hExit := handleCommand_exit cfg lib turn.env conn turn.inner op payload
  generalize handleCommand cfg lib turn.env conn turn.inner op payload = reply at hExit ⊢
  cases hExit with
  | closed hSender =>
    exact .quiet ⟨rfl, rfl, rfl, rfl⟩ (by simp [Effect.isLocal])
      fun clientId _ => ownersClaimedBy_refl turn.inner clientId
  | direct hSender hScope => exact .direct hSender hScope
  | filtered hScope => exact .idle .next
  | sent hSender hScope hGuild hRebuilt hSend =>
    cases hSend with
    | dropped hOwners =>
      refine .quiet (.refl conn) (by simp) fun c hc => ?_
      rw [hScope, Option.some.injEq] at hc
      exact hc ▸ hOwners
    | sent hOwners hMembers hVoice hChannel =>
      exact .command hSender hScope
        ⟨payload, _, _, hInput, hRebuilt, hGuild, rfl, hMembers, hVoice, hChannel⟩ hOwners

-- ---------------------------------------------------------------------------
-- IDENTIFY and RESUME
-- ---------------------------------------------------------------------------

theorem leaveVoice_isLeave (inner : Inner) (shardId : Nat) (clientId : Option Str) :
    ∀ effect ∈ (leaveVoice inner shardId clientId).1, effect.isLeave = true := by
  intro effect hMem
  unfold leaveVoice at hMem
  split at hMem
  · obtain ⟨guildId, -, rfl⟩ := List.mem_map.mp hMem
    rfl
  · simp at hMem

theorem rejectSession_isLocal (conn : Conn) (inner : Inner) (reason : Str) :
    ∀ effect ∈ (rejectSession conn inner reason).effects, effect.isLocal = true := by
  simp [rejectSession, Effect.isLocal]

theorem isLeave_of_isLocal {effect : Effect} (h : effect.isLocal = true) :
    effect.isLeave = true := by
  cases effect with
  | voiceLeave guildId sent => rfl
  | _ => exact h

/-- An IDENTIFY that passed its checks, on a connection without a principal. -/
theorem handles_acceptIdentify {info : IdentifyInfo} {auth : AuthContext}
    (hPending : conn.compressPending = true)
    (hCredentials : Credentials cfg lib turn auth.principal) :
    Handles cfg lib turn conn (acceptIdentify turn.env conn turn.inner info auth) := by
  have hLeaves := leaveVoice_isLeave (countConnection conn turn.inner auth.principal.clientId).2
    info.shard.1 auth.principal.clientId
  unfold acceptIdentify
  dsimp only
  split
  · exact .ends (by simp) hLeaves (by simp [hPending]) (fun _ => ⟨_, hCredentials⟩)
      (by simp [hPending])
  · split
    · exact .ends (by simp) hLeaves (by simp [hPending]) (fun _ => ⟨_, hCredentials⟩)
        (by simp [hPending])
    · rw [countConnection_compressPending, if_pos hPending]
      exact .accepts auth.principal _ _ _ hPending hCredentials rfl rfl rfl
        (countConnection_activeClientId conn turn.inner auth.principal.clientId) rfl rfl hLeaves rfl

theorem handles_identify {payload : Str} {event : GatewayEvent}
    (hInput : turn.input = .text payload) (hEvent : GatewayEvent.fromJson payload = some event)
    (hOp : event.op.op = 2) :
    Handles cfg lib turn conn (handleIdentify cfg lib turn.env conn turn.inner payload) := by
  have hExit := handleIdentify_exit cfg lib turn.env conn turn.inner payload
  generalize handleIdentify cfg lib turn.env conn turn.inner payload = reply at hExit ⊢
  cases hExit with
  | refused flow hFails => exact .idle flow
  | @accepted info auth hPasses =>
    refine handles_acceptIdentify hPasses.pending ?_
    exact ⟨payload, event, info.token, auth, hInput, hEvent, .inl ⟨hOp, info, hPasses.parsed, rfl⟩,
      hPasses.authenticated, rfl⟩

/-- A RESUME of the principal's own session. On a connection that has a
principal already it ends the connection. -/
theorem handles_acceptResume {inner : Inner} {info : ResumeInfo} {auth : AuthContext}
    {session : Session} (hSame : turn.inner.SameOwners inner)
    (hPrincipal : session.principal = auth.principal)
    (hCredentials : Credentials cfg lib turn auth.principal) :
    Handles cfg lib turn conn (acceptResume conn inner info auth session) := by
  unfold acceptResume
  split
  · exact .ends (by simp) (by simp) (by simp) (by simp) fun _ _ => hSame
  · rename_i shard hShard
    dsimp only
    rw [countConnection_compressPending]
    split
    · rename_i hPending
      have hActive := countConnection_activeClientId
        { conn with shardSender := some shard.id } inner session.principal.clientId
      rw [hPrincipal] at hActive ⊢
      exact .accepts auth.principal _ [] _ hPending hCredentials rfl
        (countConnection_shardSender _ inner auth.principal.clientId) rfl hActive rfl rfl
        (by simp) rfl
    · have hLocal := rejectSession_isLocal
        { (countConnection { conn with shardSender := some shard.id } inner
          session.principal.clientId).1 with commandScope := session.principal.clientId }
        (countConnection { conn with shardSender := some shard.id } inner
          session.principal.clientId).2 "session rejected".toList
      refine .ends (by simp [rejectSession]) (fun e he => isLeave_of_isLocal (hLocal e he))
        (fun _ => hLocal) (fun _ => ⟨_, hCredentials⟩) fun _ hActive => ?_
      have hCount := countConnection_sameOwners
        { conn with shardSender := some shard.id } inner session.principal.clientId
        hActive
      exact ⟨hCount.voiceOwners.trans hSame.voiceOwners,
        hCount.activeClientConnections.trans hSame.activeClientConnections⟩

theorem handles_resume {payload : Str} {event : GatewayEvent}
    (hInput : turn.input = .text payload) (hEvent : GatewayEvent.fromJson payload = some event)
    (hOp : event.op.op = 6) :
    Handles cfg lib turn conn (handleResume cfg lib turn.env conn turn.inner payload) := by
  have hExit := handleResume_exit cfg lib turn.env conn turn.inner payload
  generalize handleResume cfg lib turn.env conn turn.inner payload = reply at hExit ⊢
  cases hExit with
  | unread flow hUnread => exact .idle flow
  | @rejected info reason hFails =>
    have hSame := getSession_sameOwners turn.inner info.sessionId turn.env.now
    have hLocal := rejectSession_isLocal conn
      (turn.inner.getSession info.sessionId turn.env.now).2 reason
    exact .ends (by simp [rejectSession]) (fun e he => isLeave_of_isLocal (hLocal e he))
      (fun _ => hLocal) (fun ⟨e, he, hNot⟩ => by simp [hLocal e he] at hNot) fun _ _ => hSame
  | @accepted info auth session hPasses =>
    have hSame := getSession_sameOwners turn.inner info.sessionId turn.env.now
    refine handles_acceptResume hSame hPasses.own ?_
    exact ⟨payload, event, info.token, auth, hInput, hEvent, .inr ⟨hOp, info, hPasses.parsed, rfl⟩,
      hPasses.authenticated, rfl⟩

/-- **Every round of the loop is one of the five kinds.** -/
theorem handles_input (cfg : Config) (lib : JsonLib) (turn : Turn) (conn : Conn) :
    Handles cfg lib turn conn (handleInput cfg lib turn.env conn turn.inner turn.input) := by
  cases hInput : turn.input with
  | sinkDone => exact .idle .stop
  | heartbeatTimeout =>
    exact .quiet ⟨rfl, rfl, rfl, rfl⟩ (by simp [handleInput, Effect.isLocal])
      fun clientId _ => ownersClaimedBy_refl turn.inner clientId
  | ended => exact .idle .stop
  | binary => exact .idle .next
  | text payload =>
    unfold handleInput
    dsimp only
    split
    · exact .idle .next
    · rename_i event hEvent
      split
      · exact .quiet ⟨rfl, rfl, rfl, rfl⟩ (by simp [Effect.isLocal])
          fun clientId _ => ownersClaimedBy_refl turn.inner clientId
      · rename_i hOp
        exact handles_identify hInput hEvent hOp
      · rename_i hOp
        exact handles_resume hInput hEvent hOp
      · exact handles_command hInput

end GatewayProxy
