import GatewayProxy.Source.Server

/-!
# The exits of the handlers

What `handle_client` does with a message is decided by a chain of checks. The ways
through the chain are listed here once for each opcode, with what the checks say on
each way, and later proofs go through the list instead of opening the handler.

Main results:

* `handleIdentify_exit`, `handleResume_exit`: an IDENTIFY or RESUME that passes every
  check is accepted, and any other changes no shared state but the stored sessions.
* `handleCommand_exit`: any other opcode closes the connection, goes up as it is, is
  dropped, or goes up rebuilt.
-/

namespace GatewayProxy

open Utf8 Assoc GatewayProxy.Inner

/-- The voice owners and the connection counts. -/
structure Inner.SameOwners (inner inner' : Inner) : Prop where
  voiceOwners : inner'.voiceOwners = inner.voiceOwners
  activeClientConnections : inner'.activeClientConnections = inner.activeClientConnections

theorem Inner.SameOwners.refl (inner : Inner) : inner.SameOwners inner := ⟨rfl, rfl⟩

/-- The owner of a guild after a round of tenant `clientId`: unchanged, or
claimed by the tenant itself. -/
def OwnersClaimedBy (cfg : Config) (inner inner' : Inner) (clientId : Str) : Prop :=
  inner'.activeClientConnections = inner.activeClientConnections ∧
    (inner'.voiceOwners = inner.voiceOwners ∨
      ∃ guildId joining, inner'.voiceOwners =
        (inner.claimVoice cfg guildId clientId joining).2.voiceOwners)

theorem ownersClaimedBy_refl {cfg : Config} (inner : Inner) (clientId : Str) :
    OwnersClaimedBy cfg inner inner clientId := ⟨rfl, .inl rfl⟩

-- ---------------------------------------------------------------------------
-- The command filter
-- ---------------------------------------------------------------------------

/-- What `filter_client_command` lets through: the guild, the channel of a
voice update (none for opcode 8), and the text rebuilt from the parsed fields. -/
inductive Rebuilt (lib : JsonLib) (payload : Str) (guilds : Finset Nat) (guildId : Nat) :
    Option (Option Nat) → Str → Prop
  | members {command : Str} (request : RequestGuildMembersInfo)
      (hFilter : filterClientCommand lib 8 payload guilds = .forward guildId command)
      (hParse : lib.parseRequestGuildMembers payload = some request)
      (hText : lib.requestGuildMembersToString ⟨8, request⟩ = some command) :
      Rebuilt lib payload guilds guildId none command
  | voice {channelId : Option Nat} {command : Str} (update : VoiceStateUpdateInfo)
      (hFilter : filterClientCommand lib 4 payload guilds = .voice guildId channelId command)
      (hParse : lib.parseVoiceStateUpdate payload = some update)
      (hText : lib.voiceStateUpdateToString ⟨4, update⟩ = some command) :
      Rebuilt lib payload guilds guildId (some channelId) command

/-- The shared checks pass: the guild is of the list, the text was written and is
not too long, and the channel, if there is one, is a snowflake. -/
structure ChecksPass (guildId : Str) (channelId : Option (Option Str)) (serialized : Option Str)
    (guilds : Finset Nat) (g : Nat) (command : Str) : Prop where
  guild : parseU64 guildId = some g
  authorized : g ∈ guilds
  text : serialized = some command
  size : byteLen command ≤ 4096
  channel : ∀ id, channelId = some (some id) → ∃ c, parseU64 id = some c

/-- What a command that passes is. -/
def passedCommand (channelId : Option (Option Str)) (g : Nat) (command : Str) : ClientCommand :=
  match channelId with
  | none => .forward g command
  | some channelId => .voice g (channelId.bind parseU64) command

/-- A command passes the shared checks, or it is dropped and does not. -/
theorem checkClientCommand_cases (guildId : Str) (channelId : Option (Option Str))
    (serialized : Option Str) (guilds : Finset Nat) :
    (∃ g command, ChecksPass guildId channelId serialized guilds g command ∧
      checkClientCommand guildId channelId serialized guilds = passedCommand channelId g command) ∨
    (∀ g command, ¬ ChecksPass guildId channelId serialized guilds g command) ∧
      ∃ reason, checkClientCommand guildId channelId serialized guilds = .drop reason := by
  unfold checkClientCommand
  cases hGuild : parseU64 guildId with
  | none =>
    refine .inr ⟨fun g command h => ?_, _, rfl⟩
    cases hGuild.symm.trans h.guild
  | some g =>
    dsimp only
    by_cases hMem : g ∉ guilds
    · rw [if_pos hMem]
      refine .inr ⟨fun g' command h => ?_, _, rfl⟩
      obtain rfl : g = g' := Option.some.inj (hGuild.symm.trans h.guild)
      exact hMem h.authorized
    · rw [if_neg hMem]
      cases serialized with
      | none =>
        refine .inr ⟨fun g' command h => ?_, _, rfl⟩
        cases h.text
      | some command =>
        dsimp only
        by_cases hSize : 4096 < byteLen command
        · rw [if_pos hSize]
          refine .inr ⟨fun g' command' h => ?_, _, rfl⟩
          obtain rfl : command = command' := Option.some.inj h.text
          have hFits := h.size
          omega
        · rw [if_neg hSize]
          have hPass : (∀ id, channelId = some (some id) → ∃ c, parseU64 id = some c) →
              ChecksPass guildId channelId (some command) guilds g command :=
            fun hChannel => ⟨hGuild, not_not.mp hMem, rfl, by omega, hChannel⟩
          rcases channelId with - | - | id
          · exact .inl ⟨g, command, hPass (fun _ h => by cases h), rfl⟩
          · exact .inl ⟨g, command, hPass (fun _ h => by cases h), rfl⟩
          · dsimp only
            cases hId : parseU64 id with
            | none =>
              refine .inr ⟨fun g' command' h => ?_, _, rfl⟩
              obtain ⟨c, hc⟩ := h.channel id rfl
              cases hId.symm.trans hc
            | some c =>
              refine .inl ⟨g, command, hPass ?_, ?_⟩
              · intro id' h
                obtain rfl : id = id' := Option.some.inj (Option.some.inj h)
                exact ⟨c, hId⟩
              · rw [passedCommand, Option.bind_some, hId]

/-- A command that is let through is a request that passes, a voice update that
passes, and everything else is dropped. -/
theorem filterClientCommand_cases (lib : JsonLib) (op : Nat) (payload : Str)
    (guilds : Finset Nat) :
    (∃ request g command, op = 8 ∧ lib.parseRequestGuildMembers payload = some request ∧
      ChecksPass request.guildId none (lib.requestGuildMembersToString ⟨8, request⟩) guilds g
        command ∧
      filterClientCommand lib op payload guilds = .forward g command) ∨
    (∃ update g command, op = 4 ∧ lib.parseVoiceStateUpdate payload = some update ∧
      ChecksPass update.guildId (some update.channelId) (lib.voiceStateUpdateToString ⟨4, update⟩)
        guilds g command ∧
      filterClientCommand lib op payload guilds =
        .voice g (update.channelId.bind parseU64) command) ∨
    (op = 8 → ∀ request g command, lib.parseRequestGuildMembers payload = some request →
        ¬ ChecksPass request.guildId none (lib.requestGuildMembersToString ⟨8, request⟩) guilds g
          command) ∧
      (op = 4 → ∀ update g command, lib.parseVoiceStateUpdate payload = some update →
        ¬ ChecksPass update.guildId (some update.channelId)
          (lib.voiceStateUpdateToString ⟨4, update⟩) guilds g command) ∧
      ∃ reason, filterClientCommand lib op payload guilds = .drop reason := by
  unfold filterClientCommand
  by_cases hMembers : op = 8
  · subst hMembers
    rw [if_pos rfl]
    cases hParse : lib.parseRequestGuildMembers payload with
    | none => exact .inr (.inr ⟨fun _ _ _ _ h => (by cases h), fun h => (by cases h), _, rfl⟩)
    | some request =>
      rcases checkClientCommand_cases request.guildId none
        (lib.requestGuildMembersToString ⟨8, request⟩) guilds with
        ⟨g, command, hPass, hCheck⟩ | ⟨hFails, hDrop⟩
      · exact .inl ⟨request, g, command, rfl, rfl, hPass, hCheck⟩
      · refine .inr (.inr ⟨fun _ request' g command h => ?_, fun h => (by cases h), hDrop⟩)
        obtain rfl : request = request' := Option.some.inj h
        exact hFails g command
  · rw [if_neg hMembers]
    by_cases hVoice : op = 4
    · subst hVoice
      rw [if_pos rfl]
      cases hParse : lib.parseVoiceStateUpdate payload with
      | none => exact .inr (.inr ⟨fun h => (by cases h), fun _ _ _ _ h => (by cases h), _, rfl⟩)
      | some update =>
        rcases checkClientCommand_cases update.guildId (some update.channelId)
          (lib.voiceStateUpdateToString ⟨4, update⟩) guilds with
          ⟨g, command, hPass, hCheck⟩ | ⟨hFails, hDrop⟩
        · exact .inr (.inl ⟨update, g, command, rfl, rfl, hPass, hCheck⟩)
        · refine .inr (.inr ⟨fun h => (by cases h), fun _ update' g command h => ?_, hDrop⟩)
          obtain rfl : update = update' := Option.some.inj h
          exact hFails g command
    · rw [if_neg hVoice]
      exact .inr (.inr ⟨fun h => absurd h hMembers, fun h => absurd h hVoice, _, rfl⟩)

theorem filterClientCommand_forward {lib : JsonLib} {op : Nat} {payload : Str}
    {guilds : Finset Nat} {g : Nat} {command : Str}
    (h : filterClientCommand lib op payload guilds = .forward g command) :
    g ∈ guilds ∧ Rebuilt lib payload guilds g none command := by
  rcases filterClientCommand_cases lib op payload guilds with
    ⟨request, g', command', rfl, hParse, hPass, hForward⟩ | ⟨_, _, _, _, _, _, hVoice⟩ |
      ⟨_, _, _, hDrop⟩
  · obtain ⟨rfl, rfl⟩ := ClientCommand.forward.inj (h.symm.trans hForward)
    exact ⟨hPass.authorized, .members request h hParse hPass.text⟩
  · cases h.symm.trans hVoice
  · cases h.symm.trans hDrop

theorem filterClientCommand_voice {lib : JsonLib} {op : Nat} {payload : Str}
    {guilds : Finset Nat} {g : Nat} {channel : Option Nat} {command : Str}
    (h : filterClientCommand lib op payload guilds = .voice g channel command) :
    g ∈ guilds ∧ Rebuilt lib payload guilds g (some channel) command := by
  rcases filterClientCommand_cases lib op payload guilds with
    ⟨_, _, _, _, _, _, hForward⟩ | ⟨update, g', command', rfl, hParse, hPass, hVoice⟩ |
      ⟨_, _, _, hDrop⟩
  · cases h.symm.trans hForward
  · obtain ⟨rfl, rfl, rfl⟩ := ClientCommand.voice.inj (h.symm.trans hVoice)
    exact ⟨hPass.authorized, .voice update h hParse hPass.text⟩
  · cases h.symm.trans hDrop

-- ---------------------------------------------------------------------------
-- Commands
-- ---------------------------------------------------------------------------

variable {cfg : Config} {lib : JsonLib} {env : Env} {conn : Conn} {inner : Inner} {payload : Str}

theorem shardForGuild_id {inner : Inner} {guildId : Nat} {shard : Shard}
    (h : inner.shardForGuild guildId = some shard) :
    shard.id = inner.shardIdForGuild guildId := by
  have hFound := List.find?_some h
  exact beq_iff_eq.mp hFound

/-- The last checks of a tenant's command: it is dropped, or the shard of its guild is here
and the command goes to it. -/
inductive SendExit (cfg : Config) (conn : Conn) (inner : Inner) (clientId : Str) (guildId : Nat)
    (voiceChannel : Option (Option Nat)) (command : Str) : Reply → Prop
  | dropped {inner' : Inner} (hOwners : OwnersClaimedBy cfg inner inner' clientId) :
      SendExit cfg conn inner clientId guildId voiceChannel command ⟨conn, inner', [], .next⟩
  | sent {inner' : Inner} (hOwners : OwnersClaimedBy cfg inner inner' clientId)
      (hMembers : voiceChannel = none → inner'.voiceOwners = inner.voiceOwners)
      (hVoice : ∀ channelId, voiceChannel = some channelId →
        (inner.claimVoice cfg guildId clientId channelId.isSome).1 = .allow ∧
        inner'.voiceOwners = (inner.claimVoice cfg guildId clientId channelId.isSome).2.voiceOwners)
      (hChannel : ∀ channelId, voiceChannel = some (some channelId) →
        inner.resolveGuildIdForChannel channelId = some guildId) :
      SendExit cfg conn inner clientId guildId voiceChannel command
        ⟨conn, inner', [.upstream (inner.shardIdForGuild guildId) command], .next⟩

theorem sendClientCommand_exit (cfg : Config) (env : Env) (conn : Conn) (inner : Inner)
    (clientId : Str) (guildId : Nat) (voiceChannel : Option (Option Nat)) (command : Str) :
    SendExit cfg conn inner clientId guildId voiceChannel command
      (sendClientCommand cfg env conn inner clientId guildId voiceChannel command) := by
  obtain ⟨windows, hWindows⟩ := allowClientCommand_windows inner clientId
    clientCommandLimit clientCommandWindow env.now
  have hCounted : OwnersClaimedBy cfg inner { inner with clientCommandWindows := windows }
      clientId := ⟨rfl, .inl rfl⟩
  unfold sendClientCommand
  cases voiceChannel with
  | none =>
    have hChannel : channelInGuild inner guildId none = true := rfl
    rw [hChannel, if_neg (by decide)]
    dsimp only
    split
    · exact .dropped (hWindows ▸ hCounted)
    · rw [if_neg (by decide), hWindows]
      split
      · exact .dropped hCounted
      · rename_i shard hShard
        have hId : shard.id = inner.shardIdForGuild guildId := shardForGuild_id hShard
        rw [hId]
        exact .sent hCounted (fun _ => rfl) (by simp) (by simp)
  | some channelId =>
    have hClaimed : ∀ joining, OwnersClaimedBy cfg inner
        (claimVoice cfg { inner with clientCommandWindows := windows } guildId clientId
          joining).2 clientId := by
      intro joining
      refine ⟨claimVoice_activeClientConnections guildId joining, .inr ⟨guildId, joining, ?_⟩⟩
      rw [claimVoice_voiceOwners, claimVoice_voiceOwners]
      rfl
    dsimp only
    split
    · exact .dropped (ownersClaimedBy_refl inner clientId)
    · rename_i hChannel
      split
      · exact .dropped (hWindows ▸ hCounted)
      · rw [hWindows]
        split
        · exact .dropped (hClaimed _)
        · rename_i hAllow
          split
          · exact .dropped (hClaimed _)
          · rename_i shard hShard
            have hDecision : (inner.claimVoice cfg guildId clientId channelId.isSome).1 =
                .allow := by
              rw [claimVoice_decision] at hAllow ⊢
              cases hDecide : decideVoiceCommand (inner.voiceOwners.lookup guildId) clientId
                  (inner.botInVoice cfg guildId) with
              | allow => rfl
              | deny => exact absurd hDecide hAllow
            have hId : shard.id = inner.shardIdForGuild guildId := by
              have hId := shardForGuild_id hShard
              unfold shardIdForGuild at hId ⊢
              rw [hId, (claimVoice_shards guildId channelId.isSome).2]
            rw [hId]
            refine .sent (hClaimed _) (by simp) ?_ ?_
            · intro channel hSome
              obtain rfl : channelId = channel := Option.some.inj hSome
              refine ⟨hDecision, ?_⟩
              rw [claimVoice_voiceOwners, claimVoice_voiceOwners]
              rfl
            · intro channel hSome
              obtain rfl : channelId = some channel := Option.some.inj hSome
              simpa [channelInGuild] using hChannel

/-- Every opcode but 1, 2 and 6. -/
inductive CommandExit (cfg : Config) (lib : JsonLib) (env : Env) (conn : Conn) (inner : Inner)
    (payload : Str) : Reply → Prop
  /-- before an IDENTIFY the connection is closed -/
  | closed (hSender : conn.shardSender = none) :
      CommandExit cfg lib env conn inner payload
        ⟨{ conn with gracefulClose := true }, inner,
          [.toClient (.close 4003 "not authenticated".toList)], .stop⟩
  | direct {sender : Nat} (hSender : conn.shardSender = some sender)
      (hScope : conn.commandScope = none) :
      CommandExit cfg lib env conn inner payload ⟨conn, inner, [.upstream sender payload], .next⟩
  | filtered {clientId : Str} (hScope : conn.commandScope = some clientId) :
      CommandExit cfg lib env conn inner payload ⟨conn, inner, [], .next⟩
  | sent {sender guildId : Nat} {clientId command : Str} {voiceChannel : Option (Option Nat)}
      {reply : Reply} (hSender : conn.shardSender = some sender)
      (hScope : conn.commandScope = some clientId)
      (hGuild : guildId ∈ (clientGuilds env.clients clientId).getD ∅)
      (hRebuilt : Rebuilt lib payload ((clientGuilds env.clients clientId).getD ∅) guildId
        voiceChannel command)
      (hSend : SendExit cfg conn inner clientId guildId voiceChannel command reply) :
      CommandExit cfg lib env conn inner payload reply

theorem handleCommand_exit (cfg : Config) (lib : JsonLib) (env : Env) (conn : Conn) (inner : Inner)
    (op : Nat) (payload : Str) :
    CommandExit cfg lib env conn inner payload
      (handleCommand cfg lib env conn inner op payload) := by
  unfold handleCommand
  split
  · rename_i hSender
    exact .closed hSender
  · rename_i sender hSender
    split
    · rename_i hScope
      exact .direct hSender hScope
    · rename_i clientId hScope
      dsimp only
      split
      · rename_i guildId command hFilter
        obtain ⟨hGuild, hRebuilt⟩ := filterClientCommand_forward hFilter
        exact .sent hSender hScope hGuild hRebuilt (sendClientCommand_exit ..)
      · rename_i guildId channelId command hFilter
        obtain ⟨hGuild, hRebuilt⟩ := filterClientCommand_voice hFilter
        exact .sent hSender hScope hGuild hRebuilt (sendClientCommand_exit ..)
      · exact .filtered hScope

-- ---------------------------------------------------------------------------
-- IDENTIFY and RESUME
-- ---------------------------------------------------------------------------

theorem countConnection_compressPending (conn : Conn) (inner : Inner) (clientId : Option Str) :
    (countConnection conn inner clientId).1.compressPending = conn.compressPending := by
  unfold countConnection
  split
  · split <;> rfl
  · rfl

theorem countConnection_shardSender (conn : Conn) (inner : Inner) (clientId : Option Str) :
    (countConnection conn inner clientId).1.shardSender = conn.shardSender := by
  unfold countConnection
  split
  · split <;> rfl
  · rfl

theorem countConnection_activeClientId (conn : Conn) (inner : Inner) (clientId : Option Str) :
    (countConnection conn inner clientId).1.activeClientId =
      if conn.activeClientId.isNone then clientId else conn.activeClientId := by
  unfold countConnection
  cases clientId with
  | some clientId =>
    dsimp only
    split <;> rfl
  | none => cases conn.activeClientId <;> rfl

/-- A connection that counts already is not counted again. -/
theorem countConnection_sameOwners (conn : Conn) (inner : Inner) (clientId : Option Str)
    (hActive : conn.activeClientId.isSome = true) :
    inner.SameOwners (countConnection conn inner clientId).2 := by
  unfold countConnection
  split
  · rw [if_neg (by simpa using Option.isSome_iff_ne_none.mp hActive)]
    exact .refl inner
  · exact .refl inner

theorem getSession_sameOwners (inner : Inner) (sessionId : Str) (now : Nat) :
    inner.SameOwners (inner.getSession sessionId now).2 := by
  unfold getSession
  dsimp only
  split <;> exact ⟨rfl, rfl⟩

theorem getSession_shards (inner : Inner) (sessionId : Str) (now : Nat) :
    (inner.getSession sessionId now).2.shards = inner.shards := by
  unfold getSession
  dsimp only
  split <;> rfl

/-- An IDENTIFY that passes every check, and what its token stands for. -/
structure Identifies (cfg : Config) (lib : JsonLib) (env : Env) (conn : Conn) (inner : Inner)
    (payload : Str) (info : IdentifyInfo) (auth : AuthContext) : Prop where
  pending : conn.compressPending = true
  parsed : lib.parseIdentify payload = some info
  count : info.shard.2 = inner.shardCount
  inRange : info.shard.1 < info.shard.2
  authenticated : authenticateGatewayToken cfg env.clients env.dataState
    (normalizeGatewayToken info.token) = .ok auth

inductive IdentifyExit (cfg : Config) (lib : JsonLib) (env : Env) (conn : Conn) (inner : Inner)
    (payload : Str) : Reply → Prop
  | accepted {info : IdentifyInfo} {auth : AuthContext}
      (hPasses : Identifies cfg lib env conn inner payload info auth) :
      IdentifyExit cfg lib env conn inner payload (acceptIdentify env conn inner info auth)
  | refused (flow : Flow)
      (hFails : ∀ info auth, ¬ Identifies cfg lib env conn inner payload info auth) :
      IdentifyExit cfg lib env conn inner payload ⟨conn, inner, [], flow⟩

theorem handleIdentify_exit (cfg : Config) (lib : JsonLib) (env : Env) (conn : Conn) (inner : Inner)
    (payload : Str) :
    IdentifyExit cfg lib env conn inner payload
      (handleIdentify cfg lib env conn inner payload) := by
  unfold handleIdentify
  split
  · rename_i hTaken
    exact .refused .stop fun _ _ h => by simp [h.pending] at hTaken
  · rename_i hPending
    cases hParse : lib.parseIdentify payload with
    | none => exact .refused .next fun _ _ h => by cases hParse.symm.trans h.parsed
    | some info =>
      have hSame : ∀ {info' auth}, Identifies cfg lib env conn inner payload info' auth →
          info' = info :=
        fun h => (Option.some.inj (hParse.symm.trans h.parsed)).symm
      dsimp only
      split
      · rename_i hCount
        exact .refused .stop fun _ _ h => hCount (hSame h ▸ h.count)
      · rename_i hCount
        split
        · rename_i hRange
          exact .refused .stop fun _ _ h => hRange.not_gt (hSame h ▸ h.inRange)
        · rename_i hRange
          cases hAuth : authenticateGatewayToken cfg env.clients env.dataState
              (normalizeGatewayToken info.token) with
          | stale =>
            exact .refused .stop fun _ _ h => by
              cases hAuth.symm.trans (hSame h ▸ h.authenticated)
          | invalid =>
            exact .refused .stop fun _ _ h => by
              cases hAuth.symm.trans (hSame h ▸ h.authenticated)
          | ok auth =>
            exact .accepted ⟨by simpa using hPending, hParse, not_not.mp hCount,
              not_le.mp hRange, hAuth⟩

theorem Identifies.unique {info info' : IdentifyInfo} {auth auth' : AuthContext}
    (h : Identifies cfg lib env conn inner payload info auth)
    (h' : Identifies cfg lib env conn inner payload info' auth') : info = info' ∧ auth = auth' := by
  obtain rfl : info = info' := Option.some.inj (h.parsed.symm.trans h'.parsed)
  exact ⟨rfl, GatewayAuthResult.ok.inj (h.authenticated.symm.trans h'.authenticated)⟩

theorem Identifies.reply {info : IdentifyInfo} {auth : AuthContext}
    (h : Identifies cfg lib env conn inner payload info auth) :
    handleIdentify cfg lib env conn inner payload = acceptIdentify env conn inner info auth := by
  have hExit := handleIdentify_exit cfg lib env conn inner payload
  generalize handleIdentify cfg lib env conn inner payload = reply at hExit ⊢
  cases hExit with
  | accepted hPasses =>
    obtain ⟨rfl, rfl⟩ := hPasses.unique h
    rfl
  | refused flow hFails => exact absurd h (hFails info auth)

/-- A RESUME that passes every check, with the session it names. -/
structure Resumes (cfg : Config) (lib : JsonLib) (env : Env) (inner : Inner) (payload : Str)
    (info : ResumeInfo) (auth : AuthContext) (session : Session) : Prop where
  parsed : lib.parseResume payload = some info
  authenticated : authenticateGatewayToken cfg env.clients env.dataState
    (normalizeGatewayToken info.token) = .ok auth
  found : (inner.getSession info.sessionId env.now).1 = some session
  own : session.principal = auth.principal

inductive ResumeExit (cfg : Config) (lib : JsonLib) (env : Env) (conn : Conn) (inner : Inner)
    (payload : Str) : Reply → Prop
  | accepted {info : ResumeInfo} {auth : AuthContext} {session : Session}
      (hPasses : Resumes cfg lib env inner payload info auth session) :
      ResumeExit cfg lib env conn inner payload
        (acceptResume conn (inner.getSession info.sessionId env.now).2 info auth session)
  | unread (flow : Flow)
      (hUnread : ∀ info auth, lib.parseResume payload = some info →
        authenticateGatewayToken cfg env.clients env.dataState
          (normalizeGatewayToken info.token) ≠ .ok auth) :
      ResumeExit cfg lib env conn inner payload ⟨conn, inner, [], flow⟩
  | rejected {info : ResumeInfo} (reason : Str)
      (hFails : ∀ info auth session, ¬ Resumes cfg lib env inner payload info auth session) :
      ResumeExit cfg lib env conn inner payload
        (rejectSession conn (inner.getSession info.sessionId env.now).2 reason)

theorem handleResume_exit (cfg : Config) (lib : JsonLib) (env : Env) (conn : Conn) (inner : Inner)
    (payload : Str) :
    ResumeExit cfg lib env conn inner payload (handleResume cfg lib env conn inner payload) := by
  unfold handleResume
  cases hParse : lib.parseResume payload with
  | none => exact .unread .next fun _ _ h => by cases hParse.symm.trans h
  | some info =>
    dsimp only
    cases hAuth : authenticateGatewayToken cfg env.clients env.dataState
        (normalizeGatewayToken info.token) with
    | stale =>
      refine .unread .stop fun info' auth h hOk => ?_
      obtain rfl : info = info' := Option.some.inj (hParse.symm.trans h)
      cases hAuth.symm.trans hOk
    | invalid =>
      refine .unread .stop fun info' auth h hOk => ?_
      obtain rfl : info = info' := Option.some.inj (hParse.symm.trans h)
      cases hAuth.symm.trans hOk
    | ok auth =>
      dsimp only
      have hSame : ∀ {info' auth' session}, Resumes cfg lib env inner payload info' auth' session →
          info' = info ∧ auth' = auth := by
        intro info' auth' session h
        obtain rfl : info = info' := Option.some.inj (hParse.symm.trans h.parsed)
        exact ⟨rfl, (GatewayAuthResult.ok.inj (hAuth.symm.trans h.authenticated)).symm⟩
      cases hSession : inner.getSession info.sessionId env.now with
      | mk found inner' =>
        obtain rfl : (inner.getSession info.sessionId env.now).2 = inner' := by rw [hSession]
        have hFound : (inner.getSession info.sessionId env.now).1 = found := by rw [hSession]
        cases found with
        | none =>
          refine .rejected _ fun info' auth' session h => ?_
          obtain ⟨rfl, rfl⟩ := hSame h
          cases hFound.symm.trans h.found
        | some session =>
          dsimp only
          split
          · rename_i hOther
            refine .rejected _ fun info' auth' session' h => ?_
            obtain ⟨rfl, rfl⟩ := hSame h
            obtain rfl := Option.some.inj (hFound.symm.trans h.found)
            exact hOther h.own
          · rename_i hOwn
            exact .accepted ⟨hParse, hAuth, hFound, not_not.mp hOwn⟩

theorem Resumes.unique {info info' : ResumeInfo} {auth auth' : AuthContext}
    {session session' : Session} (h : Resumes cfg lib env inner payload info auth session)
    (h' : Resumes cfg lib env inner payload info' auth' session') :
    info = info' ∧ auth = auth' ∧ session = session' := by
  obtain rfl : info = info' := Option.some.inj (h.parsed.symm.trans h'.parsed)
  exact ⟨rfl, GatewayAuthResult.ok.inj (h.authenticated.symm.trans h'.authenticated),
    Option.some.inj (h.found.symm.trans h'.found)⟩

theorem Resumes.reply {info : ResumeInfo} {auth : AuthContext} {session : Session}
    (h : Resumes cfg lib env inner payload info auth session) :
    handleResume cfg lib env conn inner payload =
      acceptResume conn (inner.getSession info.sessionId env.now).2 info auth session := by
  have hExit := handleResume_exit cfg lib env conn inner payload
  generalize handleResume cfg lib env conn inner payload = reply at hExit ⊢
  cases hExit with
  | accepted hPasses =>
    obtain ⟨rfl, rfl, rfl⟩ := hPasses.unique h
    rfl
  | unread flow hUnread => exact absurd h.authenticated (hUnread info auth h.parsed)
  | rejected reason hFails => exact absurd h (hFails info auth session)

end GatewayProxy
