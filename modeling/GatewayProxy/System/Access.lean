import GatewayProxy.Gateway.Confinement
import GatewayProxy.Gateway.Forwarding
import GatewayProxy.Gateway.Wakes
import GatewayProxy.Rest.Scope
import GatewayProxy.Sync.Recovery

/-!
# The end of a tenant's access

A row that leaves the table leaves the registry with the next load. Everything
the proxy does for a tenant in a guild asks the registry at that moment: new
sessions and REST requests, commands and events of connections that are up,
buffering and wake requests, and the sweep of voice owners. What is already on its
way is not taken back: the startup messages of a connection that has identified,
and events that passed their check.

Main results:

* `shutOut_of_clientHasGuild`: without the guild in the registry, none of these.
* `Dated.revocation_takes_effect`: from any reachable state eight steps of the
  sync task that go well shut the client out of a guild that the table no longer
  gives it, and no run lets it in again as long as the table does not.
-/

namespace GatewayProxy

open Utf8 Assoc Runs

-- ---------------------------------------------------------------------------
-- What a tenant can get done in a guild
-- ---------------------------------------------------------------------------

/-- A route about the guild. -/
inductive RouteOf (lib : JsonLib) (env : RestEnv) (guildId : Nat) : List Str → Prop
  | guild {id : Str} {rest : List Str} (hId : parseSnowflake id = some guildId) :
      RouteOf lib env guildId ("guilds".toList :: id :: rest)
  | application {app id : Str} {rest : List Str} (hId : parseSnowflake id = some guildId) :
      RouteOf lib env guildId ("applications".toList :: app :: "guilds".toList :: id :: rest)
  | channel {id : Str} {channelId : Nat} {rest : List Str}
      (hId : parseSnowflake id = some channelId)
      (hResolves : ChannelResolves lib env channelId guildId) :
      RouteOf lib env guildId ("channels".toList :: id :: rest)

/-- `authorized` of the voice sweep. -/
def voiceAuthorized (clients : Clients) : Map Str (Finset Nat) :=
  ⟨clients.entries.map (Sigma.map id fun _ config => config.guilds),
    clients.nodupKeys.map₂ fun _ config => config.guilds⟩

/-- With these contents of the registry, nothing is done for the client in the
guild. -/
structure ShutOut (cfg : Config) (lib : JsonLib) (clients : Clients) (clientId : Str)
    (guildId : Nat) : Prop where
  /-- no IDENTIFY, RESUME or request gets the guild -/
  login : ∀ state token ctx guilds, authenticateGatewayToken cfg clients state token = .ok ctx →
    ctx.principal = .client clientId → ctx.authorizedGuilds = some guilds → guildId ∉ guilds
  /-- the bot token is not used for a request about the guild -/
  rest : ∀ env request upstream value ctx route, env.clients = clients →
    handleRestRequest cfg lib env request = .ok upstream →
    ("authorization".toList, value) ∈ upstream.headers →
    authenticateGatewayToken cfg clients env.dataState (authHeader request.headers) = .ok ctx →
    ctx.principal = .client clientId →
    ApiRoute (normalizePath request.path) route → ¬ RouteOf lib env guildId route
  /-- a connection that has authenticated sends upstream commands for other guilds only -/
  command : ∀ turns before h after a shardId command,
    serve cfg lib Conn.new turns = before ++ h :: after → a ∈ before →
    a.AuthenticatesAs cfg lib (.client clientId) → h.turn.env.clients = clients →
    Effect.upstream shardId command ∈ h.reply.effects →
    ∃ payload guilds otherGuild voiceChannel, h.turn.input = .text payload ∧
      Rebuilt lib payload guilds otherGuild voiceChannel command ∧ guildId ∉ guilds ∧
      otherGuild ≠ guildId
  /-- no event of the guild passes its check, replayed or live -/
  event : ∀ (task : ForwardTask) authorized (s t : Forwarding) action outgoing event,
    task.clientId = some clientId → task.authorizedGuilds = some authorized →
    s.clients = clients → s.step task action = some t →
    outgoing ∈ t.pending → outgoing ∉ s.pending → outgoing.event = some event →
    event.guildId ≠ some guildId
  /-- no event of the guild is kept for it, wakes it or shows it typing -/
  offline : ∀ (inner : Inner) eventName message now, message.guildId = some guildId →
    (bufferEvent clients inner eventName message now).2.offlineBuffer clientId =
      inner.offlineBuffer clientId ∧
    clientId ∉ (bufferEvent clients inner eventName message now).1.map Prod.fst ∧
    clientId ∉ startWakeTypingForDisconnectedClients clients inner guildId
  /-- it gets no voice token of the guild, not even while it owns the call -/
  audience : ∀ inner eventName,
    audienceFor clients inner eventName (some guildId) ≠ .client clientId
  /-- the sweep takes its call in the guild -/
  voice : ∀ (inner : Inner) now owner,
    (inner.takeStaleVoiceOwners cfg (voiceAuthorized clients) now).2.voiceOwners.lookup guildId =
      some owner →
    owner.clientId = clientId → owner.wantsVoice = false

-- ---------------------------------------------------------------------------
-- Without the guild in the registry
-- ---------------------------------------------------------------------------

/-- A path has one route. -/
theorem ApiRoute.unique {path : Str} {route route' : List Str} (h : ApiRoute path route)
    (h' : ApiRoute path route') : route = route' := by
  obtain ⟨-, hApi | hV10⟩ := h <;> obtain ⟨-, hApi' | hV10'⟩ := h'
  · simpa using hApi.symm.trans hApi'
  · simpa using hApi.symm.trans hV10'
  · simpa using hV10.symm.trans hApi'
  · simpa using hV10.symm.trans hV10'

/-- A channel has one guild. -/
theorem ChannelResolves.unique {lib : JsonLib} {env : RestEnv} {channelId g g' : Nat}
    (h : ChannelResolves lib env channelId g) (h' : ChannelResolves lib env channelId g') :
    g = g' := by
  rcases h with hCached | ⟨hUncached, status, body, hFetch, -, -, hParse⟩
  · rcases h' with hCached' | ⟨hUncached', -⟩
    · exact Option.some.inj (hCached.symm.trans hCached')
    · cases hCached.symm.trans hUncached'
  · rcases h' with hCached' | ⟨-, status', body', hFetch', -, -, hParse'⟩
    · cases hUncached.symm.trans hCached'
    · have hSame := Option.some.inj (hFetch.symm.trans hFetch')
      obtain ⟨-, hBody⟩ := Prod.mk.inj hSame
      rw [Option.some.inj hBody] at hParse
      exact Option.some.inj (hParse.symm.trans hParse')

/-- A tenant may use a route about a guild only if the guild is its own. -/
theorem RouteOf.mem_of_allowed {lib : JsonLib} {env : RestEnv} {guildId : Nat} {route : List Str}
    {guilds : Finset Nat} {method : Str} (h : RouteOf lib env guildId route)
    (hAllowed : RouteAllowed lib env guilds method route) : guildId ∈ guilds := by
  cases h with
  | guild hId =>
    cases hAllowed with
    | guild hId' hGuild => exact Option.some.inj (hId.symm.trans hId') ▸ hGuild
  | application hId =>
    cases hAllowed with
    | application hId' hGuild => exact Option.some.inj (hId.symm.trans hId') ▸ hGuild
  | channel hId hResolves =>
    cases hAllowed with
    | channel hId' hResolves' hGuild =>
      obtain rfl := Option.some.inj (hId.symm.trans hId')
      exact hResolves.unique hResolves' ▸ hGuild

theorem lookup_voiceAuthorized (clients : Clients) (clientId : Str) :
    (voiceAuthorized clients).lookup clientId = clientGuilds clients clientId :=
  List.dlookup_map₂ clientId

section Registry

variable {cfg : Config} {lib : JsonLib} {clients : Clients} {clientId : Str} {guildId : Nat}

theorem not_mem_of_authenticates {state : ClientDataState} {token : Str} {ctx : AuthContext}
    {guilds : Finset Nat} (hNone : clientHasGuild clients clientId guildId = false)
    (hAuth : authenticateGatewayToken cfg clients state token = .ok ctx)
    (hClient : ctx.principal = .client clientId) (hGuilds : ctx.authorizedGuilds = some guilds) :
    guildId ∉ guilds := by
  obtain ⟨guilds', hCtx, hRegistry⟩ := authenticateGatewayToken_client hAuth hClient
  obtain rfl := Option.some.inj (hGuilds.symm.trans hCtx)
  intro hMem
  have hHas : clientHasGuild clients clientId guildId = true := by
    rw [clientHasGuild_iff, hRegistry]
    exact hMem
  cases hNone.symm.trans hHas

theorem voice_of_clientHasGuild (hNone : clientHasGuild clients clientId guildId = false)
    {inner : Inner} {now : Nat} {owner : VoiceOwner}
    (hOwner : (inner.takeStaleVoiceOwners cfg (voiceAuthorized clients) now).2.voiceOwners.lookup
      guildId = some owner)
    (hClient : owner.clientId = clientId) : owner.wantsVoice = false := by
  rw [Inner.lookup_takeStaleVoiceOwners] at hOwner
  obtain ⟨old, hOld, rfl⟩ := Option.map_eq_some_iff.mp hOwner
  by_cases hStale : Inner.isStale (voiceAuthorized clients) now guildId old = true
  · rw [if_pos hStale]
  · rw [if_neg hStale] at hClient ⊢
    have hRevoked : Inner.ownerRevoked (voiceAuthorized clients) guildId old = true := by
      unfold Inner.ownerRevoked
      rw [lookup_voiceAuthorized, hClient]
      cases hGuilds : clientGuilds clients clientId with
      | none => rfl
      | some guilds =>
        refine decide_eq_true fun hMem => ?_
        have hHas : clientHasGuild clients clientId guildId = true := by
          rw [clientHasGuild_iff, hGuilds]
          exact hMem
        cases hNone.symm.trans hHas
    cases hWants : old.wantsVoice with
    | false => rfl
    | true =>
      refine absurd ?_ hStale
      rw [Inner.isStale, hWants, hRevoked, Bool.or_true, Bool.and_true]

theorem shutOut_of_clientHasGuild (hNone : clientHasGuild clients clientId guildId = false) :
    ShutOut cfg lib clients clientId guildId where
  login := fun state token ctx guilds hAuth hClient hGuilds =>
    not_mem_of_authenticates hNone hAuth hClient hGuilds
  rest := by
    intro env request upstream value ctx route hEnv hForwarded hBot hAuth hClient hRoute hAbout
    subst hEnv
    obtain ⟨guilds, hGuilds, -⟩ := authenticateGatewayToken_client hAuth hClient
    obtain ⟨-, authContext, body, -, -, -, -, hUpstream⟩ := handleRestRequest_ok hForwarded
    obtain ⟨-, hScope⟩ := upstream_authorization hUpstream hBot
    obtain ⟨-, route', hRoute', hAllowed⟩ :=
      forwarded_client_allowed hForwarded hAuth hClient hGuilds hScope
    rw [hRoute'.unique hRoute] at hAllowed
    exact not_mem_of_authenticates hNone hAuth hClient hGuilds (hAbout.mem_of_allowed hAllowed)
  command := by
    intro turns before h after a shardId command hRun hMem hAuth hEnv hSent
    have hActs := (fresh_run_confined Conn.new_fresh hRun).2 a hMem clientId hAuth
    obtain ⟨payload, g, voiceChannel, hInput, hRebuilt, hGuild, -⟩ := hActs.upstream shardId command
      hSent
    rw [hEnv] at hRebuilt hGuild
    have hNot : guildId ∉ (clientGuilds clients clientId).getD ∅ := by
      rw [← clientHasGuild_iff, hNone]
      exact Bool.false_ne_true
    exact ⟨payload, _, g, voiceChannel, hInput, hRebuilt, hNot, fun hSame => hNot (hSame ▸ hGuild)⟩
  event := by
    intro task authorized s t action outgoing event hClient hAuthorized hEnv hStep hMem hNew hEvent
      hGuild
    rcases Forwarding.pending_step hClient hAuthorized hStep hMem with hOld | hBuilt | hVisible
    · exact hNew hOld
    · obtain ⟨-, -, -, hStartup, -⟩ := hBuilt
      cases hEvent.symm.trans hStartup
    · obtain ⟨-, event', hEvent', hVisible⟩ := hVisible
      obtain rfl := Option.some.inj (hEvent.symm.trans hEvent')
      obtain ⟨g, hSame, hHas⟩ := hVisible
      obtain rfl := Option.some.inj (hGuild.symm.trans hSame)
      rw [hEnv, ← clientHasGuild_iff, hNone] at hHas
      cases hHas
  offline := by
    intro inner eventName message now hGuild
    have hNot : isBufferedFor clients clientId eventName message = false := by
      rw [isBufferedFor, hGuild, Option.any_some, hNone, Bool.and_false]
    refine ⟨?_, ?_, fun hMem => ?_⟩
    · rw [(offlineBuffer_bufferEvent inner now clients clientId eventName message).1, hNot,
        if_neg fun h => Bool.false_ne_true h.1]
    · intro hMem
      obtain ⟨⟨c, url, token⟩, hTarget, rfl⟩ := List.mem_map.mp hMem
      obtain ⟨⟨hFor, -⟩, -⟩ :=
        (mem_targets_bufferEvent clients inner eventName message now c url token).mp hTarget
      cases hNot.symm.trans hFor
    · obtain ⟨config, hLookup, hTyping⟩ := Map.mem_keysWhere.mp hMem
      have hHas : clientHasGuild clients clientId guildId = true := by
        unfold clientHasGuild
        rw [hLookup]
        exact (Bool.and_eq_true_iff.mp (Bool.and_eq_true_iff.mp hTyping).1).1
      cases hNone.symm.trans hHas
  audience := by
    intro inner eventName hOwn
    unfold audienceFor at hOwn
    split at hOwn
    · cases hOwn
    · dsimp only at hOwn
      split at hOwn
      · split at hOwn
        · rename_i hHas
          obtain rfl := Audience.client.inj hOwn
          cases hNone.symm.trans hHas
        · cases hOwn
      · cases hOwn
  voice := fun inner now owner hOwner hClient => voice_of_clientHasGuild hNone hOwner hClient

end Registry

-- ---------------------------------------------------------------------------
-- Any run of the sync task
-- ---------------------------------------------------------------------------

namespace Dated

/-- The table gives the client the guild. -/
def Grants (rows : Table) (clientId : Str) (guildId : Nat) : Prop :=
  ∃ row ∈ rows, row.clientId = clientId ∧ parseU64 row.guildId = some guildId

section AnyRun

variable {configClients : Clients} {d e : Dated} {clientId : Str} {guildId moment : Nat}

/-- The history only grows. -/
theorem tables_prefix_step {action : Sync.Action} (hStep : d.step action = some e) :
    d.tables <+: e.tables := by
  obtain ⟨sync, -, rfl⟩ := Option.map_eq_some_iff.mp hStep
  cases action with
  | commit changes => exact List.prefix_append d.tables [sync.table]
  | _ => exact List.prefix_rfl

/-- An entry read from a table that does not give the client the guild. -/
theorem DatedInv.clientHasGuild_eq_false (hInv : DatedInv configClients d)
    (hMoment : d.asOf clientId = some moment)
    (hGone : ∀ rows, d.tables[moment]? = some rows → ¬ Grants rows clientId guildId) :
    clientHasGuild d.sync.clients clientId guildId = false := by
  have hPast := Nat.lt_of_le_of_lt (hInv.past clientId moment hMoment) hInv.read
  have hRows : d.tables[moment]? = some (d.tables.getD moment []) := by
    rw [List.getD_eq_getElem _ _ hPast]
    exact List.getElem?_eq_getElem hPast
  have hEntry := hInv.entry clientId
  rw [Entry, hMoment, Option.elim_some, entryAt] at hEntry
  unfold clientHasGuild
  rw [hEntry]
  cases hClient : (clientsOf (d.tables.getD moment [])).lookup clientId with
  | none => rfl
  | some client =>
    refine decide_eq_false fun hGuild => ?_
    obtain ⟨row, hMem, hId, -, hParsed⟩ := row_of_entry hClient hGuild
    exact hGone _ hRows ⟨row, hMem, hId, hParsed⟩

/-- What a run from a state with an entry of a moment keeps. -/
theorem moment_of_run {more : List Sync.Action} (hInv : DatedInv configClients d)
    (hMoment : d.asOf clientId = some moment) (hRun : exec step d more = some e) :
    DatedInv configClients e ∧ d.tables <+: e.tables ∧
      ∃ moment', moment ≤ moment' ∧ e.asOf clientId = some moment' := by
  refine exec_invariant (P := fun e => DatedInv configClients e ∧ d.tables <+: e.tables ∧
    ∃ moment', moment ≤ moment' ∧ e.asOf clientId = some moment') ?_
    ⟨hInv, List.prefix_rfl, moment, le_rfl, hMoment⟩ hRun
  rintro s action t ⟨hS, hPrefix, moment', hLe, hS'⟩ hStep
  obtain ⟨moment'', hLe', hT⟩ := moments_advance hS hStep hS'
  exact ⟨datedInv_step hS hStep, hPrefix.trans (tables_prefix_step hStep), moment'',
    hLe.trans hLe', hT⟩

/-- The current table stays in the history. -/
theorem DatedInv.current_of_prefix (hInv : DatedInv configClients d)
    (hPrefix : d.tables <+: e.tables) : e.tables[d.tables.length - 1]? = some d.sync.table := by
  obtain ⟨later, hTables⟩ := hPrefix
  have hPos := hInv.length_pos
  rw [← hTables, List.getElem?_append_left (by omega), ← List.getLast?_eq_getElem?]
  exact hInv.current

/-- **Revocation takes effect.** After any run of the sync task, with commits,
failures and reconnects between any two of its steps: at most eight of its steps
that go well lead to a state in which every client is shut out of every guild that
the current table does not give it. Once an entry has been read from this table or
a later one, no run lets its client into such a guild, as long as no later table
gives it the guild. -/
theorem revocation_takes_effect (cfg : Config) (lib : JsonLib) {table : Table}
    {actions : List Sync.Action}
    (hRun : exec step (new table configClients) actions = some d) :
    LeadsTo step (fun action => action.isOwn = true)
      (fun e => e.tables = d.tables ∧ ∀ clientId guildId, ¬ Grants d.sync.table clientId guildId →
        ShutOut cfg lib e.sync.clients clientId guildId) 8 d ∧
    ∀ clientId guildId, ¬ Grants d.sync.table clientId guildId →
      ∀ more e, exec step d more = some e →
      ∀ moment, e.asOf clientId = some moment → d.tables.length ≤ moment + 1 →
      ∀ later f, exec step e later = some f →
        (∀ rows ∈ f.tables.drop d.tables.length, ¬ Grants rows clientId guildId) →
        ShutOut cfg lib f.sync.clients clientId guildId := by
  have hInv : DatedInv configClients d :=
    exec_invariant (fun _ _ _ h hStep => datedInv_step h hStep)
      (datedInv_new table configClients) hRun
  constructor
  · obtain ⟨own, e, hLength, hOwn, hOwnRun, hTables, hCurrent⟩ := catches_up d
    have hE : DatedInv configClients e :=
      exec_invariant (fun _ _ _ h hStep => datedInv_step h hStep) hInv hOwnRun
    refine ⟨own, e, hLength, hOwn, hOwnRun, hTables, fun clientId guildId hGone => ?_⟩
    refine shutOut_of_clientHasGuild (hE.clientHasGuild_eq_false (hCurrent clientId) ?_)
    intro rows hRows
    rw [hInv.current_of_prefix (hTables ▸ List.prefix_rfl)] at hRows
    exact Option.some.inj hRows ▸ hGone
  · intro clientId guildId hGone more e hMore moment hMoment hSince later f hLater hNoGrant
    have hE : DatedInv configClients e ∧ d.tables <+: e.tables := by
      refine exec_invariant (P := fun e => DatedInv configClients e ∧ d.tables <+: e.tables) ?_
        ⟨hInv, List.prefix_rfl⟩ hMore
      rintro s action t ⟨hS, hPrefix⟩ hStep
      exact ⟨datedInv_step hS hStep, hPrefix.trans (tables_prefix_step hStep)⟩
    obtain ⟨hF, hGrown, moment', hLe, hMoment'⟩ := moment_of_run hE.1 hMoment hLater
    refine shutOut_of_clientHasGuild (hF.clientHasGuild_eq_false hMoment' ?_)
    intro rows hRows
    by_cases hCurrent : moment' = d.tables.length - 1
    · rw [hCurrent, hInv.current_of_prefix (hE.2.trans hGrown)] at hRows
      exact Option.some.inj hRows ▸ hGone
    · refine hNoGrant rows (List.mem_iff_getElem?.mpr ⟨moment' - d.tables.length, ?_⟩)
      have hPos := hInv.length_pos
      rw [List.getElem?_drop, Nat.add_sub_cancel' (by omega)]
      exact hRows

end AnyRun

open SampleRows in
/-- The row of client `a` is deleted, noticed, and the client is shut out. -/
theorem revocation_takes_effect_deleted :
    ∃ d e, exec step (new [row "a" "7"] ∅)
        [.connect, .answer [row "a" "7"], .markSuccess (some 1), .writeClients,
          .commit [.delete 0]] = some d ∧
      clientHasGuild d.sync.clients "a".toList 7 = true ∧
      exec step d [.receive, .dirtyFlushTick, .answer [], .writeClients] = some e ∧
      ShutOut Sample.config (Sample.lib (0, 1)) e.sync.clients "a".toList 7 := by
  have hOutcome : (exec step (new [row "a" "7"] ∅)
      [.connect, .answer [row "a" "7"], .markSuccess (some 1), .writeClients,
        .commit [.delete 0]]).map (fun d => (clientHasGuild d.sync.clients "a".toList 7,
          d.sync.table.length, d.tables.length,
          (exec step d [.receive, .dirtyFlushTick, .answer [], .writeClients]).map fun e =>
            (e.asOf "a".toList, (e.tables.drop 2).length))) =
      some (true, 0, 2, some (some 1, 0)) := by
    decide +kernel
  obtain ⟨d, hRun, hFacts⟩ := Option.map_eq_some_iff.mp hOutcome
  simp only [Prod.mk.injEq] at hFacts
  obtain ⟨hHad, hTable, hLength, hMore⟩ := hFacts
  obtain ⟨e, hMore, hEnd⟩ := Option.map_eq_some_iff.mp hMore
  obtain ⟨hMoment, hLater⟩ := Prod.mk.inj hEnd
  refine ⟨d, e, hRun, hHad, hMore, ?_⟩
  have hGone : ¬ Grants d.sync.table "a".toList 7 := by
    rintro ⟨row, hMem, -⟩
    exact List.ne_nil_of_mem hMem (List.length_eq_zero_iff.mp hTable)
  refine (revocation_takes_effect Sample.config (Sample.lib (0, 1)) hRun).2 _ _ hGone _ e hMore 1
    hMoment (hLength ▸ le_rfl) [] e rfl fun rows hRows => ?_
  rw [hLength] at hRows
  exact absurd (List.length_eq_zero_iff.mp hLater) (List.ne_nil_of_mem hRows)

end Dated

end GatewayProxy
