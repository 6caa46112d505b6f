import GatewayProxy.Rest.Reply

/-!
# What the answer to a REST request rests on

Two runs of one request, on proxies with different registries, sessions, voice
owners and caches. `SameForTenant` says where they agree: on the entry of the
request's client, and on what the request asks about the guilds of this entry. Of a
channel elsewhere they need not agree on the guild it belongs to.

Main results:

* `botVoiceChangeGuild_scope`: the voice owner is looked up for a guild of the
  tenant only.
* `handleRestRequest_same`: on agreeing proxies a tenant's request fares alike.
* `upstream_of_handled`: what is forwarded, without a word about the sender.
* `rest_isolated`: the answer rests on the tenant's own, the forwarded request on
  nothing but the request, and credentials that do not hold show nothing.
-/

namespace GatewayProxy

open Utf8 Assoc

-- ---------------------------------------------------------------------------
-- Where two proxies agree
-- ---------------------------------------------------------------------------

/-- A channel lookup as a tenant may see it: a guild that is not its own is not told. -/
def ChannelGuildLookup.seenBy (authorizedGuilds : Finset Nat) :
    ChannelGuildLookup → ChannelGuildLookup
  | .found guildId => if guildId ∈ authorizedGuilds then .found guildId else .missingGuild
  | lookup => lookup

/-- The proxies agree on what a request of the client on the path may read. -/
structure SameForTenant (lib : JsonLib) (clientId path : Str) (env env' : RestEnv) : Prop where
  dataState : env.dataState = env'.dataState
  entry : env.clients.lookup clientId = env'.clients.lookup clientId
  channel : ∀ channelId guilds, resolveRouteScope path = .channel channelId →
    clientGuilds env.clients clientId = some guilds →
    (resolveChannelGuildId lib env channelId).seenBy guilds =
      (resolveChannelGuildId lib env' channelId).seenBy guilds
  bot : env.innerAfterBody.botUserId = env'.innerAfterBody.botUserId
  voice : ∀ guildId guilds, clientGuilds env.clients clientId = some guilds → guildId ∈ guilds →
    (env.innerAfterBody.voiceOwner guildId = some clientId ↔
      env'.innerAfterBody.voiceOwner guildId = some clientId)

section Agreement

variable {cfg : Config} {lib : JsonLib} {env env' : RestEnv} {request : RestRequest}
  {clientId secret path : Str}

theorem responseForChannelScope_seenBy (lookup : ChannelGuildLookup) (guilds : Finset Nat) :
    responseForChannelScope (lookup.seenBy guilds) guilds =
      responseForChannelScope lookup guilds := by
  cases lookup with
  | found guildId =>
    by_cases hGuild : guildId ∈ guilds
    · rw [ChannelGuildLookup.seenBy, if_pos hGuild]
    · simp [ChannelGuildLookup.seenBy, responseForChannelScope, channelScopeDecision, hGuild]
  | unknownChannel => rfl
  | missingGuild => rfl
  | lookupFailed => rfl

/-- Only the entry of the token's own client is read. -/
theorem authenticateGatewayToken_same {token : Str}
    (hToken : splitOnce ':' token = some (clientId, secret))
    (hSame : SameForTenant lib clientId path env env') :
    authenticateGatewayToken cfg env.clients env.dataState token =
      authenticateGatewayToken cfg env'.clients env'.dataState token := by
  simp only [authenticateGatewayToken, authenticateClientWithId, hToken, hSame.entry,
    hSame.dataState]

/-- A client that authenticates is the token's, with the guilds of its entry. -/
theorem principal_of_token {token : Str} {ctx : AuthContext} {id : Str}
    (hToken : splitOnce ':' token = some (clientId, secret))
    (hAuth : authenticateGatewayToken cfg env.clients env.dataState token = .ok ctx)
    (hClient : ctx.principal = .client id) :
    id = clientId ∧ ∃ guilds, ctx.authorizedGuilds = some guilds ∧
      clientGuilds env.clients clientId = some guilds := by
  have hId : id = clientId := by
    unfold authenticateGatewayToken at hAuth
    split at hAuth
    · rename_i foundId guilds hOk
      obtain rfl := GatewayAuthResult.ok.inj hAuth
      obtain rfl : foundId = id := SessionPrincipal.client.inj hClient
      unfold authenticateClientWithId at hOk
      rw [hToken] at hOk
      dsimp only at hOk
      split at hOk
      · cases hOk
      · split at hOk
        · split at hOk
          · exact (ClientAuthResult.ok.inj hOk).1.symm
          · cases hState : env.dataState <;> simp [hState, unverified] at hOk
        · cases hState : env.dataState <;> simp [hState, unverified] at hOk
    · cases hAuth
    · split at hAuth
      · obtain rfl := GatewayAuthResult.ok.inj hAuth
        cases hClient
      · split at hAuth
        · cases hAuth
        · obtain rfl := GatewayAuthResult.ok.inj hAuth
          cases hClient
  subst hId
  exact ⟨rfl, authenticateGatewayToken_client hAuth hClient⟩

-- ---------------------------------------------------------------------------
-- The guild of a voice change
-- ---------------------------------------------------------------------------

/-- A voice change is on a path of four segments after the prefixes. -/
theorem segments_of_botVoiceChangeGuild {method : Str} {body : List UInt8} {botId : Option Nat}
    {guildId : Nat} (h : botVoiceChangeGuild lib method path body botId = some guildId) :
    ∃ id rest, (pathSegments path).dropWhile (fun s => s == "api".toList || s == "v10".toList) =
        "guilds".toList :: id :: rest ∧ parseSnowflake id = some guildId := by
  unfold botVoiceChangeGuild at h
  split at h
  · cases h
  · split at h
    · rename_i first id resource target hSegments
      split at h
      · cases h
      · rename_i found hFound
        dsimp only at h
        have hFirst : first = "guilds".toList := by
          by_contra hNe
          rw [if_pos (.inl hNe)] at h
          cases h
        have hGuild : found = guildId := by
          split_ifs at h
          · exact Option.some.inj h
          · split at h
            · exact Option.some.inj h
            · split at h
              · exact Option.some.inj h
              · cases h
        exact ⟨id, _, hFirst ▸ hSegments, hGuild ▸ hFound⟩
    · cases h

/-- On a route that is not denied, the guild of the voice change is that of the route. -/
theorem botVoiceChangeGuild_scope {method : Str} {body : List UInt8} {botId : Option Nat}
    {guildId : Nat} (hScope : resolveRouteScope path ≠ .deniedWithoutGuild)
    (h : botVoiceChangeGuild lib method path body botId = some guildId) :
    resolveRouteScope path = .guild guildId := by
  obtain ⟨id, rest, hSegments, hId⟩ := segments_of_botVoiceChangeGuild h
  obtain ⟨route, hRoute, hRouteScope⟩ := resolveRouteScope_route rfl hScope
  have hDropped : route.dropWhile (fun s => s == "api".toList || s == "v10".toList) =
      "guilds".toList :: id :: rest := by
    obtain ⟨-, hPath | hPath⟩ := hRoute <;> rw [hPath] at hSegments <;> exact hSegments
  have hCase := routeScope_case route
  rw [hRouteScope] at hCase
  generalize hResult : resolveRouteScope path = scope at hCase hScope
  cases hCase with
  | guild hFound =>
    obtain ⟨rfl, -⟩ := List.cons.inj (List.cons.inj hDropped).2
    rw [hFound] at hId
    rw [Option.some.inj hId]
  | denied => exact absurd rfl hScope
  | gatewayBot => exact absurd (List.cons.inj hDropped).1 (by decide)
  | usersMe => exact absurd (List.cons.inj hDropped).1 (by decide)
  | application => exact absurd (List.cons.inj hDropped).1 (by decide)
  | channel => exact absurd (List.cons.inj hDropped).1 (by decide)
  | token hToken =>
    obtain ⟨kind, _, _, _, rfl, rfl | rfl, -⟩ := hToken
    · exact absurd (List.cons.inj hDropped).1 (by decide)
    · exact absurd (List.cons.inj hDropped).1 (by decide)

-- ---------------------------------------------------------------------------
-- The checks on both proxies
-- ---------------------------------------------------------------------------

theorem restAuthContext_same {scope : RouteScope}
    (hToken : splitOnce ':' (authHeader request.headers) = some (clientId, secret))
    (hSame : SameForTenant lib clientId path env env') :
    restAuthContext cfg env scope (authHeader request.headers) =
      restAuthContext cfg env' scope (authHeader request.headers) := by
  rw [restAuthContext, restAuthContext, authenticateGatewayToken_same hToken hSame]

/-- What the context of a request says about its sender. -/
def ContextOf (clients : Clients) (clientId : Str) (authContext : Option AuthContext) : Prop :=
  ∀ ctx id, authContext = some ctx → ctx.principal = .client id →
    id = clientId ∧ ∃ guilds, ctx.authorizedGuilds = some guilds ∧
      clientGuilds clients clientId = some guilds

theorem contextOf_of_ok {scope : RouteScope} {authContext : Option AuthContext}
    (hToken : splitOnce ':' (authHeader request.headers) = some (clientId, secret))
    (h : restAuthContext cfg env scope (authHeader request.headers) = .ok authContext) :
    ContextOf env.clients clientId authContext := by
  intro ctx id hContext hClient
  unfold restAuthContext at h
  split at h
  · rw [← Except.ok.inj h] at hContext
    cases hContext
  · split at h
    · rename_i found hAuth
      rw [← Except.ok.inj h, Option.some.injEq] at hContext
      exact principal_of_token hToken (hContext ▸ hAuth) hClient
    · cases h
    · cases h

theorem checkRouteScope_same {method : Str} {authContext : Option AuthContext}
    (hContext : ContextOf env.clients clientId authContext)
    (hSame : SameForTenant lib clientId path env env') :
    checkRouteScope lib env (resolveRouteScope path) method authContext =
      checkRouteScope lib env' (resolveRouteScope path) method authContext := by
  cases authContext with
  | none => rfl
  | some ctx =>
    cases hPrincipal : ctx.principal with
    | botToken => simp [checkRouteScope, hPrincipal, SessionPrincipal.clientId]
    | unvalidated token => simp [checkRouteScope, hPrincipal, SessionPrincipal.clientId]
    | client id =>
      obtain ⟨rfl, guilds, hGuilds, hEntry⟩ := hContext ctx id rfl hPrincipal
      cases hScope : resolveRouteScope path with
      | channel channelId =>
        have hSeen := hSame.channel channelId guilds hScope hEntry
        have hResponse := congrArg (responseForChannelScope · guilds) hSeen
        simp only [responseForChannelScope_seenBy] at hResponse
        simp only [checkRouteScope, Option.bind_some, hPrincipal, SessionPrincipal.clientId,
          Option.map_some, hGuilds, hResponse]
      | _ => rfl

theorem checkVoiceChange_same {body : List UInt8}
    {authContext : Option AuthContext}
    (hContext : ContextOf env.clients clientId authContext)
    (hSame : SameForTenant lib clientId path env env')
    (hScope :
      checkRouteScope lib env (resolveRouteScope path) request.method authContext = .ok ()) :
    checkVoiceChange lib env request.method path body authContext =
      checkVoiceChange lib env' request.method path body authContext := by
  unfold checkVoiceChange
  rw [hSame.bot]
  cases authContext with
  | none => rfl
  | some ctx =>
    cases hPrincipal : ctx.principal with
    | botToken => simp [hPrincipal, SessionPrincipal.clientId]
    | unvalidated token => simp [hPrincipal, SessionPrincipal.clientId]
    | client id =>
      obtain ⟨rfl, guilds, hGuilds, hEntry⟩ := hContext ctx id rfl hPrincipal
      simp only [Option.bind_some, hPrincipal, SessionPrincipal.clientId]
      cases hChange : botVoiceChangeGuild lib request.method path body
          env'.innerAfterBody.botUserId with
      | none => rfl
      | some guildId =>
        -- the scope check has passed, so the guild is one of the tenant's
        have hOwn : guildId ∈ guilds := by
          have hRoute : resolveRouteScope path = .guild guildId := by
            refine botVoiceChangeGuild_scope (fun hDenied => ?_) hChange
            rw [hDenied] at hScope
            simp [checkRouteScope, hPrincipal, SessionPrincipal.clientId, hGuilds,
              isClientAuthorizedForRoute] at hScope
          rcases checkRouteScope_client hPrincipal hGuilds hScope with
            ⟨channelId, hChannel, -⟩ | hAllowed
          · rw [hRoute] at hChannel
            cases hChannel
          · rw [hRoute] at hAllowed
            exact of_decide_eq_true hAllowed
        have hVoice := hSame.voice guildId guilds hEntry hOwn
        simp only [ne_eq, hVoice]

/-- On agreeing proxies a request of the client fares alike. -/
theorem handleRestRequest_same
    (hToken : splitOnce ':' (authHeader request.headers) = some (clientId, secret))
    (hSame : SameForTenant lib clientId (normalizePath request.path) env env') :
    handleRestRequest cfg lib env request = handleRestRequest cfg lib env' request := by
  unfold handleRestRequest
  dsimp only
  split
  · rfl
  · rw [← restAuthContext_same hToken hSame]
    cases hAuth : restAuthContext cfg env (resolveRouteScope (normalizePath request.path))
        (authHeader request.headers) with
    | error error => rfl
    | ok authContext =>
      have hContext := contextOf_of_ok hToken hAuth
      simp only [bind, Except.bind]
      rw [← checkRouteScope_same hContext hSame]
      cases hScope : checkRouteScope lib env (resolveRouteScope (normalizePath request.path))
          request.method authContext with
      | error error => rfl
      | ok =>
        cases readBody request.body with
        | error error => rfl
        | ok body =>
          dsimp only
          rw [checkVoiceChange_same hContext hSame hScope]

end Agreement

-- ---------------------------------------------------------------------------
-- What is forwarded
-- ---------------------------------------------------------------------------

/-- The requests differ in their `authorization` headers at most. -/
structure SameButCredentials (request request' : RestRequest) : Prop where
  path : request.path = request'.path
  query : request.query = request'.query
  method : request.method = request'.method
  body : request.body = request'.body
  headers : request.headers.filter (fun h => h.1 ≠ "authorization".toList) =
    request'.headers.filter fun h => h.1 ≠ "authorization".toList

/-- The headers that carry credentials to Discord: the bot's, or none on a route with
a token of its own. -/
def credentialsFor (cfg : Config) (path : Str) : List (Str × List UInt8) :=
  if resolveRouteScope path = .allowedWithoutAuth then []
  else [("authorization".toList, toBytes ("Bot ".toList ++ cfg.token))]

section Forwarded

variable {cfg : Config} {lib : JsonLib} {env : RestEnv} {request : RestRequest}

/-- What is forwarded, without a word about the sender. -/
theorem upstream_of_handled {upstream : UpstreamRequest}
    (h : handleRestRequest cfg lib env request = .ok upstream) :
    ∃ method body, methodFromBytes request.method = some method ∧ request.body = some body ∧
      upstream = ⟨method, discordRestBaseUrl cfg ++ normalizePath request.path ++
          request.query.elim [] ('?' :: ·),
        request.headers.filter (fun h => !shouldSkipRequestHeader h.1) ++
          credentialsFor cfg (normalizePath request.path), body⟩ := by
  obtain ⟨-, authContext, body, hContext, -, hBody, -, hUpstream⟩ := handleRestRequest_ok h
  have hAttach : shouldAttachBotAuthorization (resolveRouteScope (normalizePath request.path))
      authContext.isSome =
        !decide (resolveRouteScope (normalizePath request.path) = .allowedWithoutAuth) := by
    by_cases hToken : resolveRouteScope (normalizePath request.path) = .allowedWithoutAuth
    · simp [shouldAttachBotAuthorization, hToken]
    · obtain ⟨ctx, rfl, -⟩ := restAuthContext_ok hContext hToken
      simp [shouldAttachBotAuthorization, hToken]
  unfold upstreamRequest at hUpstream
  split at hUpstream
  · cases hUpstream
  · rename_i method hMethod
    refine ⟨method, body, hMethod, hBody, ?_⟩
    rw [← Except.ok.inj hUpstream, hAttach, credentialsFor]
    by_cases hToken : resolveRouteScope (normalizePath request.path) = .allowedWithoutAuth
    · simp [hToken]
    · simp [hToken]

/-- The forwarded headers are those of the request without its credentials. -/
theorem kept_of_sameButCredentials {request' : RestRequest}
    (hSame : SameButCredentials request request') :
    request.headers.filter (fun h => !shouldSkipRequestHeader h.1) =
      request'.headers.filter fun h => !shouldSkipRequestHeader h.1 := by
  have hKept : ∀ headers : List (Str × List UInt8),
      headers.filter (fun h => !shouldSkipRequestHeader h.1) =
        (headers.filter fun h => h.1 ≠ "authorization".toList).filter fun h =>
          !shouldSkipRequestHeader h.1 := by
    intro headers
    rw [List.filter_filter]
    refine List.filter_congr fun header _ => ?_
    by_cases hName : header.1 = "authorization".toList
    · rw [hName]
      decide
    · rw [decide_eq_true hName, Bool.and_true]
  rw [hKept request.headers, hKept request'.headers, hSame.headers]

end Forwarded

-- ---------------------------------------------------------------------------
-- The result
-- ---------------------------------------------------------------------------

/-- Credentials that hold in neither registry are refused alike: the refusal rests on
the token and on the freshness alone. -/
theorem authenticateGatewayToken_refused {cfg : Config} {clients clients' : Clients}
    {state : ClientDataState} {token : Str}
    (hNot : ∀ ctx, authenticateGatewayToken cfg clients state token ≠ .ok ctx)
    (hNot' : ∀ ctx, authenticateGatewayToken cfg clients' state token ≠ .ok ctx) :
    authenticateGatewayToken cfg clients state token =
      authenticateGatewayToken cfg clients' state token := by
  have hClient : ∀ clients : Clients,
      (∀ ctx, authenticateGatewayToken cfg clients state token ≠ .ok ctx) →
      authenticateClientWithId clients state token =
        match splitOnce ':' token with
        | none => .invalid
        | some _ => if state = .stale then .stale else unverified state := by
    intro clients hNot
    unfold authenticateClientWithId
    cases hSplit : splitOnce ':' token with
    | none => rfl
    | some parts =>
      obtain ⟨clientId, secret⟩ := parts
      dsimp only
      by_cases hStale : state = .stale
      · rw [if_pos hStale, if_pos hStale]
      · rw [if_neg hStale, if_neg hStale]
        cases hEntry : clients.lookup clientId with
        | none => rfl
        | some client =>
          by_cases hSecret : client.secret = secret
          · refine absurd ?_ (hNot ⟨.client clientId, some client.guilds⟩)
            simp only [authenticateGatewayToken, authenticateClientWithId, hSplit, if_neg hStale,
              hEntry, if_pos hSecret]
          · exact if_neg hSecret
  unfold authenticateGatewayToken
  rw [hClient clients hNot, hClient clients' hNot']

/-- Credentials that do not hold are answered without a look at the state. -/
theorem handleRestRequest_unverified {cfg : Config} {lib : JsonLib} {env env' : RestEnv}
    {request : RestRequest}
    (hResult : authenticateGatewayToken cfg env.clients env.dataState
        (authHeader request.headers) =
      authenticateGatewayToken cfg env'.clients env'.dataState (authHeader request.headers))
    (hNot : ∀ ctx, authenticateGatewayToken cfg env.clients env.dataState
      (authHeader request.headers) ≠ .ok ctx) :
    handleRestRequest cfg lib env request = handleRestRequest cfg lib env' request := by
  unfold handleRestRequest
  dsimp only
  split
  · rfl
  · unfold restAuthContext
    rw [← hResult]
    by_cases hToken : resolveRouteScope (normalizePath request.path) = .allowedWithoutAuth
    · simp only [if_pos hToken]
      rfl
    · simp only [if_neg hToken]
      cases hAuth : authenticateGatewayToken cfg env.clients env.dataState
          (authHeader request.headers) with
      | ok ctx => exact absurd hAuth (hNot ctx)
      | stale => rfl
      | invalid => rfl

/-- **REST tenants are isolated.** A request with a client's token is answered alike
by any two proxies that agree on the client's own entry, on what the lookup of the
request's channel gives up to which foreign guild it is in, and on whether the client
is the voice owner of its guilds, whatever else their registries, sessions, caches and
voice owners are. What goes to Discord rests on the request alone: whoever sent it,
with whatever credentials, the forwarded requests are one and the same, and the only
credentials in it are the bot's, and none on a route with a token of its own. And
credentials that do not hold get the same answer from every registry of the same
freshness in which they do not hold. -/
theorem rest_isolated (cfg : Config) (lib : JsonLib) (json : ValueLib) :
    (∀ request env env' clientId secret,
      splitOnce ':' (authHeader request.headers) = some (clientId, secret) →
      SameForTenant lib clientId (normalizePath request.path) env env' →
      ∀ send, answerRestRequest cfg lib json env request send =
        answerRestRequest cfg lib json env' request send) ∧
    (∀ request request' env env' upstream upstream', SameButCredentials request request' →
      handleRestRequest cfg lib env request = .ok upstream →
      handleRestRequest cfg lib env' request' = .ok upstream' →
      upstream = upstream' ∧ ∀ header ∈ upstream.headers, header.1 = "authorization".toList →
        header ∈ credentialsFor cfg (normalizePath request.path)) ∧
    ∀ request env env', env.dataState = env'.dataState →
      (∀ ctx, authenticateGatewayToken cfg env.clients env.dataState
        (authHeader request.headers) ≠ .ok ctx) →
      (∀ ctx, authenticateGatewayToken cfg env'.clients env'.dataState
        (authHeader request.headers) ≠ .ok ctx) →
      ∀ send, answerRestRequest cfg lib json env request send =
        answerRestRequest cfg lib json env' request send := by
  refine ⟨?_, ?_, ?_⟩
  · intro request env env' clientId secret hToken hSame send
    rw [answerRestRequest, answerRestRequest, handleRestRequest_same hToken hSame]
  · intro request request' env env' upstream upstream' hSame h h'
    obtain ⟨method, body, hMethod, hBody, hUpstream⟩ := upstream_of_handled h
    obtain ⟨method', body', hMethod', hBody', hUpstream'⟩ := upstream_of_handled h'
    have hOneMethod : method' = method := by
      rw [← hSame.method, hMethod] at hMethod'
      exact (Option.some.inj hMethod').symm
    have hOneBody : body' = body := by
      rw [← hSame.body, hBody] at hBody'
      exact (Option.some.inj hBody').symm
    have hHeaders := kept_of_sameButCredentials hSame
    refine ⟨?_, fun header hMem hName => ?_⟩
    · rw [hUpstream, hUpstream', hOneMethod, hOneBody, hHeaders, hSame.path, hSame.query]
    · rw [hUpstream] at hMem
      rcases List.mem_append.mp hMem with hKept | hCredentials
      · have hSkip := (List.mem_filter.mp hKept).2
        rw [hName] at hSkip
        exact absurd hSkip (by decide)
      · exact hCredentials
  · intro request env env' hState hNot hNot' send
    have hResult : authenticateGatewayToken cfg env.clients env.dataState
          (authHeader request.headers) =
        authenticateGatewayToken cfg env'.clients env'.dataState (authHeader request.headers) := by
      rw [← hState] at hNot' ⊢
      exact authenticateGatewayToken_refused hNot hNot'
    rw [answerRestRequest, answerRestRequest, handleRestRequest_unverified hResult hNot]

namespace SampleTenancy

/-- Client `c` of guild 7, and channel 5 of the given guild. -/
def env (guildId : Nat) (clients : Clients) : RestEnv where
  clients := clients.insert "c".toList ⟨"s".toList, {7}, none, none⟩
  dataState := .noDatabase
  inner := Inner.new [⟨0, none, ⟨[⟨guildId, none, [5], []⟩], [], []⟩⟩] 1
  innerAfterBody := Inner.new [] 1
  fetchChannel _ := none

/-- The other proxy knows client `d`, too. -/
def others : Clients := (∅ : Clients).insert "d".toList ⟨"t".toList, {8, 9}, none, none⟩

def request : RestRequest where
  path := "/api/v10/channels/5".toList
  query := none
  method := "GET".toList
  headers := [("authorization".toList, toBytes "Bot c:s".toList)]
  body := some []

theorem same (lib : JsonLib) :
    SameForTenant lib "c".toList (normalizePath request.path) (env 9 ∅) (env 8 others) where
  dataState := rfl
  entry := rfl
  channel channelId guilds hScope hGuilds := by
    have hFive : resolveRouteScope (normalizePath request.path) = .channel 5 := by
      decide +kernel
    obtain rfl := RouteScope.channel.inj (hFive.symm.trans hScope)
    have hSeven : clientGuilds (env 9 ∅).clients "c".toList = some {7} := rfl
    obtain rfl := Option.some.inj (hSeven.symm.trans hGuilds)
    rfl
  bot := rfl
  voice _ _ _ _ := Iff.rfl

end SampleTenancy

open SampleReply in
/-- Client `c` is not told whether channel 5 is in guild 8 or in guild 9. -/
theorem rest_isolated_channel :
    answerRestRequest config lib json (SampleTenancy.env 9 ∅) SampleTenancy.request
        (fun _ => some response) =
      answerRestRequest config lib json (SampleTenancy.env 8 SampleTenancy.others)
        SampleTenancy.request fun _ => some response :=
  (rest_isolated config lib json).1 SampleTenancy.request _ _ "c".toList "s".toList
    (by decide +kernel) (SampleTenancy.same lib) _

end GatewayProxy
