import GatewayProxy.Source.RestProxy

/-!
# Which REST requests get the bot token

The path of a request is taken as `handle_rest_request` normalises it, which is
the path it forwards. `ApiRoute` gives the segments after the API prefix;
`TokenRoute` and `RouteAllowed` say, without the order in which the code tries
its rules, which routes carry a token of their own and which a tenant may use.

Main results:

* `routeScope_case`: what each scope says about the route.
* `handleRestRequest_ok`: the checks that a forwarded request passed.
* `rest_scope_sound`: the bot token goes out only on authenticated requests,
  and on a tenant's only to the tenant's own guilds; everything else of a tenant
  ends in an error response.
-/

namespace GatewayProxy

open Utf8 Assoc

/-- The segments of the path are an API prefix and the route. -/
def ApiRoute (path : Str) (route : List Str) : Prop :=
  route ≠ [] ∧ (pathSegments path = "api".toList :: "v10".toList :: route ∨
    pathSegments path = "v10".toList :: route)

/-- An interactions or webhooks route, which has its token in the path. -/
def TokenRoute (route : List Str) : Prop :=
  ∃ kind id token rest, route = kind :: id :: token :: rest ∧
    (kind = "interactions".toList ∨ kind = "webhooks".toList) ∧ (parseSnowflake id).isSome = true

/-- The guild of a channel: the cache's answer first, else what Discord answers
the proxy's own lookup. -/
def ChannelResolves (lib : JsonLib) (env : RestEnv) (channelId guildId : Nat) : Prop :=
  env.inner.resolveGuildIdForChannel channelId = some guildId ∨
    env.inner.resolveGuildIdForChannel channelId = none ∧
      ∃ status body, env.fetchChannel channelId = some (status, some body) ∧
        200 ≤ status ∧ status < 300 ∧ parseGuildIdFromChannelPayload lib body = some guildId

/-- The routes a tenant with these guilds may use. -/
inductive RouteAllowed (lib : JsonLib) (env : RestEnv) (guilds : Finset Nat) (method : Str) :
    List Str → Prop
  | guild {id : Str} {guildId : Nat} {rest : List Str} (hId : parseSnowflake id = some guildId)
      (hGuild : guildId ∈ guilds) :
      RouteAllowed lib env guilds method ("guilds".toList :: id :: rest)
  | application {app id : Str} {guildId : Nat} {rest : List Str}
      (hId : parseSnowflake id = some guildId) (hGuild : guildId ∈ guilds) :
      RouteAllowed lib env guilds method
        ("applications".toList :: app :: "guilds".toList :: id :: rest)
  | channel {id : Str} {channelId guildId : Nat} {rest : List Str}
      (hId : parseSnowflake id = some channelId)
      (hResolves : ChannelResolves lib env channelId guildId) (hGuild : guildId ∈ guilds) :
      RouteAllowed lib env guilds method ("channels".toList :: id :: rest)
  | gatewayBot (hMethod : method = "GET".toList) :
      RouteAllowed lib env guilds method ["gateway".toList, "bot".toList]
  | usersMe (hMethod : method = "GET".toList) :
      RouteAllowed lib env guilds method ["users".toList, "@me".toList]

-- ---------------------------------------------------------------------------
-- Scopes
-- ---------------------------------------------------------------------------

/-- A scope that is not denied belongs to the route after an API prefix. -/
theorem resolveRouteScope_route {path : Str} {scope : RouteScope}
    (h : resolveRouteScope path = scope) (hScope : scope ≠ .deniedWithoutGuild) :
    ∃ route, ApiRoute path route ∧ routeScope route = scope := by
  unfold resolveRouteScope at h
  split at h
  · rename_i first second rest hSegments
    split at h
    · rename_i hPrefix
      obtain ⟨rfl, rfl⟩ := hPrefix
      split at h
      · exact absurd h.symm hScope
      · rename_i hRest
        exact ⟨rest, ⟨hRest, .inl hSegments⟩, h⟩
    · split at h
      · rename_i hPrefix
        rw [hPrefix] at hSegments
        exact ⟨second :: rest, ⟨by simp, .inr hSegments⟩, h⟩
      · exact absurd h.symm hScope
  · exact absurd h.symm hScope

theorem resolveRouteScope_of_apiRoute {path : Str} {route : List Str} (h : ApiRoute path route) :
    resolveRouteScope path = routeScope route := by
  obtain ⟨hRoute, hSegments | hSegments⟩ := h
  · rw [resolveRouteScope, hSegments]
    dsimp only
    rw [if_pos ⟨rfl, rfl⟩, if_neg hRoute]
  · cases route with
    | nil => exact absurd rfl hRoute
    | cons second rest =>
      rw [resolveRouteScope, hSegments]
      dsimp only
      rw [if_neg fun hPrefix => absurd hPrefix.1 (by decide), if_pos rfl]

/-- The routes of each scope. -/
inductive RouteCase : List Str → RouteScope → Prop
  | gatewayBot : RouteCase ["gateway".toList, "bot".toList] .allowedWithoutGuild
  | usersMe : RouteCase ["users".toList, "@me".toList] .allowedWithoutGuild
  | token {route : List Str} (hToken : TokenRoute route) : RouteCase route .allowedWithoutAuth
  | guild {id : Str} {guildId : Nat} {rest : List Str} (hId : parseSnowflake id = some guildId) :
      RouteCase ("guilds".toList :: id :: rest) (.guild guildId)
  | application {app id : Str} {guildId : Nat} {rest : List Str}
      (hId : parseSnowflake id = some guildId) :
      RouteCase ("applications".toList :: app :: "guilds".toList :: id :: rest) (.guild guildId)
  | channel {id : Str} {channelId : Nat} {rest : List Str}
      (hId : parseSnowflake id = some channelId) :
      RouteCase ("channels".toList :: id :: rest) (.channel channelId)
  | denied {route : List Str} : RouteCase route .deniedWithoutGuild

theorem two_segments {route : List Str} {kind : Str}
    (h : 2 ≤ route.length ∧ route[0]? = some kind) : ∃ id rest, route = kind :: id :: rest := by
  match route, h with
  | first :: id :: rest, h =>
    obtain rfl : first = kind := Option.some.inj h.2
    exact ⟨id, rest, rfl⟩

theorem three_segments {route : List Str} {kind : Str}
    (h : 3 ≤ route.length ∧ route[0]? = some kind) :
    ∃ id token rest, route = kind :: id :: token :: rest := by
  match route, h with
  | first :: id :: token :: rest, h =>
    obtain rfl : first = kind := Option.some.inj h.2
    exact ⟨id, token, rest, rfl⟩

theorem four_segments {route : List Str} {kind middle : Str}
    (h : 4 ≤ route.length ∧ route[0]? = some kind ∧ route[2]? = some middle) :
    ∃ app id rest, route = kind :: app :: middle :: id :: rest := by
  match route, h with
  | first :: app :: third :: id :: rest, h =>
    obtain rfl : first = kind := Option.some.inj h.2.1
    obtain rfl : third = middle := Option.some.inj h.2.2
    exact ⟨app, id, rest, rfl⟩

theorem routeScope_case (route : List Str) : RouteCase route (routeScope route) := by
  unfold routeScope
  split
  · rename_i hRoute
    exact hRoute ▸ .gatewayBot
  · split
    · rename_i hRoute
      exact hRoute ▸ .usersMe
    · split
      · rename_i hKind
        obtain ⟨id, token, rest, rfl⟩ := three_segments hKind
        split
        · exact .denied
        · rename_i _ hId
          split
          · exact .denied
          · exact .token ⟨_, id, token, rest, rfl, .inl rfl, Option.isSome_of_eq_some hId⟩
      · split
        · rename_i hKind
          obtain ⟨id, token, rest, rfl⟩ := three_segments hKind
          split
          · exact .denied
          · rename_i _ hId
            split
            · exact .denied
            · exact .token ⟨_, id, token, rest, rfl, .inr rfl, Option.isSome_of_eq_some hId⟩
        · split
          · rename_i hKind
            obtain ⟨id, rest, rfl⟩ := two_segments hKind
            split
            · exact .denied
            · rename_i guildId hId
              exact .guild hId
          · split
            · rename_i hKind
              obtain ⟨id, rest, rfl⟩ := two_segments hKind
              split
              · exact .denied
              · rename_i channelId hId
                exact .channel hId
            · split
              · rename_i hKind
                obtain ⟨app, id, rest, rfl⟩ := four_segments hKind
                split
                · exact .denied
                · rename_i guildId hId
                  exact .application hId
              · exact .denied

/-- The segments of a path are not empty. -/
theorem ne_nil_of_mem_pathSegments {path segment : Str} (h : segment ∈ pathSegments path) :
    segment ≠ [] := by
  have hTest := (List.mem_filter.mp h).2
  simpa using hTest

/-- A tokenised route skips the authentication. -/
theorem routeScope_token {kind id token : Str} {rest : List Str}
    (hKind : kind = "interactions".toList ∨ kind = "webhooks".toList)
    (hId : (parseSnowflake id).isSome = true) (hToken : token ≠ []) :
    routeScope (kind :: id :: token :: rest) = .allowedWithoutAuth := by
  obtain ⟨number, hNumber⟩ := Option.isSome_iff_exists.mp hId
  have hLong : ∀ a b : Str, kind :: id :: token :: rest ≠ [a, b] := by
    intro a b hEq
    have hLen := congrArg List.length hEq
    simp only [List.length_cons, List.length_nil] at hLen
    omega
  have hThree : 3 ≤ (kind :: id :: token :: rest).length := by
    simp only [List.length_cons]
    omega
  have hParsed : (kind :: id :: token :: rest)[1]?.bind parseSnowflake = some number := hNumber
  have hThird : ¬ (kind :: id :: token :: rest)[2]? = some [] :=
    fun hEmpty => hToken (Option.some.inj hEmpty)
  unfold routeScope
  rw [if_neg (hLong _ _), if_neg (hLong _ _)]
  rcases hKind with rfl | rfl
  · rw [if_pos ⟨hThree, rfl⟩, hParsed]
    exact if_neg hThird
  · rw [if_neg fun h => absurd (Option.some.inj h.2) (by decide), if_pos ⟨hThree, rfl⟩, hParsed]
    exact if_neg hThird

theorem resolveRouteScope_allowedWithoutAuth_iff {path : Str} :
    resolveRouteScope path = .allowedWithoutAuth ↔
      ∃ route, ApiRoute path route ∧ TokenRoute route := by
  constructor
  · intro hScope
    obtain ⟨route, hRoute, hRouteScope⟩ := resolveRouteScope_route hScope (by simp)
    have hCase := routeScope_case route
    rw [hRouteScope] at hCase
    cases hCase with
    | token hToken => exact ⟨route, hRoute, hToken⟩
  · rintro ⟨route, hRoute, kind, id, token, rest, rfl, hKind, hId⟩
    have hToken : token ≠ [] := by
      obtain ⟨-, hSegments | hSegments⟩ := hRoute
      · exact ne_nil_of_mem_pathSegments (show token ∈ pathSegments path by rw [hSegments]; simp)
      · exact ne_nil_of_mem_pathSegments (show token ∈ pathSegments path by rw [hSegments]; simp)
    rw [resolveRouteScope_of_apiRoute hRoute]
    exact routeScope_token hKind hId hToken

-- ---------------------------------------------------------------------------
-- The checks of a request
-- ---------------------------------------------------------------------------

theorem except_bind_eq_ok {ε α β : Type} {x : Except ε α} {f : α → Except ε β} {b : β} :
    (x >>= f) = .ok b ↔ ∃ a, x = .ok a ∧ f a = .ok b := by
  cases x with
  | ok a => simp [bind, Except.bind]
  | error e => simp [bind, Except.bind]

variable {cfg : Config} {lib : JsonLib} {env : RestEnv} {request : RestRequest}

/-- The checks that a forwarded request passed. -/
theorem handleRestRequest_ok {upstream : UpstreamRequest}
    (h : handleRestRequest cfg lib env request = .ok upstream) :
    isCanonicalPath (normalizePath request.path) = true ∧ ∃ authContext body,
      restAuthContext cfg env (resolveRouteScope (normalizePath request.path))
        (authHeader request.headers) = .ok authContext ∧
      checkRouteScope lib env (resolveRouteScope (normalizePath request.path)) request.method
        authContext = .ok () ∧
      request.body = some body ∧
      checkVoiceChange lib env request.method (normalizePath request.path) body authContext =
        .ok () ∧
      upstreamRequest cfg request (normalizePath request.path)
        (resolveRouteScope (normalizePath request.path)) authContext body = .ok upstream := by
  unfold handleRestRequest at h
  dsimp only at h
  split at h
  · simp at h
  · rename_i hCanonical
    obtain ⟨authContext, hAuth, h⟩ := except_bind_eq_ok.mp h
    obtain ⟨⟨⟩, hScope, h⟩ := except_bind_eq_ok.mp h
    obtain ⟨body, hBody, h⟩ := except_bind_eq_ok.mp h
    obtain ⟨⟨⟩, hVoice, h⟩ := except_bind_eq_ok.mp h
    refine ⟨by simpa using hCanonical, authContext, body, hAuth, hScope, ?_, hVoice, h⟩
    unfold readBody at hBody
    split at hBody
    · rename_i bytes hBytes
      rw [hBytes, Except.ok.inj hBody]
    · simp at hBody

/-- The header of the client is dropped, so an Authorization header upstream is
the bot's. -/
theorem upstream_authorization {path : Str} {scope : RouteScope}
    {authContext : Option AuthContext} {body : List UInt8} {upstream : UpstreamRequest}
    {value : List UInt8}
    (h : upstreamRequest cfg request path scope authContext body = .ok upstream)
    (hHeader : ("authorization".toList, value) ∈ upstream.headers) :
    authContext.isSome = true ∧ scope ≠ .allowedWithoutAuth := by
  unfold upstreamRequest at h
  split at h
  · simp at h
  · obtain rfl := Except.ok.inj h
    rcases List.mem_append.mp hHeader with hKept | hBot
    · have hSkip := (List.mem_filter.mp hKept).2
      simp [shouldSkipRequestHeader] at hSkip
    · split at hBot
      · rename_i hAttach
        simpa [shouldAttachBotAuthorization] using hAttach
      · simp at hBot

/-- The channel check passes only for a channel that resolves to a guild of
the tenant. -/
theorem channelResolves_of_response {channelId : Nat} {guilds : Finset Nat}
    (h : responseForChannelScope (resolveChannelGuildId lib env channelId) guilds = none) :
    ∃ guildId, ChannelResolves lib env channelId guildId ∧ guildId ∈ guilds := by
  have hFound : ∃ guildId, resolveChannelGuildId lib env channelId = .found guildId ∧
      guildId ∈ guilds := by
    unfold responseForChannelScope at h
    cases hLookup : resolveChannelGuildId lib env channelId with
    | found guildId =>
      refine ⟨guildId, rfl, ?_⟩
      by_contra hNot
      simp [hLookup, channelScopeDecision, hNot] at h
    | unknownChannel => simp [hLookup, channelScopeDecision] at h
    | missingGuild => simp [hLookup, channelScopeDecision] at h
    | lookupFailed => simp [hLookup, channelScopeDecision] at h
  obtain ⟨guildId, hLookup, hGuild⟩ := hFound
  refine ⟨guildId, ?_, hGuild⟩
  unfold resolveChannelGuildId at hLookup
  split at hLookup
  · rename_i cached hCached
    obtain rfl := ChannelGuildLookup.found.inj hLookup
    exact .inl hCached
  · rename_i hUncached
    unfold lookupChannelGuildId at hLookup
    split at hLookup
    · simp at hLookup
    · simp at hLookup
    · rename_i status body hFetch
      unfold classifyChannelLookupResponse at hLookup
      split at hLookup
      · simp at hLookup
      · split at hLookup
        · simp at hLookup
        · rename_i hStatus
          split at hLookup
          · rename_i payloadGuild hPayload
            obtain rfl := ChannelGuildLookup.found.inj hLookup
            have hRange := not_not.mp hStatus
            exact .inr ⟨hUncached, status, body, hFetch, hRange.1, hRange.2, hPayload⟩
          · simp at hLookup

/-- The path that was checked is the path that is forwarded. -/
theorem upstreamRequest_url {path : Str} {scope : RouteScope} {authContext : Option AuthContext}
    {body : List UInt8} {upstream : UpstreamRequest}
    (h : upstreamRequest cfg request path scope authContext body = .ok upstream) :
    upstream.url = discordRestBaseUrl cfg ++ path ++ request.query.elim [] ('?' :: ·) := by
  unfold upstreamRequest at h
  split at h
  · cases h
  · rw [← Except.ok.inj h]

/-- What the scope check asks of a tenant's route. -/
theorem checkRouteScope_client {ctx : AuthContext} {clientId : Str} {guilds : Finset Nat}
    {scope : RouteScope} (hClient : ctx.principal = .client clientId)
    (hGuilds : ctx.authorizedGuilds = some guilds)
    (h : checkRouteScope lib env scope request.method (some ctx) = .ok ()) :
    (∃ channelId, scope = .channel channelId ∧
      responseForChannelScope (resolveChannelGuildId lib env channelId) guilds = none) ∨
    isClientAuthorizedForRoute guilds scope request.method = true := by
  have hContext : (some ctx).bind (fun ctx => ctx.principal.clientId.map
      fun _ => ctx.authorizedGuilds) = some (some guilds) := by
    rw [Option.bind_some, hClient, hGuilds]
    rfl
  unfold checkRouteScope at h
  rw [hContext] at h
  dsimp only at h
  split at h
  · rename_i channelId
    split at h
    · simp at h
    · rename_i hResponse
      exact .inl ⟨channelId, rfl, hResponse⟩
  · split at h
    · rename_i hAuthorized
      exact .inr hAuthorized
    · simp at h

/-- The scope check lets a tenant through only on a route of its guilds. -/
theorem routeAllowed_of_checkRouteScope {ctx : AuthContext} {clientId path : Str}
    {guilds : Finset Nat} (hClient : ctx.principal = .client clientId)
    (hGuilds : ctx.authorizedGuilds = some guilds)
    (hAuth : resolveRouteScope path ≠ .allowedWithoutAuth)
    (h : checkRouteScope lib env (resolveRouteScope path) request.method (some ctx) = .ok ()) :
    ∃ route, ApiRoute path route ∧ RouteAllowed lib env guilds request.method route := by
  have hCheck := checkRouteScope_client hClient hGuilds h
  have hDenied : resolveRouteScope path ≠ .deniedWithoutGuild := by
    intro hScope
    rw [hScope] at hCheck
    rcases hCheck with ⟨channelId, hChannel, -⟩ | hAuthorized
    · simp at hChannel
    · simp [isClientAuthorizedForRoute] at hAuthorized
  obtain ⟨route, hRoute, hScope⟩ := resolveRouteScope_route rfl hDenied
  refine ⟨route, hRoute, ?_⟩
  have hCase := routeScope_case route
  rw [hScope] at hCase
  rcases hCheck with ⟨channelId, hChannel, hResponse⟩ | hAuthorized
  · rw [hChannel] at hCase
    obtain ⟨guildId, hResolves, hGuild⟩ := channelResolves_of_response hResponse
    cases hCase with
    | channel hId => exact .channel hId hResolves hGuild
  · cases hRouteScope : resolveRouteScope path with
    | guild guildId =>
      rw [hRouteScope] at hCase hAuthorized
      have hGuild : guildId ∈ guilds := of_decide_eq_true hAuthorized
      cases hCase with
      | guild hId => exact .guild hId hGuild
      | application hId => exact .application hId hGuild
    | channel channelId =>
      rw [hRouteScope] at hAuthorized
      simp [isClientAuthorizedForRoute] at hAuthorized
    | allowedWithoutGuild =>
      rw [hRouteScope] at hCase hAuthorized
      have hMethod : request.method = "GET".toList := of_decide_eq_true hAuthorized
      cases hCase with
      | gatewayBot => exact .gatewayBot hMethod
      | usersMe => exact .usersMe hMethod
    | allowedWithoutAuth => exact absurd hRouteScope hAuth
    | deniedWithoutGuild => exact absurd hRouteScope hDenied

theorem restAuthContext_ok {scope : RouteScope} {header : Str} {authContext : Option AuthContext}
    (h : restAuthContext cfg env scope header = .ok authContext)
    (hScope : scope ≠ .allowedWithoutAuth) :
    ∃ ctx, authContext = some ctx ∧
      authenticateGatewayToken cfg env.clients env.dataState header = .ok ctx := by
  unfold restAuthContext at h
  rw [if_neg hScope] at h
  split at h
  · rename_i ctx hAuth
    exact ⟨ctx, (Except.ok.inj h).symm, hAuth⟩
  · simp at h
  · simp at h

-- ---------------------------------------------------------------------------
-- Errors
-- ---------------------------------------------------------------------------

theorem except_bind_eq_error {ε α β : Type} {x : Except ε α} {f : α → Except ε β} {e : ε} :
    (x >>= f) = .error e ↔ x = .error e ∨ ∃ a, x = .ok a ∧ f a = .error e := by
  cases x with
  | ok a => simp [bind, Except.bind]
  | error e => simp [bind, Except.bind]

theorem restAuthContext_error {scope : RouteScope} {header : Str} {response : RestResponse}
    (h : restAuthContext cfg env scope header = .error response) : 400 ≤ response.status := by
  unfold restAuthContext at h
  split at h
  · simp at h
  · split at h
    · simp at h
    · obtain rfl := Except.error.inj h
      show 400 ≤ 503
      omega
    · obtain rfl := Except.error.inj h
      show 400 ≤ 401
      omega

theorem responseForChannelScope_status {lookup : ChannelGuildLookup} {guilds : Finset Nat}
    {response : RestResponse} (h : responseForChannelScope lookup guilds = some response) :
    400 ≤ response.status := by
  unfold responseForChannelScope at h
  split at h
  · simp at h
  · obtain rfl := Option.some.inj h
    show 400 ≤ 404
    omega
  · obtain rfl := Option.some.inj h
    show 400 ≤ 502
    omega
  · obtain rfl := Option.some.inj h
    show 400 ≤ 403
    omega

theorem checkRouteScope_error {scope : RouteScope} {method : Str}
    {authContext : Option AuthContext} {response : RestResponse}
    (h : checkRouteScope lib env scope method authContext = .error response) :
    400 ≤ response.status := by
  unfold checkRouteScope at h
  split at h
  · simp at h
  · obtain rfl := Except.error.inj h
    show 400 ≤ 403
    omega
  · split at h
    · split at h
      · rename_i error hResponse
        obtain rfl := Except.error.inj h
        exact responseForChannelScope_status hResponse
      · simp at h
    · split at h
      · simp at h
      · obtain rfl := Except.error.inj h
        show 400 ≤ 403
        omega

theorem checkVoiceChange_error {method path : Str} {body : List UInt8}
    {authContext : Option AuthContext} {response : RestResponse}
    (h : checkVoiceChange lib env method path body authContext = .error response) :
    400 ≤ response.status := by
  unfold checkVoiceChange at h
  split at h
  · simp at h
  · split at h
    · simp at h
    · split at h
      · obtain rfl := Except.error.inj h
        show 400 ≤ 403
        omega
      · simp at h

/-- Every answer that is not a forwarded request is an error. -/
theorem handleRestRequest_error {response : RestResponse}
    (h : handleRestRequest cfg lib env request = .error response) : 400 ≤ response.status := by
  unfold handleRestRequest at h
  dsimp only at h
  split at h
  · obtain rfl := Except.error.inj h
    show 400 ≤ 400
    omega
  · rcases except_bind_eq_error.mp h with hAuth | ⟨authContext, -, h⟩
    · exact restAuthContext_error hAuth
    · rcases except_bind_eq_error.mp h with hScope | ⟨⟨⟩, -, h⟩
      · exact checkRouteScope_error hScope
      · rcases except_bind_eq_error.mp h with hBody | ⟨body, -, h⟩
        · unfold readBody at hBody
          split at hBody
          · simp at hBody
          · obtain rfl := Except.error.inj hBody
            show 400 ≤ 413
            omega
        · rcases except_bind_eq_error.mp h with hVoice | ⟨⟨⟩, -, h⟩
          · exact checkVoiceChange_error hVoice
          · unfold upstreamRequest at h
            split at h
            · obtain rfl := Except.error.inj h
              show 400 ≤ 405
              omega
            · cases h

-- ---------------------------------------------------------------------------
-- What is passed on
-- ---------------------------------------------------------------------------

/-- A forwarded request of a tenant, other than on a tokenised route, is on a
canonical path and an allowed route. -/
theorem forwarded_client_allowed {upstream : UpstreamRequest} {ctx : AuthContext}
    {clientId : Str} {guilds : Finset Nat}
    (h : handleRestRequest cfg lib env request = .ok upstream)
    (hAuth : authenticateGatewayToken cfg env.clients env.dataState
      (authHeader request.headers) = .ok ctx)
    (hClient : ctx.principal = .client clientId) (hGuilds : ctx.authorizedGuilds = some guilds)
    (hScope : resolveRouteScope (normalizePath request.path) ≠ .allowedWithoutAuth) :
    isCanonicalPath (normalizePath request.path) = true ∧
      ∃ route, ApiRoute (normalizePath request.path) route ∧
        RouteAllowed lib env guilds request.method route := by
  obtain ⟨hCanonical, authContext, body, hContext, hCheck, -, -, -⟩ := handleRestRequest_ok h
  obtain ⟨ctx', rfl, hAuth'⟩ := restAuthContext_ok hContext hScope
  obtain rfl : ctx' = ctx := by
    rw [hAuth] at hAuth'
    exact (GatewayAuthResult.ok.inj hAuth').symm
  exact ⟨hCanonical, routeAllowed_of_checkRouteScope hClient hGuilds hScope hCheck⟩

/-- **REST scope soundness.** A request goes upstream with the bot token only
if it is not on a tokenised route and its header authenticates, and then, for a
tenant, only on a canonical path and an allowed route, which is the path that is
forwarded. A tenant's request on any other route is answered with an error,
unless the route carries its own token. -/
theorem rest_scope_sound (cfg : Config) (lib : JsonLib) (env : RestEnv) (request : RestRequest) :
    (∀ upstream value, handleRestRequest cfg lib env request = .ok upstream →
      ("authorization".toList, value) ∈ upstream.headers →
      (¬ ∃ route, ApiRoute (normalizePath request.path) route ∧ TokenRoute route) ∧
      upstream.url = discordRestBaseUrl cfg ++ normalizePath request.path ++
        request.query.elim [] ('?' :: ·) ∧
      ∃ ctx, authenticateGatewayToken cfg env.clients env.dataState
          (authHeader request.headers) = .ok ctx ∧
        ∀ clientId guilds, ctx.principal = .client clientId →
          ctx.authorizedGuilds = some guilds →
          isCanonicalPath (normalizePath request.path) = true ∧
          ∃ route, ApiRoute (normalizePath request.path) route ∧
            RouteAllowed lib env guilds request.method route) ∧
    ∀ ctx clientId guilds,
      authenticateGatewayToken cfg env.clients env.dataState (authHeader request.headers) =
        .ok ctx →
      ctx.principal = .client clientId → ctx.authorizedGuilds = some guilds →
      (∀ route, ApiRoute (normalizePath request.path) route →
        ¬ TokenRoute route ∧ ¬ RouteAllowed lib env guilds request.method route) →
      ∃ response, handleRestRequest cfg lib env request = .error response ∧
        400 ≤ response.status := by
  constructor
  · intro upstream value h hHeader
    obtain ⟨hCanonical, authContext, body, hContext, hCheck, -, -, hUpstream⟩ :=
      handleRestRequest_ok h
    obtain ⟨hSome, hScope⟩ := upstream_authorization hUpstream hHeader
    obtain ⟨ctx, rfl, hAuth⟩ := restAuthContext_ok hContext hScope
    refine ⟨fun hToken => hScope (resolveRouteScope_allowedWithoutAuth_iff.mpr hToken), ?_,
      ctx, hAuth, fun clientId guilds hClient hGuilds =>
        forwarded_client_allowed h hAuth hClient hGuilds hScope⟩
    exact upstreamRequest_url hUpstream
  · intro ctx clientId guilds hAuth hClient hGuilds hOther
    cases hResult : handleRestRequest cfg lib env request with
    | error response => exact ⟨response, rfl, handleRestRequest_error hResult⟩
    | ok upstream =>
      have hScope : resolveRouteScope (normalizePath request.path) ≠ .allowedWithoutAuth := by
        intro hToken
        obtain ⟨route, hRoute, hIsToken⟩ := resolveRouteScope_allowedWithoutAuth_iff.mp hToken
        exact (hOther route hRoute).1 hIsToken
      obtain ⟨-, route, hRoute, hAllowed⟩ :=
        forwarded_client_allowed hResult hAuth hClient hGuilds hScope
      exact absurd hAllowed (hOther route hRoute).2

end GatewayProxy
