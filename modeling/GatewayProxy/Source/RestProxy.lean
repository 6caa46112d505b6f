import GatewayProxy.Source.Model
import GatewayProxy.Source.State

/-!
# The REST proxy

`rest_proxy.rs`: which guild a request path belongs to, who may use the route,
and `handle_rest_request` up to the request it sends to Discord. Its result is
either an error response or that upstream request. What Discord answers is
returned to the client and decides nothing, except in the channel lookup,
whose answer is a parameter (`RestEnv.fetchChannel`).
-/

namespace GatewayProxy

open Utf8 Assoc

inductive RouteScope
  | guild (guildId : Nat)
  | channel (channelId : Nat)
  | allowedWithoutGuild
  | allowedWithoutAuth
  | deniedWithoutGuild
  deriving DecidableEq

inductive ChannelGuildLookup
  | found (guildId : Nat)
  | unknownChannel
  | missingGuild
  | lookupFailed
  deriving DecidableEq

inductive ChannelScopeDecision
  | allow
  | unknownChannel
  | lookupFailed
  | forbidden (guildId : Option Nat)
  deriving DecidableEq

structure RestResponse where
  status : Nat
  payload : Str
  deriving DecidableEq

def jsonError (status : Nat) (message : Str) : RestResponse :=
  ⟨status, "\x7b\"error\":\"".toList ++ replace ['"'] "\\\"".toList message ++ "\"\x7d".toList⟩

def unknownChannelError : RestResponse :=
  ⟨404, "\x7b\"message\":\"Unknown Channel\",\"code\":10003\x7d".toList⟩

def outsideScope : Str := "REST route is outside the authorized guild scope".toList

-- ---------------------------------------------------------------------------
-- Paths
-- ---------------------------------------------------------------------------

def parseSnowflake (value : Str) : Option Nat := parseU64 value

/-- The segments of a path that are not empty. -/
def pathSegments (path : Str) : List Str :=
  (split '/' (path.dropWhile (· == '/'))).filter (· ≠ [])

/-- The scope of the segments after the API prefix. -/
def routeScope (route : List Str) : RouteScope :=
  -- exact routes only
  if route = ["gateway".toList, "bot".toList] then .allowedWithoutGuild
  else if route = ["users".toList, "@me".toList] then .allowedWithoutGuild
  else if 3 ≤ route.length ∧ route[0]? = some "interactions".toList then
    match route[1]?.bind parseSnowflake with
    | none => .deniedWithoutGuild
    | some _ => if route[2]? = some [] then .deniedWithoutGuild else .allowedWithoutAuth
  else if 3 ≤ route.length ∧ route[0]? = some "webhooks".toList then
    match route[1]?.bind parseSnowflake with
    | none => .deniedWithoutGuild
    | some _ => if route[2]? = some [] then .deniedWithoutGuild else .allowedWithoutAuth
  else if 2 ≤ route.length ∧ route[0]? = some "guilds".toList then
    match route[1]?.bind parseSnowflake with
    | none => .deniedWithoutGuild
    | some guildId => .guild guildId
  else if 2 ≤ route.length ∧ route[0]? = some "channels".toList then
    match route[1]?.bind parseSnowflake with
    | none => .deniedWithoutGuild
    | some channelId => .channel channelId
  else if 4 ≤ route.length ∧ route[0]? = some "applications".toList ∧
      route[2]? = some "guilds".toList then
    match route[3]?.bind parseSnowflake with
    | none => .deniedWithoutGuild
    | some guildId => .guild guildId
  else .deniedWithoutGuild

def resolveRouteScope (path : Str) : RouteScope :=
  match pathSegments path with
  | first :: second :: rest =>
    if first = "api".toList ∧ second = "v10".toList then
      if rest = [] then .deniedWithoutGuild else routeScope rest
    else if first = "v10".toList then routeScope (second :: rest)
    else .deniedWithoutGuild
  | _ => .deniedWithoutGuild

/-- A hexadecimal digit, in either case. -/
def hexDigit? (b : UInt8) : Option Nat :=
  if 48 ≤ b.toNat ∧ b.toNat ≤ 57 then some (b.toNat - 48)
  else if 65 ≤ b.toNat ∧ b.toNat ≤ 70 then some (b.toNat - 55)
  else if 97 ≤ b.toNat ∧ b.toNat ≤ 102 then some (b.toNat - 87)
  else none

/-- `u8::from_str_radix(hex, 16)` on two bytes; it takes a leading plus. -/
def hexByte? (hi lo : UInt8) : Option UInt8 :=
  if hi = 43 then (hexDigit? lo).map UInt8.ofNat
  else (hexDigit? hi).bind fun h => (hexDigit? lo).map fun l => UInt8.ofNat (16 * h + l)

/-- The bytes with every `%XX` replaced. -/
def percentDecodeBytes : List UInt8 → Option (List UInt8)
  | [] => some []
  | [b] => if b = 37 then none else some [b]
  | [b, c] => if b = 37 then none else (percentDecodeBytes [c]).map (b :: ·)
  | b :: hi :: lo :: rest =>
    if b = 37 then
      (hexByte? hi lo).bind fun byte => (percentDecodeBytes rest).map (byte :: ·)
    else (percentDecodeBytes (hi :: lo :: rest)).map (b :: ·)

def percentDecode (segment : Str) : Option Str :=
  (percentDecodeBytes (toBytes segment)).bind fromBytes

def isCanonicalSegment (segment : Str) : Bool :=
  match percentDecode segment with
  | none => false
  | some decoded =>
    decoded ≠ [] && decoded ≠ ['.'] && decoded ≠ ['.', '.'] &&
      !decoded.any fun c => c == '/' || c == '\\'

/-- Rejects paths the upstream client would rewrite before sending. -/
def isCanonicalPath (path : Str) : Bool :=
  match stripPrefix ['/'] path with
  | none => false
  | some rest => (split '/' rest).all isCanonicalSegment

def normalizePath (path : Str) : Str :=
  let path := if (stripPrefix "/v10/".toList path).isSome then "/api".toList ++ path else path
  replace "/users/%40ME".toList "/users/@me".toList
    (replace "/users/%40me".toList "/users/@me".toList path)

-- ---------------------------------------------------------------------------
-- Authorisation of a route
-- ---------------------------------------------------------------------------

def isClientAuthorizedForRoute (authorizedGuilds : Finset Nat) (scope : RouteScope)
    (method : Str) : Bool :=
  match scope with
  | .guild guildId => guildId ∈ authorizedGuilds
  | .channel _ => false
  -- these routes are not scoped to a guild, and read-only
  | .allowedWithoutGuild => method = "GET".toList
  | .allowedWithoutAuth => true
  | .deniedWithoutGuild => false

/-- The guild whose shared bot voice state a request changes. An unknown bot id
or an unreadable body counts as a change. -/
def botVoiceChangeGuild (lib : JsonLib) (method path : Str) (body : List UInt8)
    (botUserId : Option Nat) : Option Nat :=
  if method ≠ "PATCH".toList then none
  else
    match (pathSegments path).dropWhile fun s => s == "api".toList || s == "v10".toList with
    | [first, guildId, resource, target] =>
      match parseSnowflake guildId with
      | none => none
      | some guildId =>
        let isBot := target == "@me".toList || eqIgnoreAsciiCase target "%40me".toList ||
          match botUserId with
          | none => true
          | some botUserId => parseSnowflake target == some botUserId
        if first ≠ "guilds".toList ∨ !isBot then none
        else if resource = "voice-states".toList then some guildId
        else if resource = "members".toList then
          match (fromBytes body).bind lib.parseKeys with
          | none => some guildId
          | some keys =>
            if ["channel_id".toList, "mute".toList, "deaf".toList].any keys.contains then
              some guildId
            else none
        else none
    | _ => none

def shouldAttachBotAuthorization (scope : RouteScope) (hasAuthContext : Bool) : Bool :=
  hasAuthContext && scope ≠ .allowedWithoutAuth

def shouldSkipRequestHeader (name : Str) : Bool :=
  ["authorization".toList, "host".toList, "connection".toList, "transfer-encoding".toList,
    "content-length".toList, "accept-encoding".toList].contains name

def discordRestBaseUrl (cfg : Config) : Str :=
  match cfg.twilightHttpProxy with
  | some proxy =>
    if (stripPrefix "http://".toList proxy).isSome || (stripPrefix "https://".toList proxy).isSome
    then proxy
    else "http://".toList ++ proxy
  | none => "https://discord.com".toList

-- ---------------------------------------------------------------------------
-- Channels
-- ---------------------------------------------------------------------------

def parseGuildIdValue : JsonScalar → Option Nat
  | .string s => parseSnowflake s
  | .unsigned n => some n
  | .other => none

def parseGuildIdFromChannelPayload (lib : JsonLib) (rawPayload : List UInt8) : Option Nat :=
  (lib.objectGuildId rawPayload).bind parseGuildIdValue

def classifyChannelLookupResponse (lib : JsonLib) (status : Nat) (rawPayload : List UInt8) :
    ChannelGuildLookup :=
  if status = 404 then .unknownChannel
  else if ¬ (200 ≤ status ∧ status < 300) then .lookupFailed
  else match parseGuildIdFromChannelPayload lib rawPayload with
    | some guildId => .found guildId
    | none => .missingGuild

def channelScopeDecision (lookup : ChannelGuildLookup) (authorizedGuilds : Finset Nat) :
    ChannelScopeDecision :=
  match lookup with
  | .found guildId => if guildId ∈ authorizedGuilds then .allow else .forbidden (some guildId)
  | .unknownChannel => .unknownChannel
  | .missingGuild => .forbidden none
  | .lookupFailed => .lookupFailed

def responseForChannelScope (lookup : ChannelGuildLookup) (authorizedGuilds : Finset Nat) :
    Option RestResponse :=
  match channelScopeDecision lookup authorizedGuilds with
  | .allow => none
  | .unknownChannel => some unknownChannelError
  | .lookupFailed => some (jsonError 502 "Failed to resolve channel guild scope".toList)
  | .forbidden _ => some (jsonError 403 outsideScope)

/-- What a request reads from outside. The shared state is read for the channel
and again, after the body arrived, for the voice owner. -/
structure RestEnv where
  clients : Clients
  dataState : ClientDataState
  inner : Inner
  innerAfterBody : Inner
  /-- Discord's answer for a channel: none when the request failed, and a body
  of none when it could not be read -/
  fetchChannel : Nat → Option (Nat × Option (List UInt8))

def lookupChannelGuildId (lib : JsonLib) (env : RestEnv) (channelId : Nat) : ChannelGuildLookup :=
  match env.fetchChannel channelId with
  | none => .lookupFailed
  | some (_, none) => .lookupFailed
  | some (status, some body) => classifyChannelLookupResponse lib status body

def resolveChannelGuildId (lib : JsonLib) (env : RestEnv) (channelId : Nat) :
    ChannelGuildLookup :=
  match env.inner.resolveGuildIdForChannel channelId with
  | some guildId => .found guildId
  | none => lookupChannelGuildId lib env channelId

-- ---------------------------------------------------------------------------
-- A request
-- ---------------------------------------------------------------------------

/-- Header names are lower case. -/
structure RestRequest where
  path : Str
  query : Option Str
  method : Str
  headers : List (Str × List UInt8)
  /-- none when the body is too large or unreadable -/
  body : Option (List UInt8)
  deriving DecidableEq

structure UpstreamRequest where
  method : Str
  url : Str
  headers : List (Str × List UInt8)
  body : List UInt8
  deriving DecidableEq

/-- `HeaderValue::to_str`: visible ASCII and tabs only. -/
def headerToStr (value : List UInt8) : Option Str :=
  if value.all fun b => (32 ≤ b.toNat && b.toNat < 127) || b.toNat == 9 then
    some (value.map fun b => Char.ofNat b.toNat)
  else none

def authHeader (headers : List (Str × List UInt8)) : Str :=
  ((headers.lookup "authorization".toList).bind headerToStr).elim [] normalizeGatewayToken

/-- `Method::from_bytes` takes any token. -/
def methodFromBytes (method : Str) : Option Str :=
  if method ≠ [] ∧ method.all fun c => c.isAlphanum || "!#$%&'*+-.^_`|~".toList.contains c then
    some method
  else none

/-- Tokenised routes skip the authentication. -/
def restAuthContext (cfg : Config) (env : RestEnv) (scope : RouteScope) (header : Str) :
    Except RestResponse (Option AuthContext) :=
  if scope = .allowedWithoutAuth then .ok none
  else match authenticateGatewayToken cfg env.clients env.dataState header with
    | .ok ctx => .ok (some ctx)
    | .stale => .error (jsonError 503 "Auth backend temporarily unavailable".toList)
    | .invalid => .error (jsonError 401 "Invalid or missing credentials".toList)

/-- The scope check of a tenant. -/
def checkRouteScope (lib : JsonLib) (env : RestEnv) (scope : RouteScope) (method : Str)
    (authContext : Option AuthContext) : Except RestResponse Unit :=
  match authContext.bind fun ctx => ctx.principal.clientId.map fun _ => ctx.authorizedGuilds with
  | none => .ok ()
  | some none => .error (jsonError 403 "Missing guild authorization".toList)
  | some (some authorizedGuilds) =>
    match scope with
    | .channel channelId =>
      match responseForChannelScope (resolveChannelGuildId lib env channelId) authorizedGuilds with
      | some error => .error error
      | none => .ok ()
    | scope =>
      if isClientAuthorizedForRoute authorizedGuilds scope method then .ok ()
      else .error (jsonError 403 outsideScope)

def readBody (body : Option (List UInt8)) : Except RestResponse (List UInt8) :=
  match body with
  | some bytes => .ok bytes
  | none => .error (jsonError 413 "Request body too large or unreadable".toList)

/-- The voice owner lock. -/
def checkVoiceChange (lib : JsonLib) (env : RestEnv) (method path : Str) (body : List UInt8)
    (authContext : Option AuthContext) : Except RestResponse Unit :=
  match authContext.bind fun ctx => ctx.principal.clientId with
  | none => .ok ()
  | some clientId =>
    match botVoiceChangeGuild lib method path body env.innerAfterBody.botUserId with
    | none => .ok ()
    | some guildId =>
      if env.innerAfterBody.voiceOwner guildId ≠ some clientId then
        .error (jsonError 403
          "Only the voice owner of this guild can change the bot's voice state".toList)
      else .ok ()

def upstreamRequest (cfg : Config) (request : RestRequest) (path : Str) (scope : RouteScope)
    (authContext : Option AuthContext) (body : List UInt8) :
    Except RestResponse UpstreamRequest :=
  match methodFromBytes request.method with
  | none => .error (jsonError 405 "Unsupported HTTP method".toList)
  | some method => .ok
      { method := method
        url := discordRestBaseUrl cfg ++ path ++ request.query.elim [] ('?' :: ·)
        headers := request.headers.filter (fun h => !shouldSkipRequestHeader h.1) ++
          if shouldAttachBotAuthorization scope authContext.isSome then
            [("authorization".toList, toBytes ("Bot ".toList ++ cfg.token))]
          else []
        body := body }

def handleRestRequest (cfg : Config) (lib : JsonLib) (env : RestEnv) (request : RestRequest) :
    Except RestResponse UpstreamRequest :=
  let path := normalizePath request.path
  if !isCanonicalPath path then .error (jsonError 400 "Non-canonical request path".toList)
  else do
    let scope := resolveRouteScope path
    let authContext ← restAuthContext cfg env scope (authHeader request.headers)
    checkRouteScope lib env scope request.method authContext
    let body ← readBody request.body
    checkVoiceChange lib env request.method path body authContext
    upstreamRequest cfg request path scope authContext body

end GatewayProxy
