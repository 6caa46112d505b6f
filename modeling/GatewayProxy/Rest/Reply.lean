import GatewayProxy.Rest.CanonicalPath
import GatewayProxy.Source.RestResponse

/-!
# What a REST request is answered

The answer of Discord is passed on, but for the headers that frame it. Only the
answer of `gateway/bot` is rewritten, so that clients connect to the proxy and
not to Discord. The code compares the path as text, while Discord decodes it: a
tenant has one spelling for that route, the bot token has more.

Main results:

* `lookup_headers`: what the loop over the headers leaves of them.
* `gatewayBot_spelling`: the one spelling that passes the checks of a tenant.
* `rest_reply_exact`: the answer to any request.
-/

namespace GatewayProxy

open Utf8 Assoc Percent

/-- The last value of a name. -/
def lastValue (headers : List (Str × List UInt8)) (name : Str) : Option (List UInt8) :=
  (headers.filter fun header => header.1 = name).getLast?.map Prod.snd

/-- What is written is read back, as a map. -/
def ValueLib.RoundTrips (json : ValueLib) : Prop :=
  ∀ object bytes, json.fromObject object = some bytes →
    ∃ object', json.toObject bytes = some object' ∧ ∀ key, object'.lookup key = object.lookup key

/-- The object of the body with the URL of the proxy as its `url`, and every
other member as it was. -/
def UrlReplaced (cfg : Config) (json : ValueLib) (body body' : List UInt8) : Prop :=
  ∃ object object', json.toObject body = some object ∧ json.toObject body' = some object' ∧
    ∀ key, object'.lookup key = if key = "url".toList then
      some (.string cfg.externallyAccessibleUrl) else object.lookup key

/-- The segments of the path, percent-decoded by the receiver. -/
def decodedSegments (path : Str) : List (List UInt8) :=
  (pathSegments path).map fun segment => decodeAll (toBytes segment)

/-- The route of `gateway/bot`, decoded. -/
def gatewayBotSegments : List (List UInt8) :=
  ["api", "v10", "gateway", "bot"].map fun name => toBytes name.toList

/-- The answer passes on what Discord answered. -/
structure PassedOn (cfg : Config) (json : ValueLib) (path : Str) (response : UpstreamResponse)
    (reply : ClientResponse) : Prop where
  status : reply.status =
    if 100 ≤ response.status ∧ response.status < 1000 then response.status else 502
  headers : ∀ name, reply.headers.lookup name =
    if name = "transfer-encoding".toList ∨ name = "content-length".toList then none
    else lastValue response.headers name
  body : ∃ body, response.body = some body ∧
    if path = "/api/v10/gateway/bot".toList ∧ 200 ≤ reply.status ∧ reply.status < 300 then
      UrlReplaced cfg json body reply.body
    else reply.body = body

-- ---------------------------------------------------------------------------
-- Headers and body
-- ---------------------------------------------------------------------------

/-- The values of one name, in order. -/
theorem foldl_values (name : Str) (headers : List (Str × List UInt8))
    (hName : ∀ header ∈ headers, header.1 = name) (old : Option (List UInt8)) :
    headers.foldl (fun value header =>
        if shouldSkipResponseHeader header.1 then value else some header.2) old =
      if shouldSkipResponseHeader name then old else (headers.getLast?.map Prod.snd).or old := by
  induction headers generalizing old with
  | nil => simp
  | cons header rest ih =>
    have hHead := hName header (List.mem_cons_self ..)
    rw [List.foldl_cons, ih (fun h hMem => hName h (List.mem_cons_of_mem _ hMem)), hHead]
    by_cases hSkip : shouldSkipResponseHeader name = true
    · rw [if_pos hSkip, if_pos hSkip, if_pos hSkip]
    · rw [if_neg hSkip, if_neg hSkip, if_neg hSkip, List.getLast?_cons]
      cases rest.getLast? <;> rfl

/-- **The headers.** A kept name has the last of its values. -/
theorem lookup_headers (status : Nat) (headers : List (Str × List UInt8)) (body : List UInt8)
    (name : Str) : (buildResponse status headers body).headers.lookup name =
      if shouldSkipResponseHeader name then none else lastValue headers name := by
  let entry (value : Option (List UInt8)) (header : Str × List UInt8) : Option (List UInt8) :=
    if shouldSkipResponseHeader header.1 then value else some header.2
  have hStep : ∀ (built : Map Str (List UInt8)) (header : Str × List UInt8) (k : Str),
      (if shouldSkipResponseHeader header.1 then built else built.insert header.1 header.2).lookup k
        = if k = header.1 then entry (built.lookup k) header else built.lookup k := by
    intro built header k
    by_cases hSkip : shouldSkipResponseHeader header.1 = true
    · simp only [entry, if_pos hSkip, ite_self]
    · simp only [entry, if_neg hSkip, Map.lookup_insert_eq]
  have hValues := foldl_values name (headers.filter fun header => header.1 = name)
    (fun header hMem => of_decide_eq_true (List.mem_filter.mp hMem).2) none
  rw [Option.or_none] at hValues
  exact (Map.lookup_foldl hStep headers ∅ name).trans hValues

theorem shouldSkipResponseHeader_iff {name : Str} : shouldSkipResponseHeader name = true ↔
    name = "transfer-encoding".toList ∨ name = "content-length".toList := by
  rw [shouldSkipResponseHeader, List.contains_iff_mem]
  simp only [List.mem_cons, List.not_mem_nil, or_false]

/-- The status and the headers of an answer that is passed on. -/
theorem buildResponse_passed (response : UpstreamResponse) (body : List UInt8) :
    (buildResponse ((statusFromU16 response.status).getD 502) response.headers body).status =
        (if 100 ≤ response.status ∧ response.status < 1000 then response.status else 502) ∧
      ∀ name, (buildResponse ((statusFromU16 response.status).getD 502) response.headers
          body).headers.lookup name =
        if name = "transfer-encoding".toList ∨ name = "content-length".toList then none
        else lastValue response.headers name := by
  constructor
  · show (statusFromU16 response.status).getD 502 = _
    unfold statusFromU16
    split <;> rfl
  · intro name
    rw [lookup_headers]
    exact if_congr shouldSkipResponseHeader_iff rfl rfl

theorem urlReplaced_of_rewrite {cfg : Config} {json : ValueLib} (hJson : json.RoundTrips)
    {body rewritten : List UInt8} (h : rewriteGatewayBotPayload cfg json body = some rewritten) :
    UrlReplaced cfg json body rewritten := by
  unfold rewriteGatewayBotPayload at h
  split at h
  · cases h
  · rename_i object hObject
    obtain ⟨object', hRead, hLookup⟩ := hJson _ _ h
    refine ⟨object, object', hObject, hRead, fun key => ?_⟩
    rw [hLookup, Map.lookup_insert_eq]

/-- What becomes of the answer of Discord: an error of the proxy's own, or it is
passed on. -/
theorem answerFrom_cases (cfg : Config) {json : ValueLib} (hJson : json.RoundTrips) (path : Str)
    (answer : Option UpstreamResponse) :
    (∃ message, answerFrom cfg json path answer = (jsonError 502 message).toClient) ∨
    ∃ response, answer = some response ∧
      PassedOn cfg json path response (answerFrom cfg json path answer) := by
  unfold answerFrom
  split
  · exact .inl ⟨_, rfl⟩
  · rename_i response
    dsimp only
    split
    · exact .inl ⟨_, rfl⟩
    · rename_i body hBody
      have hSuccess : path = gatewayBotPath ∧
          isSuccess ((statusFromU16 response.status).getD 502) = true ↔
          path = "/api/v10/gateway/bot".toList ∧
            200 ≤ (statusFromU16 response.status).getD 502 ∧
            (statusFromU16 response.status).getD 502 < 300 := by
        unfold gatewayBotPath isSuccess
        rw [Bool.and_eq_true, decide_eq_true_iff, decide_eq_true_iff]
      split
      · rename_i hBot
        split
        · exact .inl ⟨_, rfl⟩
        · rename_i rewritten hRewritten
          obtain ⟨hStatus, hHeaders⟩ := buildResponse_passed response rewritten
          refine .inr ⟨response, rfl, hStatus, hHeaders, body, hBody, ?_⟩
          exact (if_pos (hSuccess.mp hBot)).mpr (urlReplaced_of_rewrite hJson hRewritten)
      · rename_i hOther
        obtain ⟨hStatus, hHeaders⟩ := buildResponse_passed response body
        refine .inr ⟨response, rfl, hStatus, hHeaders, body, hBody, ?_⟩
        exact (if_neg fun h => hOther (hSuccess.mpr h)).mpr rfl

-- ---------------------------------------------------------------------------
-- The spellings of `gateway/bot`
-- ---------------------------------------------------------------------------

/-- An accepted path is its segments. -/
theorem path_of_isCanonicalPath {path : Str} (h : isCanonicalPath path = true) :
    path = '/' :: ['/'].intercalate (pathSegments path) := by
  obtain ⟨rest, rfl, hSegments⟩ := isCanonicalPath_eq h
  have hNe : ∀ segment ∈ rest.splitOn '/', segment ≠ [] :=
    fun segment hMem => (canonicalSegment_of_isCanonicalSegment (hSegments segment hMem)).ne_nil
  rw [pathSegments_of_ne_nil hNe, List.intercalate_splitOn]

/-- The names that start a route or the path, other than `api` and `gateway`. -/
theorem decoded_names : ∀ name ∈ ["guilds", "applications", "channels", "users", "interactions",
    "webhooks", "v10"], decodeAll (toBytes name.toList) ≠ toBytes "gateway".toList ∧
      decodeAll (toBytes name.toList) ≠ toBytes "api".toList := by
  decide +kernel

/-- **One spelling.** On a canonical path whose route a tenant may use, Discord
finds `gateway/bot` only where the code does. -/
theorem gatewayBot_spelling {lib : JsonLib} {env : RestEnv} {guilds : Finset Nat} {method path : Str}
    {route : List Str} (hCanonical : isCanonicalPath path = true) (hRoute : ApiRoute path route)
    (hAllowed : RouteAllowed lib env guilds method route ∨ TokenRoute route)
    (hDecoded : decodedSegments path = gatewayBotSegments) : path = gatewayBotPath := by
  obtain ⟨-, hSegments | hSegments⟩ := hRoute
  · rw [decodedSegments, hSegments] at hDecoded
    have hTail : route.map (fun segment => decodeAll (toBytes segment)) =
        [toBytes "gateway".toList, toBytes "bot".toList] :=
      (List.cons.inj (List.cons.inj hDecoded).2).2
    have hHead : ∀ name ∈ ["guilds", "applications", "channels", "users", "interactions",
        "webhooks", "v10"], ∀ rest, route ≠ name.toList :: rest := by
      rintro name hMem rest rfl
      exact (decoded_names name hMem).1 (List.cons.inj hTail).1
    have hBot : route = ["gateway".toList, "bot".toList] := by
      rcases hAllowed with hAllowed | ⟨kind, id, token, rest, hEq, hKind, -⟩
      · cases hAllowed with
        | guild => exact absurd rfl (hHead "guilds" (by simp) _)
        | application => exact absurd rfl (hHead "applications" (by simp) _)
        | channel => exact absurd rfl (hHead "channels" (by simp) _)
        | gatewayBot => rfl
        | usersMe => exact absurd rfl (hHead "users" (by simp) _)
      · rcases hKind with rfl | rfl
        · exact absurd hEq (hHead "interactions" (by simp) _)
        · exact absurd hEq (hHead "webhooks" (by simp) _)
    rw [path_of_isCanonicalPath hCanonical, hSegments, hBot]
    decide
  · rw [decodedSegments, hSegments] at hDecoded
    exact absurd (List.cons.inj hDecoded).1 (decoded_names "v10" (by simp)).2

-- ---------------------------------------------------------------------------
-- Any request
-- ---------------------------------------------------------------------------

/-- **The answer to any request.** It is an error of the proxy's own, with a
status of 400 or more, or Discord's answer to the request that was forwarded: its
status, the last value of each header that does not frame the body, and its body.
A successful answer of `gateway/bot` names the proxy's URL, with every other
member kept; for a tenant that is so under every spelling that Discord takes for
this route. -/
theorem rest_reply_exact (cfg : Config) (lib : JsonLib) {json : ValueLib} (env : RestEnv)
    (request : RestRequest) (hJson : json.RoundTrips)
    (send : UpstreamRequest → Option UpstreamResponse) :
    (∃ error : RestResponse, 400 ≤ error.status ∧
      answerRestRequest cfg lib json env request send = error.toClient) ∨
    ∃ upstream response, handleRestRequest cfg lib env request = .ok upstream ∧
      send upstream = some response ∧
      PassedOn cfg json (normalizePath request.path) response
        (answerRestRequest cfg lib json env request send) ∧
      ∀ ctx clientId guilds, authenticateGatewayToken cfg env.clients env.dataState
          (authHeader request.headers) = .ok ctx →
        ctx.principal = .client clientId → ctx.authorizedGuilds = some guilds →
        decodedSegments (normalizePath request.path) = gatewayBotSegments →
        normalizePath request.path = gatewayBotPath := by
  cases hHandled : handleRestRequest cfg lib env request with
  | error error =>
    refine .inl ⟨error, handleRestRequest_error hHandled, ?_⟩
    rw [answerRestRequest, hHandled]
  | ok upstream =>
    rw [answerRestRequest, hHandled]
    dsimp only
    rcases answerFrom_cases cfg hJson (normalizePath request.path) (send upstream) with
      ⟨message, hError⟩ | ⟨response, hSent, hPassed⟩
    · exact .inl ⟨_, by show 400 ≤ 502; omega, hError⟩
    · refine .inr ⟨upstream, response, rfl, hSent, hPassed,
        fun ctx clientId guilds hAuth hClient hGuilds hDecoded => ?_⟩
      by_cases hToken : resolveRouteScope (normalizePath request.path) = .allowedWithoutAuth
      · obtain ⟨route, hRoute, hIsToken⟩ := resolveRouteScope_allowedWithoutAuth_iff.mp hToken
        have hKind : RouteAllowed lib env guilds request.method route ∨ TokenRoute route :=
          .inr hIsToken
        exact gatewayBot_spelling (handleRestRequest_ok hHandled).1 hRoute hKind hDecoded
      · obtain ⟨hCanonical, route, hRoute, hAllowed⟩ :=
          forwarded_client_allowed hHandled hAuth hClient hGuilds hToken
        exact gatewayBot_spelling hCanonical hRoute (.inl hAllowed) hDecoded

namespace SampleReply

def config : Config := ⟨"bot".toList, true, true, "wss://proxy".toList, none⟩

/-- Client `c` of guild 7. -/
def env : RestEnv where
  clients := (∅ : Clients).insert "c".toList ⟨"s".toList, {7}, none, none⟩
  dataState := .noDatabase
  inner := Inner.new [] 1
  innerAfterBody := Inner.new [] 1
  fetchChannel _ := none

def request : RestRequest where
  path := "/v10/gateway/bot".toList
  query := none
  method := "GET".toList
  headers := [("authorization".toList, toBytes "Bot c:s".toList)]
  body := some []

def lib : JsonLib where
  parseIdentify _ := none
  parseResume _ := none
  parseRequestGuildMembers _ := none
  parseVoiceStateUpdate _ := none
  parseVoiceStateEvent _ := none
  parseKeys _ := none
  objectGuildId _ := none
  requestGuildMembersToString _ := none
  voiceStateUpdateToString _ := none

def answered : JsonObject :=
  ((∅ : JsonObject).insert "url".toList (.string "wss://discord".toList)).insert
    "shards".toList (.other "2".toList)

def rewritten : JsonObject := answered.insert "url".toList (.string config.externallyAccessibleUrl)

def answeredBytes : List UInt8 :=
  toBytes "\x7b\"url\":\"wss://discord\",\"shards\":2\x7d".toList

def rewrittenBytes : List UInt8 :=
  toBytes "\x7b\"url\":\"wss://proxy\",\"shards\":2\x7d".toList

/-- The JSON library on these two objects and their texts. -/
def json : ValueLib where
  toObject bytes :=
    if bytes = answeredBytes then some answered
    else if bytes = rewrittenBytes then some rewritten else none
  fromObject object :=
    if object.entries = rewritten.entries then some rewrittenBytes else none

theorem roundTrips : json.RoundTrips := by
  intro object bytes h
  have hIf : (if object.entries = rewritten.entries then some rewrittenBytes else none) =
      some bytes := h
  split at hIf
  · rename_i hObject
    obtain rfl := Option.some.inj hIf
    have hRead : json.toObject rewrittenBytes = some rewritten := by
      show (if rewrittenBytes = answeredBytes then some answered
        else if rewrittenBytes = rewrittenBytes then some rewritten else none) = _
      rw [if_neg (by decide +kernel), if_pos rfl]
    exact ⟨rewritten, hRead, fun key => by rw [AList.ext hObject]⟩
  · cases hIf

def response : UpstreamResponse :=
  ⟨200, [("content-length".toList, toBytes "34".toList), ("set-cookie".toList, [97]),
    ("set-cookie".toList, [98])], some answeredBytes⟩

theorem canonical : isCanonicalPath (normalizePath request.path) = true := by
  have hStrip : stripPrefix ['/'] (normalizePath request.path) =
      some "api/v10/gateway/bot".toList := by decide +kernel
  have hSplit : split '/' "api/v10/gateway/bot".toList =
      ["api".toList, "v10".toList, "gateway".toList, "bot".toList] := by decide +kernel
  rw [isCanonicalPath, hStrip]
  dsimp only
  rw [hSplit, List.all_eq_true]
  intro segment hMem
  have hPlain : '%' ∉ segment ∧ (segment ≠ [] && segment ≠ ['.'] && segment ≠ ['.', '.'] &&
      !segment.any fun c => c == '/' || c == '\\') = true := by
    revert segment
    decide
  exact isCanonicalSegment_of_decoded (percentDecode_plain hPlain.1) hPlain.2

theorem status : (answerRestRequest config lib json env request
    fun _ => some response).status = 200 := by
  rw [answerRestRequest, handleRestRequest]
  dsimp only
  rw [canonical, Bool.not_true, if_neg Bool.false_ne_true]
  decide +kernel

end SampleReply

/-- A tenant asks for the gateway: of two cookies it gets the last, and the URL is
the proxy's. -/
theorem rest_reply_exact_gateway_bot :
    ∃ reply, reply = answerRestRequest SampleReply.config SampleReply.lib SampleReply.json
        SampleReply.env SampleReply.request (fun _ => some SampleReply.response) ∧
      reply.headers.lookup "set-cookie".toList = some [98] ∧
      UrlReplaced SampleReply.config SampleReply.json SampleReply.answeredBytes reply.body := by
  refine ⟨_, rfl, ?_⟩
  rcases rest_reply_exact SampleReply.config SampleReply.lib SampleReply.env SampleReply.request
    SampleReply.roundTrips (fun _ => some SampleReply.response) with
    ⟨error, hStatus, hError⟩ | ⟨upstream, response, -, hSent, hPassed, -⟩
  · have hOk := SampleReply.status
    rw [hError] at hOk
    exact absurd (hOk ▸ hStatus : 400 ≤ 200) (by decide)
  · obtain rfl := Option.some.inj hSent
    obtain ⟨body, hBody, hRewritten⟩ := hPassed.body
    obtain rfl := Option.some.inj hBody
    refine ⟨(hPassed.headers _).trans (by decide), ?_⟩
    exact (if_pos ⟨by decide, by rw [SampleReply.status]; decide⟩).mp hRewritten

end GatewayProxy
