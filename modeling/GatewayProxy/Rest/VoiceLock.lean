import GatewayProxy.Rest.PercentDecode
import GatewayProxy.Rest.Scope

/-!
# Which spellings of the bot's voice state are recognised

`bot_voice_change_guild` compares raw path segments, while `is_canonical_path`
accepts escapes and Discord decodes them. `ChangesBotVoice` says that a path
denotes the bot's voice state once its segments are decoded.

Main results:

* `bot_voice_change_recognised_iff`: a request that changes the bot's voice
  state is recognised exactly when its last two segments are spelled without
  escapes, or the target is `%40me`.
* `bot_voice_change_missed`: an escaped digit of the bot's id is not recognised.
-/

namespace GatewayProxy

open Utf8 Assoc

-- ---------------------------------------------------------------------------
-- The bot's voice state
-- ---------------------------------------------------------------------------

/-- A JSON object without the keys that change a member's voice state. -/
def FreeOfVoiceKeys (lib : JsonLib) (body : List UInt8) : Prop :=
  ∃ keys, (fromBytes body).bind lib.parseKeys = some keys ∧
    ∀ field ∈ ["channel_id".toList, "mute".toList, "deaf".toList], field ∉ keys

/-- Decoded, the segments after the API prefix are `guilds`, the guild,
`voice-states` or `members`, and the bot; a `members` request has a body that
changes the voice state. `resource` and `target` are the raw segments. -/
structure ChangesBotVoice (lib : JsonLib) (path : Str) (body : List UInt8) (guildId botId : Nat)
    (resource target : Str) : Prop where
  intro ::
  exists_segments : ∃ first id decodedId, ApiRoute path [first, id, resource, target] ∧
    percentDecode first = some "guilds".toList ∧
    percentDecode id = some decodedId ∧ parseSnowflake decodedId = some guildId
  target_bot : percentDecode target = some "@me".toList ∨
    percentDecode target = some (formatNat botId)
  change : percentDecode resource = some "voice-states".toList ∨
    percentDecode resource = some "members".toList ∧ ¬ FreeOfVoiceKeys lib body

/-- Spellings of the last two segments that the raw comparison understands. -/
def PlainSpelling (resource target : Str) : Prop :=
  '%' ∉ resource ∧ ('%' ∉ target ∨ target = "%40me".toList)

section Recognised

variable {lib : JsonLib} {path : Str} {body : List UInt8} {guildId botId : Nat}
  {first id resource target : Str}

/-- The guild scope of a path whose first decoded segment is `guilds` comes from
its raw first two segments. -/
theorem guild_segments (hScope : resolveRouteScope path = .guild guildId)
    (hRoute : ApiRoute path [first, id, resource, target])
    (hFirst : percentDecode first = some "guilds".toList) :
    first = "guilds".toList ∧ parseSnowflake id = some guildId := by
  have hCase := routeScope_case [first, id, resource, target]
  rw [← resolveRouteScope_of_apiRoute hRoute, hScope] at hCase
  generalize hSegments : [first, id, resource, target] = route at hCase
  cases hCase with
  | guild hId =>
    simp only [List.cons.injEq] at hSegments
    obtain ⟨rfl, rfl, -⟩ := hSegments
    exact ⟨rfl, hId⟩
  | application hId =>
    simp only [List.cons.injEq] at hSegments
    obtain ⟨rfl, -⟩ := hSegments
    rw [percentDecode_plain (by decide)] at hFirst
    exact absurd hFirst (by decide)

/-- The raw spellings of the bot that are recognised. -/
def IsBotSpelling (botId : Nat) (target : Str) : Prop :=
  target = "@me".toList ∨ eqIgnoreAsciiCase target "%40me".toList = true ∨
    parseSnowflake target = some botId

/-- What `bot_voice_change_guild` answers on a guild route, for a known bot. -/
theorem botVoiceChangeGuild_eq_some_iff
    (hRoute : ApiRoute path ["guilds".toList, id, resource, target])
    (hId : parseSnowflake id = some guildId) :
    botVoiceChangeGuild lib "PATCH".toList path body (some botId) = some guildId ↔
      IsBotSpelling botId target ∧ (resource = "voice-states".toList ∨
        resource = "members".toList ∧ ¬ FreeOfVoiceKeys lib body) := by
  have hDropped : (pathSegments path).dropWhile
      (fun s => s == "api".toList || s == "v10".toList) =
        ["guilds".toList, id, resource, target] := by
    obtain ⟨-, hSegments | hSegments⟩ := hRoute <;> rw [hSegments] <;> rfl
  unfold botVoiceChangeGuild
  rw [if_neg (by decide), hDropped]
  dsimp only
  rw [hId]
  dsimp only
  have hIsBot : (target == "@me".toList || eqIgnoreAsciiCase target "%40me".toList ||
      parseSnowflake target == some botId) = true ↔ IsBotSpelling botId target := by
    rw [Bool.or_eq_true, Bool.or_eq_true, beq_iff_eq, beq_iff_eq, or_assoc]
    rfl
  by_cases hBot : IsBotSpelling botId target
  · rw [if_neg (by rw [hIsBot.mpr hBot]; simp)]
    split
    · rename_i hVoice
      exact iff_of_true rfl ⟨hBot, .inl hVoice⟩
    · rename_i hVoice
      split
      · rename_i hMembers
        split
        · rename_i hNone
          refine iff_of_true rfl ⟨hBot, .inr ⟨hMembers, ?_⟩⟩
          rintro ⟨keys, hKeys, -⟩
          rw [hNone] at hKeys
          simp at hKeys
        · rename_i keys hSome
          split
          · rename_i hAny
            refine iff_of_true rfl ⟨hBot, .inr ⟨hMembers, ?_⟩⟩
            rintro ⟨keys', hKeys, hFree⟩
            obtain rfl : keys = keys' := Option.some.inj (hSome.symm.trans hKeys)
            obtain ⟨field, hField, hKey⟩ := List.any_eq_true.mp hAny
            exact hFree field hField (List.contains_iff_mem.mp hKey)
          · rename_i hAny
            refine iff_of_false (by simp) ?_
            rintro ⟨-, hResource | ⟨-, hChange⟩⟩
            · exact hVoice hResource
            · refine hChange ⟨keys, hSome, fun field hField hKey => hAny ?_⟩
              exact List.any_eq_true.mpr ⟨field, hField, List.contains_iff_mem.mpr hKey⟩
      · rename_i hMembers
        refine iff_of_false (by simp) ?_
        rintro ⟨-, hResource | ⟨hResource, -⟩⟩
        · exact hVoice hResource
        · exact hMembers hResource
  · rw [if_pos (.inr (by simpa using fun h => hBot (hIsBot.mp h)))]
    exact iff_of_false (by simp) fun h => hBot h.1

/-- A recognised spelling that denotes the bot is plain, or `%40me`. -/
theorem plain_of_isBotSpelling (hBot : IsBotSpelling botId target)
    (hTarget : percentDecode target = some "@me".toList ∨
      percentDecode target = some (formatNat botId)) :
    '%' ∉ target ∨ target = "%40me".toList := by
  rcases hBot with rfl | hIgnoreCase | hNumber
  · exact .inl (by decide)
  · right
    -- the letters may differ in case, and decoding keeps their case
    have hLower : target.map Char.toLower = ['%', '4', '0', 'm', 'e'] := beq_iff_eq.mp hIgnoreCase
    obtain ⟨p, rest, rfl, hp, hRest⟩ := List.map_eq_cons_iff.mp hLower
    obtain ⟨four, rest, rfl, hFour, hRest⟩ := List.map_eq_cons_iff.mp hRest
    obtain ⟨zero, letters, rfl, hZero, hLetters⟩ := List.map_eq_cons_iff.mp hRest
    obtain rfl := eq_of_toLower hp (by decide)
    obtain rfl := eq_of_toLower hFour (by decide)
    obtain rfl := eq_of_toLower hZero (by decide)
    have hPlain : '%' ∉ letters := by
      intro hPercent
      have hMem := List.mem_map_of_mem (f := Char.toLower) hPercent
      rw [hLetters] at hMem
      exact absurd hMem (by decide)
    have hDecoded := percentDecode_at _ hPlain
    rcases hTarget with hMe | hId
    · have hEq := Option.some.inj (hDecoded.symm.trans hMe)
      obtain ⟨-, rfl⟩ := List.cons.inj hEq
      rfl
    · have hEq := Option.some.inj (hDecoded.symm.trans hId)
      have hAt := isDigit_of_mem_formatNat (n := botId) (c := '@') (by rw [← hEq]; simp)
      exact absurd hAt (by decide)
  · left
    intro hPercent
    rcases mem_of_parseUnsigned hNumber '%' hPercent with hPlus | hDigit
    · exact absurd hPlus (by decide)
    · exact absurd hDigit (by decide)

/-- A plain spelling, or `%40me`, that denotes the bot is recognised. -/
theorem isBotSpelling_of_plain (hBound : botId < u64Bound)
    (hPlain : '%' ∉ target ∨ target = "%40me".toList)
    (hTarget : percentDecode target = some "@me".toList ∨
      percentDecode target = some (formatNat botId)) : IsBotSpelling botId target := by
  rcases hPlain with hPlain | rfl
  · rw [percentDecode_plain hPlain, Option.some.injEq, Option.some.injEq] at hTarget
    rcases hTarget with rfl | rfl
    · exact .inl rfl
    · exact .inr (.inr (parseUnsigned_formatNat hBound))
  · exact .inr (.inl (by decide))

/-- The guild is recognised exactly for the plain spellings. -/
theorem recognised_iff (hBound : botId < u64Bound)
    (hScope : resolveRouteScope path = .guild guildId)
    (hChanges : ChangesBotVoice lib path body guildId botId resource target) :
    botVoiceChangeGuild lib "PATCH".toList path body (some botId) = some guildId ↔
      PlainSpelling resource target := by
  obtain ⟨⟨first, id, decodedId, hRoute, hFirst, -, -⟩, hTarget, hChange⟩ := hChanges
  obtain ⟨rfl, hId⟩ := guild_segments hScope hRoute hFirst
  rw [botVoiceChangeGuild_eq_some_iff hRoute hId]
  constructor
  · rintro ⟨hBot, hResource⟩
    refine ⟨?_, plain_of_isBotSpelling hBot hTarget⟩
    rcases hResource with rfl | ⟨rfl, -⟩ <;> decide
  · rintro ⟨hResource, hPlain⟩
    refine ⟨isBotSpelling_of_plain hBound hPlain hTarget, ?_⟩
    rw [percentDecode_plain hResource, Option.some.injEq, Option.some.injEq] at hChange
    exact hChange

end Recognised

/-- A recognised request of a tenant is forwarded only for the voice owner. -/
theorem voice_owner_of_forwarded {cfg : Config} {lib : JsonLib} {env : RestEnv}
    {request : RestRequest} {upstream : UpstreamRequest} {ctx : AuthContext} {clientId : Str}
    {body : List UInt8} {guildId : Nat}
    (hAuth : authenticateGatewayToken cfg env.clients env.dataState
      (authHeader request.headers) = .ok ctx)
    (hClient : ctx.principal = .client clientId)
    (hScope : resolveRouteScope (normalizePath request.path) ≠ .allowedWithoutAuth)
    (hBody : request.body = some body)
    (hChange : botVoiceChangeGuild lib request.method (normalizePath request.path) body
      env.innerAfterBody.botUserId = some guildId)
    (h : handleRestRequest cfg lib env request = .ok upstream) :
    env.innerAfterBody.voiceOwner guildId = some clientId := by
  obtain ⟨-, authContext, body', hContext, -, hBody', hVoice, -⟩ := handleRestRequest_ok h
  obtain ⟨ctx', rfl, hAuth'⟩ := restAuthContext_ok hContext hScope
  obtain rfl : ctx' = ctx := by
    rw [hAuth] at hAuth'
    exact (GatewayAuthResult.ok.inj hAuth').symm
  obtain rfl : body' = body := Option.some.inj (hBody'.symm.trans hBody)
  unfold checkVoiceChange at hVoice
  rw [Option.bind_some, hClient] at hVoice
  dsimp only [SessionPrincipal.clientId] at hVoice
  rw [hChange] at hVoice
  dsimp only at hVoice
  split at hVoice
  · cases hVoice
  · rename_i hOwner
    exact not_not.mp hOwner

/-- **Exactly when the voice owner lock sees a request.** For every path with
guild scope, canonical or not, and every body that denote a change of the known
bot's voice state once the path is decoded: the guild is recognised if and only
if the last two raw segments have no escapes, or the target is `%40me`. A
recognised request of a tenant is forwarded only if the tenant is the guild's
voice owner. -/
theorem bot_voice_change_recognised_iff (lib : JsonLib) (path : Str) (body : List UInt8)
    (guildId botId : Nat) (resource target : Str) (hBound : botId < u64Bound)
    (hScope : resolveRouteScope path = .guild guildId)
    (hChanges : ChangesBotVoice lib path body guildId botId resource target) :
    (botVoiceChangeGuild lib "PATCH".toList path body (some botId) = some guildId ↔
      PlainSpelling resource target) ∧
    (PlainSpelling resource target →
      ∀ cfg env request upstream ctx clientId, request.method = "PATCH".toList →
        normalizePath request.path = path → request.body = some body →
        env.innerAfterBody.botUserId = some botId →
        authenticateGatewayToken cfg env.clients env.dataState
          (authHeader request.headers) = .ok ctx →
        ctx.principal = .client clientId →
        handleRestRequest cfg lib env request = .ok upstream →
        env.innerAfterBody.voiceOwner guildId = some clientId) := by
  have hIff := recognised_iff hBound hScope hChanges
  refine ⟨hIff, ?_⟩
  rintro hPlain cfg env request upstream ctx clientId hMethod rfl hBody hBot hAuth hClient h
  refine voice_owner_of_forwarded hAuth hClient (by rw [hScope]; simp) hBody ?_ h
  rw [hMethod, hBot]
  exact hIff.mpr hPlain

namespace SampleRest

def config : Config := ⟨"bot".toList, true, true, "ws://proxy".toList, none⟩

/-- Client `c` with secret `s` and guild 7. -/
def clients : Clients := (∅ : Clients).insert "c".toList ⟨"s".toList, {7}, none, none⟩

def disconnect : Str := "\x7b\"channel_id\":null\x7d".toList

/-- The JSON library on the body above. -/
def lib : JsonLib where
  parseIdentify _ := none
  parseResume _ := none
  parseRequestGuildMembers _ := none
  parseVoiceStateUpdate _ := none
  parseVoiceStateEvent _ := none
  parseKeys text := if text = disconnect then some ["channel_id".toList] else none
  objectGuildId _ := none
  requestGuildMembersToString _ := none
  voiceStateUpdateToString _ := none

/-- The bot is user 42, and client `b` owns the voice of guild 7. -/
def inner : Inner :=
  { Inner.new [] 1 with
    voiceOwners := (∅ : Map Nat VoiceOwner).insert 7 ⟨"b".toList, none, true⟩
    botUserIdCell := 42 }

def env : RestEnv := ⟨clients, .noDatabase, inner, inner, fun _ => none⟩

def stagePath : Str := "/api/v10/guilds/7/voice-states/%40me".toList

def escapedPath : Str := "/api/v10/guilds/7/members/4%32".toList

/-- Client `c` disconnects the bot. -/
def request : RestRequest :=
  ⟨escapedPath, none, "PATCH".toList, [("authorization".toList, toBytes "Bot c:s".toList)],
    some (toBytes disconnect)⟩

theorem percentDecode_escaped : percentDecode "4%32".toList = some "42".toList :=
  percentDecode_eq_some_iff.mpr (by decide +kernel)

theorem changesBotVoice_stage :
    ChangesBotVoice lib stagePath [] 7 42 "voice-states".toList "%40me".toList where
  exists_segments := ⟨"guilds".toList, "7".toList, "7".toList,
    ⟨by decide, .inl (by decide +kernel)⟩, percentDecode_plain (by decide),
    percentDecode_plain (by decide), by decide⟩
  target_bot := .inl (percentDecode_at "me".toList (by decide))
  change := .inl (percentDecode_plain (by decide))

theorem changesBotVoice_escaped :
    ChangesBotVoice lib escapedPath (toBytes disconnect) 7 42 "members".toList "4%32".toList where
  exists_segments := ⟨"guilds".toList, "7".toList, "7".toList,
    ⟨by decide, .inl (by decide +kernel)⟩, percentDecode_plain (by decide),
    percentDecode_plain (by decide), by decide⟩
  target_bot := .inr percentDecode_escaped
  change := by
    refine .inr ⟨percentDecode_plain (by decide), ?_⟩
    rintro ⟨keys, hKeys, hFree⟩
    rw [fromBytes_toBytes, Option.bind_some] at hKeys
    obtain rfl : ["channel_id".toList] = keys := Option.some.inj hKeys
    exact hFree "channel_id".toList (by decide) (by decide)

/-- Every segment decodes to a plain name. -/
theorem canonical_escaped : isCanonicalPath (normalizePath escapedPath) = true := by
  have hStrip : stripPrefix ['/'] (normalizePath escapedPath) =
      some "api/v10/guilds/7/members/4%32".toList := by decide +kernel
  have hSplit : split '/' "api/v10/guilds/7/members/4%32".toList = ["api".toList, "v10".toList,
      "guilds".toList, "7".toList, "members".toList, "4%32".toList] := by decide +kernel
  unfold isCanonicalPath
  rw [hStrip]
  dsimp only
  rw [hSplit, List.all_eq_true]
  intro segment hMem
  simp only [List.mem_cons, List.not_mem_nil, or_false] at hMem
  rcases hMem with rfl | rfl | rfl | rfl | rfl | rfl
  · exact isCanonicalSegment_of_decoded (percentDecode_plain (by decide)) (by decide)
  · exact isCanonicalSegment_of_decoded (percentDecode_plain (by decide)) (by decide)
  · exact isCanonicalSegment_of_decoded (percentDecode_plain (by decide)) (by decide)
  · exact isCanonicalSegment_of_decoded (percentDecode_plain (by decide)) (by decide)
  · exact isCanonicalSegment_of_decoded (percentDecode_plain (by decide)) (by decide)
  · exact isCanonicalSegment_of_decoded percentDecode_escaped (by decide)

end SampleRest

/-- The documented spelling `%40me` of a stage request is recognised. -/
theorem bot_voice_change_recognised_at_me :
    botVoiceChangeGuild SampleRest.lib "PATCH".toList SampleRest.stagePath [] (some 42) = some 7 :=
  (bot_voice_change_recognised_iff SampleRest.lib SampleRest.stagePath [] 7 42
    "voice-states".toList "%40me".toList (by decide) (by decide +kernel)
    SampleRest.changesBotVoice_stage).1.mpr ⟨by decide, .inr rfl⟩

/-- Client `c` disconnects the bot, user 42, from a call that client `b` owns:
the path spells the id `4%32`, is canonical and of guild 7, the guild is not
recognised, and the request is forwarded with the bot token. -/
theorem bot_voice_change_missed :
    isCanonicalPath SampleRest.escapedPath = true ∧
    resolveRouteScope SampleRest.escapedPath = .guild 7 ∧
    ChangesBotVoice SampleRest.lib SampleRest.escapedPath (toBytes SampleRest.disconnect) 7 42
      "members".toList "4%32".toList ∧
    botVoiceChangeGuild SampleRest.lib "PATCH".toList SampleRest.escapedPath
      (toBytes SampleRest.disconnect) (some 42) = none ∧
    SampleRest.inner.voiceOwner 7 = some "b".toList ∧
    handleRestRequest SampleRest.config SampleRest.lib SampleRest.env SampleRest.request =
      .ok ⟨"PATCH".toList, "https://discord.com/api/v10/guilds/7/members/4%32".toList,
        [("authorization".toList, toBytes "Bot bot".toList)], toBytes SampleRest.disconnect⟩ := by
  have hNormal : normalizePath SampleRest.escapedPath = SampleRest.escapedPath := by
    decide +kernel
  have hCanonical := SampleRest.canonical_escaped
  refine ⟨hNormal ▸ hCanonical, by decide +kernel, SampleRest.changesBotVoice_escaped,
    by decide +kernel, by decide +kernel, ?_⟩
  unfold handleRestRequest
  dsimp only
  rw [show SampleRest.request.path = SampleRest.escapedPath from rfl, hCanonical,
    if_neg (by decide)]
  rfl

end GatewayProxy
