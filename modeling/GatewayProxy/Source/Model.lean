import GatewayProxy.Lib.Serde
import GatewayProxy.Source.Registry

/-!
# Messages of the gateway

`model.rs`: the payloads that clients send and the parts of Discord's events
that the proxy parses, with the JSON library they are read and written with.
The library is third-party code, so its functions are parameters, one for
each type the proxy parses or serialises. What the derived writers make of the
commands that are rebuilt is here too, as JSON trees.
-/

namespace GatewayProxy

open Utf8

structure IdentifyInfo where
  compress : Option Bool
  /-- `[shard_id, shard_count]` -/
  shard : Nat × Nat
  token : Str
  deriving DecidableEq

structure ResumeInfo where
  sessionId : Str
  seq : Nat
  token : Str
  deriving DecidableEq

inductive UserIds
  | one (id : Str)
  | many (ids : List Str)
  deriving DecidableEq

/-- Opcode 8. -/
structure RequestGuildMembersInfo where
  guildId : Str
  query : Option Str
  limit : Option Nat
  presences : Option Bool
  userIds : Option UserIds
  nonce : Option Str
  deriving DecidableEq

/-- Opcode 4. -/
structure VoiceStateUpdateInfo where
  guildId : Str
  channelId : Option Str
  selfMute : Bool
  selfDeaf : Bool
  deriving DecidableEq

/-- The fields of a `VOICE_STATE_UPDATE` dispatch the proxy needs. -/
structure VoiceStateEventInfo where
  userId : Str
  channelId : Option Str
  deriving DecidableEq

structure OutgoingCommand (τ : Type) where
  op : Nat
  d : τ
  deriving DecidableEq

-- ---------------------------------------------------------------------------
-- The derived writers of the commands
-- ---------------------------------------------------------------------------

open Serde in
/-- `untagged`: the alternative alone. -/
def writeUserIds : UserIds → Json
  | .one id => .string id
  | .many ids => .array (ids.map .string)

open Serde in
def writeRequestGuildMembersInfo (r : RequestGuildMembersInfo) : List Member :=
  [("guild_id".toList, .string r.guildId)] ++ skipNone "query".toList .string r.query ++
    skipNone "limit".toList .unsigned r.limit ++ skipNone "presences".toList .bool r.presences ++
    skipNone "user_ids".toList writeUserIds r.userIds ++ skipNone "nonce".toList .string r.nonce

open Serde in
def writeVoiceStateUpdateInfo (u : VoiceStateUpdateInfo) : List Member :=
  [("guild_id".toList, .string u.guildId)] ++
    [("channel_id".toList, writeOption .string u.channelId)] ++
    [("self_mute".toList, .bool u.selfMute)] ++ [("self_deaf".toList, .bool u.selfDeaf)]

open Serde in
def writeOutgoingCommand {τ : Type} (write : τ → List Member) (command : OutgoingCommand τ) :
    Json :=
  .object [("op".toList, .unsigned command.op), ("d".toList, .object (write command.d))]

/-- A member of a JSON object, as far as it may be a snowflake. -/
inductive JsonScalar
  | string (s : Str)
  | unsigned (n : Nat)
  | other
  deriving DecidableEq

/-- The JSON library: `from_str` and `to_string` at the proxy's types. Parsing
gives the `d` of the payload. -/
structure JsonLib where
  parseIdentify : Str → Option IdentifyInfo
  parseResume : Str → Option ResumeInfo
  parseRequestGuildMembers : Str → Option RequestGuildMembersInfo
  parseVoiceStateUpdate : Str → Option VoiceStateUpdateInfo
  parseVoiceStateEvent : Str → Option VoiceStateEventInfo
  /-- the keys of a JSON object, each with its escapes decoded -/
  parseKeys : Str → Option (List Str)
  /-- the member `guild_id` of a JSON object -/
  objectGuildId : List UInt8 → Option JsonScalar
  requestGuildMembersToString : OutgoingCommand RequestGuildMembersInfo → Option Str
  voiceStateUpdateToString : OutgoingCommand VoiceStateUpdateInfo → Option Str

end GatewayProxy
