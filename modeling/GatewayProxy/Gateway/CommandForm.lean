import GatewayProxy.Gateway.Exits

/-!
# The form of a rebuilt command

`filter_client_command` checks what it parsed and sends what it wrote. The JSON
library is a parameter; `ParsesBack` is what it does at the types of the commands:
a command that was written is a JSON text of what the derived writer makes of it,
and is parsed back. How it reads any other text is left open.

Main results:

* `normalForm_forward`, `normalForm_voice`: what is sent, and that filtering it
  again gives the same.
* `command_normal_form`: that, and that everything else is dropped.
-/

namespace GatewayProxy

open Utf8 Serde

/-- What the JSON library does at the types of the commands: what it parsed and
wrote it parses back, and what it wrote is a JSON text of the command. -/
structure ParsesBack (lib : JsonLib) : Prop where
  requestGuildMembers : ∀ payload request text,
    lib.parseRequestGuildMembers payload = some request →
    lib.requestGuildMembersToString ⟨8, request⟩ = some text →
    lib.parseRequestGuildMembers text = some request
  voiceStateUpdate : ∀ payload update text, lib.parseVoiceStateUpdate payload = some update →
    lib.voiceStateUpdateToString ⟨4, update⟩ = some text →
    lib.parseVoiceStateUpdate text = some update
  requestGuildMembersToString : ∀ command text,
    lib.requestGuildMembersToString command = some text →
    Spells text (writeOutgoingCommand writeRequestGuildMembersInfo command)
  voiceStateUpdateToString : ∀ command text, lib.voiceStateUpdateToString command = some text →
    Spells text (writeOutgoingCommand writeVoiceStateUpdateInfo command)

section Commands

variable {lib : JsonLib}

/-- A request that passes is let through. -/
theorem filterClientCommand_members {payload : Str} {guilds : Finset Nat} {g : Nat} {command : Str}
    {request : RequestGuildMembersInfo}
    (hParse : lib.parseRequestGuildMembers payload = some request)
    (hPass : ChecksPass request.guildId none (lib.requestGuildMembersToString ⟨8, request⟩) guilds g
      command) : filterClientCommand lib 8 payload guilds = .forward g command := by
  rcases filterClientCommand_cases lib 8 payload guilds with
    ⟨request', g', command', -, hParse', hPass', hForward⟩ | ⟨_, _, _, hOp, _, _, _⟩ |
      ⟨hFails, -, -⟩
  · obtain rfl : request = request' := Option.some.inj (hParse.symm.trans hParse')
    obtain rfl : g = g' := Option.some.inj (hPass.guild.symm.trans hPass'.guild)
    obtain rfl : command = command' := Option.some.inj (hPass.text.symm.trans hPass'.text)
    exact hForward
  · cases hOp
  · exact absurd hPass (hFails rfl request g command hParse)

theorem filterClientCommand_update {payload : Str} {guilds : Finset Nat} {g : Nat} {command : Str}
    {update : VoiceStateUpdateInfo} (hParse : lib.parseVoiceStateUpdate payload = some update)
    (hPass : ChecksPass update.guildId (some update.channelId)
      (lib.voiceStateUpdateToString ⟨4, update⟩) guilds g command) :
    filterClientCommand lib 4 payload guilds =
      .voice g (update.channelId.bind parseU64) command := by
  rcases filterClientCommand_cases lib 4 payload guilds with
    ⟨_, _, _, hOp, _, _, _⟩ | ⟨update', g', command', -, hParse', hPass', hVoice⟩ |
      ⟨-, hFails, -⟩
  · cases hOp
  · obtain rfl : update = update' := Option.some.inj (hParse.symm.trans hParse')
    obtain rfl : g = g' := Option.some.inj (hPass.guild.symm.trans hPass'.guild)
    obtain rfl : command = command' := Option.some.inj (hPass.text.symm.trans hPass'.text)
    exact hVoice
  · exact absurd hPass (hFails rfl update g command hParse)

-- ---------------------------------------------------------------------------
-- What is sent
-- ---------------------------------------------------------------------------

/-- The fields of opcode 8. -/
def requestFields : List Str :=
  ["guild_id".toList, "query".toList, "limit".toList, "presences".toList, "user_ids".toList,
    "nonce".toList]

/-- The fields of opcode 4. -/
def voiceFields : List Str :=
  ["guild_id".toList, "channel_id".toList, "self_mute".toList, "self_deaf".toList]

theorem writeRequestGuildMembersInfo_names (r : RequestGuildMembersInfo) :
    ((writeRequestGuildMembersInfo r).map Prod.fst).Sublist requestFields := by
  have hQuery := skipNone_names "query".toList Json.string r.query
  have hLimit := skipNone_names "limit".toList Json.unsigned r.limit
  have hPresences := skipNone_names "presences".toList Json.bool r.presences
  have hUserIds := skipNone_names "user_ids".toList writeUserIds r.userIds
  have hNonce := skipNone_names "nonce".toList Json.string r.nonce
  simp only [writeRequestGuildMembersInfo, List.map_append]
  exact ((((List.Sublist.refl ["guild_id".toList]).append hQuery).append hLimit).append
    hPresences |>.append hUserIds).append hNonce

/-- A command as it is sent: not too long, a JSON text of an object of `op` and `d`
alone, `d` with the listed fields alone, each at most once, and a guild id that
stands for an authorised guild. -/
structure NormalForm (guilds : Finset Nat) (op : Nat) (fields : List Str) (g : Nat)
    (command : Str) (members : List Member) : Prop where
  size : byteLen command ≤ 4096
  spells : Spells command
    (.object [("op".toList, .unsigned op), ("d".toList, .object members)])
  fields : (members.map Prod.fst).Sublist fields
  guild : ∃ id, ("guild_id".toList, .string id) ∈ members ∧ parseU64 id = some g
  authorized : g ∈ guilds

/-- The payloads that are let through: a request or a voice update for an
authorised guild, with a channel that is null or a snowflake, and not too long
when it is written. -/
inductive Acceptable (lib : JsonLib) (op : Nat) (payload : Str) (guilds : Finset Nat) : Prop
  | members (hOp : op = 8) (request : RequestGuildMembersInfo)
    (hParse : lib.parseRequestGuildMembers payload = some request) (g : Nat)
    (hGuild : parseU64 request.guildId = some g) (hAuthorized : g ∈ guilds) (command : Str)
    (hText : lib.requestGuildMembersToString ⟨8, request⟩ = some command)
    (hSize : byteLen command ≤ 4096)
  | voice (hOp : op = 4) (update : VoiceStateUpdateInfo)
    (hParse : lib.parseVoiceStateUpdate payload = some update) (g : Nat)
    (hGuild : parseU64 update.guildId = some g) (hAuthorized : g ∈ guilds) (command : Str)
    (hText : lib.voiceStateUpdateToString ⟨4, update⟩ = some command)
    (hSize : byteLen command ≤ 4096)
    (hChannel : ∀ id, update.channelId = some id → ∃ c, parseU64 id = some c)

/-- What is let through is acceptable. -/
theorem acceptable_of_not_drop {op : Nat} {payload : Str} {guilds : Finset Nat}
    (h : ∀ reason, filterClientCommand lib op payload guilds ≠ .drop reason) :
    Acceptable lib op payload guilds := by
  rcases filterClientCommand_cases lib op payload guilds with
    ⟨request, g, command, rfl, hParse, hPass, -⟩ | ⟨update, g, command, rfl, hParse, hPass, -⟩ |
      ⟨-, -, reason, hDrop⟩
  · exact .members rfl request hParse g hPass.guild hPass.authorized command hPass.text hPass.size
  · exact .voice rfl update hParse g hPass.guild hPass.authorized command hPass.text hPass.size
      fun id hId => hPass.channel id (congrArg some hId)
  · exact absurd hDrop (h reason)

/-- What is acceptable is let through. -/
theorem not_drop_of_acceptable {op : Nat} {payload : Str} {guilds : Finset Nat}
    (h : Acceptable lib op payload guilds) (reason : Str) :
    filterClientCommand lib op payload guilds ≠ .drop reason := by
  cases h with
  | members hOp request hParse g hGuild hAuthorized command hText hSize =>
    subst hOp
    rw [filterClientCommand_members hParse
      ⟨hGuild, hAuthorized, hText, hSize, fun _ h => by cases h⟩]
    exact fun h => by cases h
  | voice hOp update hParse g hGuild hAuthorized command hText hSize hChannel =>
    subst hOp
    rw [filterClientCommand_update hParse ⟨hGuild, hAuthorized, hText, hSize,
      fun id h => hChannel id (Option.some.inj h)⟩]
    exact fun h => by cases h

/-- A request that is let through. -/
theorem normalForm_forward (hLib : ParsesBack lib) {op : Nat} {payload : Str}
    {guilds : Finset Nat} {g : Nat} {command : Str}
    (h : filterClientCommand lib op payload guilds = .forward g command) :
    op = 8 ∧ (∃ members, NormalForm guilds 8 requestFields g command members) ∧
      filterClientCommand lib op command guilds = .forward g command := by
  rcases filterClientCommand_cases lib op payload guilds with
    ⟨request, g', command', rfl, hParse, hPass, hForward⟩ | ⟨_, _, _, _, _, _, hVoice⟩ |
      ⟨_, _, _, hDrop⟩
  · obtain ⟨rfl, rfl⟩ := ClientCommand.forward.inj (h.symm.trans hForward)
    have hAgain := hLib.requestGuildMembers payload request _ hParse hPass.text
    refine ⟨rfl, ⟨writeRequestGuildMembersInfo request, ?_⟩,
      filterClientCommand_members hAgain hPass⟩
    exact ⟨hPass.size, hLib.requestGuildMembersToString _ _ hPass.text,
      writeRequestGuildMembersInfo_names request, ⟨request.guildId, .head _, hPass.guild⟩,
      hPass.authorized⟩
  · cases h.symm.trans hVoice
  · cases h.symm.trans hDrop

/-- A voice update that is let through. -/
theorem normalForm_voice (hLib : ParsesBack lib) {op : Nat} {payload : Str}
    {guilds : Finset Nat} {g : Nat} {channel : Option Nat} {command : Str}
    (h : filterClientCommand lib op payload guilds = .voice g channel command) :
    op = 4 ∧
      (∃ members, NormalForm guilds 4 voiceFields g command members ∧
        (channel = none ∧ ("channel_id".toList, .null) ∈ members ∨
          ∃ id c, channel = some c ∧ ("channel_id".toList, .string id) ∈ members ∧
            parseU64 id = some c)) ∧
      filterClientCommand lib op command guilds = .voice g channel command := by
  rcases filterClientCommand_cases lib op payload guilds with
    ⟨_, _, _, _, _, _, hForward⟩ | ⟨update, g', command', rfl, hParse, hPass, hVoice⟩ |
      ⟨_, _, _, hDrop⟩
  · cases h.symm.trans hForward
  · obtain ⟨rfl, rfl, rfl⟩ := ClientCommand.voice.inj (h.symm.trans hVoice)
    have hAgain := hLib.voiceStateUpdate payload update _ hParse hPass.text
    refine ⟨rfl, ⟨writeVoiceStateUpdateInfo update, ?_, ?_⟩,
      filterClientCommand_update hAgain hPass⟩
    · exact ⟨hPass.size, hLib.voiceStateUpdateToString _ _ hPass.text, List.Sublist.refl _,
        ⟨update.guildId, .head _, hPass.guild⟩, hPass.authorized⟩
    · have hMember : ("channel_id".toList, writeOption .string update.channelId) ∈
          writeVoiceStateUpdateInfo update := .tail _ (.head _)
      cases hChannel : update.channelId with
      | none =>
        rw [hChannel] at hMember
        exact .inl ⟨rfl, hMember⟩
      | some id =>
        rw [hChannel] at hMember
        obtain ⟨c, hc⟩ := hPass.channel id (congrArg some hChannel)
        exact .inr ⟨id, c, hc, hMember, hc⟩
  · cases h.symm.trans hDrop

/-- **What is sent for a tenant is in normal form, and everything else is
dropped.** For every opcode, payload and set of guilds, with a library that parses
back what it wrote. -/
theorem command_normal_form (hLib : ParsesBack lib) (op : Nat) (payload : Str)
    (guilds : Finset Nat) :
    (∀ g command, filterClientCommand lib op payload guilds = .forward g command →
      op = 8 ∧ (∃ members, NormalForm guilds 8 requestFields g command members) ∧
      filterClientCommand lib op command guilds = .forward g command) ∧
    (∀ g channel command, filterClientCommand lib op payload guilds = .voice g channel command →
      op = 4 ∧
      (∃ members, NormalForm guilds 4 voiceFields g command members ∧
        (channel = none ∧ ("channel_id".toList, .null) ∈ members ∨
          ∃ id c, channel = some c ∧ ("channel_id".toList, .string id) ∈ members ∧
            parseU64 id = some c)) ∧
      filterClientCommand lib op command guilds = .voice g channel command) ∧
    ((∃ reason, filterClientCommand lib op payload guilds = .drop reason) ↔
      ¬ Acceptable lib op payload guilds) := by
  refine ⟨fun g command h => normalForm_forward hLib h,
    fun g channel command h => normalForm_voice hLib h, ?_, fun hNot => ?_⟩
  · rintro ⟨reason, hDrop⟩ hAcceptable
    exact not_drop_of_acceptable hAcceptable reason hDrop
  · by_contra hNone
    exact hNot (acceptable_of_not_drop fun reason hDrop => hNone ⟨reason, hDrop⟩)

end Commands

namespace SampleCommand

/-- A request with a member the proxy does not know. -/
def payload : Str :=
  "\x7b\"op\":8,\"d\":\x7b\"user_ids\":[\"1\"],\"guild_id\":\"7\",\"x\":5\x7d\x7d".toList

def rebuilt : Str :=
  "\x7b\"op\":8,\"d\":\x7b\"guild_id\":\"7\",\"user_ids\":[\"1\"]\x7d\x7d".toList

def request : RequestGuildMembersInfo :=
  ⟨"7".toList, none, none, none, some (.many ["1".toList]), none⟩

/-- The JSON library on the two texts. -/
def lib : JsonLib where
  parseIdentify _ := none
  parseResume _ := none
  parseRequestGuildMembers text :=
    if text = payload ∨ text = rebuilt then some request else none
  parseVoiceStateUpdate _ := none
  parseVoiceStateEvent _ := none
  parseKeys _ := none
  objectGuildId _ := none
  requestGuildMembersToString command := if command = ⟨8, request⟩ then some rebuilt else none
  voiceStateUpdateToString _ := none

theorem op_isPlain : "op".toList.all JsonText.isPlain = true := rfl

theorem d_isPlain : "d".toList.all JsonText.isPlain = true := rfl

theorem seven_isPlain : "7".toList.all JsonText.isPlain = true := rfl

open JsonText in
/-- What the rebuilt command spells, as a value. -/
def value : Value :=
  .object .none
    (.cons .tight (.ofText "op".toList op_isPlain) (.scalar (.ofNat 8))
      (.cons .tight (.ofText "d".toList d_isPlain) (.object .none
        (.cons .tight (.ofText "guild_id".toList rfl) (.string (.ofText "7".toList seven_isPlain))
          (.cons .tight (.ofText "user_ids".toList rfl) (.array .none
            (.cons .none (.string (.ofText "1".toList rfl)) .none .nil)) .nil))) .nil))

theorem parsesBack : ParsesBack lib where
  requestGuildMembers payload' request' text hParse hText := by
    have hWrite : (if (⟨8, request'⟩ : OutgoingCommand _) = ⟨8, request⟩ then some rebuilt
      else none) = some text := hText
    split at hWrite
    · rename_i hCommand
      obtain rfl := Option.some.inj hWrite
      obtain rfl : request' = request := (OutgoingCommand.mk.inj hCommand).2
      show (if rebuilt = payload ∨ rebuilt = rebuilt then some request else none) = _
      exact if_pos (.inr rfl)
    · cases hWrite
  voiceStateUpdate _ _ _ h := by cases h
  requestGuildMembersToString command text hText := by
    have hWrite : (if command = ⟨8, request⟩ then some rebuilt else none) = some text := hText
    split at hWrite
    · rename_i hCommand
      obtain rfl := Option.some.inj hWrite
      subst hCommand
      exact ⟨.none, .none, value, by decide +kernel, rfl⟩
    · cases hWrite
  voiceStateUpdateToString _ _ h := by cases h

end SampleCommand

/-- The request goes upstream without the member the proxy does not know. -/
theorem command_normal_form_members :
    filterClientCommand SampleCommand.lib 8 SampleCommand.payload {7} =
      .forward 7 SampleCommand.rebuilt ∧
    (∃ members, NormalForm {7} 8 requestFields 7 SampleCommand.rebuilt members) ∧
    filterClientCommand SampleCommand.lib 8 SampleCommand.rebuilt {7} =
      .forward 7 SampleCommand.rebuilt := by
  have hForward : filterClientCommand SampleCommand.lib 8 SampleCommand.payload {7} =
      .forward 7 SampleCommand.rebuilt := by
    decide +kernel
  have hForm := (command_normal_form SampleCommand.parsesBack 8 SampleCommand.payload {7}).1
    7 SampleCommand.rebuilt hForward
  exact ⟨hForward, hForm.2⟩

end GatewayProxy
