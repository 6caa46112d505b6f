import GatewayProxy.Source.Registry

/-!
# The guild cache of a shard

`cache.rs` over the entries of twilight's in-memory cache that it reads. A
connection that starts fresh gets a READY with its guilds, then one
GUILD_CREATE or GUILD_DELETE for each cached guild; both come from here and
both advance the connection's sequence number. A GUILD_CREATE copies about
fifty fields of the cached guild, none of which the proxy looks at: they are
`CachedGuild.body`.
-/

namespace GatewayProxy

open Utf8 Assoc

/-- The JSON values the proxy itself writes into READY. -/
inductive OwnedValue
  | string (s : Str)
  | guildList (guilds : List (Str × Bool))
  | other (text : Str)
  deriving DecidableEq

abbrev JsonObject := Map Str OwnedValue

structure CachedGuild where
  id : Nat
  unavailable : Option Bool
  /-- `guild_channels(id)`, the ids of its channels and threads -/
  channels : List Nat
  /-- every other field that GUILD_CREATE copies -/
  body : Str
  deriving DecidableEq

/-- `InMemoryCache`, in the order its iterators yield. -/
structure Guilds where
  guilds : List CachedGuild
  unavailableGuilds : List Nat
  /-- the (guild, user) pairs with a voice state -/
  voiceStates : List (Nat × Nat)
  deriving DecidableEq

/-- `seq += 1` on the `usize` counter of a connection, as release builds wrap. -/
def nextSeq (seq : Nat) : Nat := (seq + 1) % 2 ^ 64

structure Payload (τ : Type) where
  d : τ
  op : Nat
  t : Str
  s : Nat
  deriving DecidableEq

inductive GuildData
  | guildDelete (id : Nat) (unavailable : Option Bool)
  | guild (entry : CachedGuild)
  deriving DecidableEq

def GuildData.guildId : GuildData → Nat
  | .guildDelete id _ => id
  | .guild entry => entry.id

namespace Guilds

/-- `Id::new_checked` refuses zero. -/
def hasVoiceState (g : Guilds) (guildId userId : Nat) : Bool :=
  guildId != 0 && userId != 0 && g.voiceStates.contains (guildId, userId)

def resolveGuildIdForChannel (g : Guilds) (channelId : Nat) : Option Nat :=
  g.guilds.findSome? fun guild =>
    if guild.channels.contains channelId then some guild.id else none

end Guilds

/-- `None` lets every guild through. -/
def isAuthorized (authorizedGuilds : Option (Finset Nat)) (guildId : Nat) : Bool :=
  match authorizedGuilds with
  | some guilds => guildId ∈ guilds
  | none => true

def guildIdToJson (guildId : Nat) : Str × Bool := (formatNat guildId, true)

/-- The guilds array of READY. -/
def readyGuilds (g : Guilds) (authorizedGuilds : Option (Finset Nat)) : List (Str × Bool) :=
  (g.guilds.filterMap fun guild =>
      if !isAuthorized authorizedGuilds guild.id then none
      -- part of the unavailable guilds below
      else if guild.unavailable = some true then none
      else some (guildIdToJson guild.id)) ++
    (g.unavailableGuilds.filter (isAuthorized authorizedGuilds)).map guildIdToJson

/-- Returns the payload and the advanced sequence number. -/
def getReadyPayload (g : Guilds) (ready : JsonObject) (sequence : Nat)
    (authorizedGuilds : Option (Finset Nat)) : Payload JsonObject × Nat :=
  ({ d := ready.insert "guilds".toList (.guildList (readyGuilds g authorizedGuilds))
     op := 0
     t := "READY".toList
     s := nextSeq sequence }, nextSeq sequence)

def guildPayload (guild : CachedGuild) (sequence : Nat) : Payload GuildData :=
  if guild.unavailable = some true then
    ⟨.guildDelete guild.id (some true), 0, "GUILD_DELETE".toList, sequence⟩
  else
    ⟨.guild guild, 0, "GUILD_CREATE".toList, sequence⟩

/-- The payloads of a list of guilds, each taking the next sequence number. -/
def numberGuilds : List CachedGuild → Nat → List (Payload GuildData) × Nat
  | [], sequence => ([], sequence)
  | guild :: rest, sequence =>
    let numbered := numberGuilds rest (nextSeq sequence)
    (guildPayload guild (nextSeq sequence) :: numbered.1, numbered.2)

def getGuildPayloads (g : Guilds) (sequence : Nat) (authorizedGuilds : Option (Finset Nat)) :
    List (Payload GuildData) × Nat :=
  numberGuilds (g.guilds.filter fun guild => isAuthorized authorizedGuilds guild.id) sequence

-- ---------------------------------------------------------------------------
-- What the payloads hold
-- ---------------------------------------------------------------------------

theorem guildPayload_s (guild : CachedGuild) (sequence : Nat) :
    (guildPayload guild sequence).s = sequence := by
  unfold guildPayload
  split <;> rfl

theorem guildPayload_guildId (guild : CachedGuild) (sequence : Nat) :
    (guildPayload guild sequence).d.guildId = guild.id := by
  unfold guildPayload
  split <;> rfl

theorem nextSeq_of_lt {seq : Nat} (h : seq + 1 < 2 ^ 64) : nextSeq seq = seq + 1 :=
  Nat.mod_eq_of_lt h

/-- The guilds that READY lists: those that may be listed and are cached, available
or not. -/
theorem mem_readyGuilds_iff {guilds : Guilds} {authorized : Option (Finset Nat)}
    {entry : Str × Bool} :
    entry ∈ readyGuilds guilds authorized ↔ ∃ guildId, entry = (formatNat guildId, true) ∧
      isAuthorized authorized guildId = true ∧
      ((∃ guild ∈ guilds.guilds, guild.id = guildId ∧ guild.unavailable ≠ some true) ∨
        guildId ∈ guilds.unavailableGuilds) := by
  rw [readyGuilds, List.mem_append, List.mem_filterMap, List.mem_map]
  constructor
  · rintro (⟨guild, hMem, hEntry⟩ | ⟨id, hMem, hEntry⟩)
    · split at hEntry
      · cases hEntry
      · rename_i hAuthorized
        split at hEntry
        · cases hEntry
        · rename_i hAvailable
          exact ⟨guild.id, (Option.some.inj hEntry).symm, by simpa using hAuthorized,
            .inl ⟨guild, hMem, rfl, hAvailable⟩⟩
    · obtain ⟨hUnavailable, hAuthorized⟩ := List.mem_filter.mp hMem
      exact ⟨id, hEntry.symm, hAuthorized, .inr hUnavailable⟩
  · rintro ⟨guildId, rfl, hAuthorized, ⟨guild, hMem, rfl, hAvailable⟩ | hUnavailable⟩
    · refine .inl ⟨guild, hMem, ?_⟩
      rw [if_neg (by simpa using hAuthorized), if_neg hAvailable]
      rfl
    · exact .inr ⟨guildId, List.mem_filter.mpr ⟨hUnavailable, hAuthorized⟩, rfl⟩

end GatewayProxy
