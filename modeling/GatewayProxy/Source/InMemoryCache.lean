import GatewayProxy.Source.Cache

/-!
# Putting a GUILD_CREATE together

The part of `cache.rs` below `Guilds`. Twilight's in-memory cache keeps each kind
of resource in a map of its own and the users once for all guilds; for a guild it
knows the keys of its resources. A GUILD_CREATE follows these keys. Fields that
are copied one for one are the `body` of an entry.
-/

namespace GatewayProxy

open Utf8 Assoc

-- ---------------------------------------------------------------------------
-- What the cache holds
-- ---------------------------------------------------------------------------

structure User where
  id : Nat
  body : Str
  deriving DecidableEq

structure ChannelEntry where
  id : Nat
  /-- `kind.is_thread()` -/
  isThread : Bool
  body : Str
  deriving DecidableEq

structure CachedEmoji where
  userId : Option Nat
  body : Str
  deriving DecidableEq

structure CachedSticker where
  userId : Option Nat
  description : Str
  body : Str
  deriving DecidableEq

structure CachedMember where
  userId : Nat
  deaf : Option Bool
  mute : Option Bool
  body : Str
  deriving DecidableEq

structure CachedVoiceState where
  channelId : Nat
  guildId : Nat
  userId : Nat
  body : Str
  deriving DecidableEq

structure GuildRecord where
  id : Nat
  unavailable : Option Bool
  body : Str
  deriving DecidableEq

/-- The maps of the cache; a set of keys in the order its iterator yields. -/
structure InMemoryCache where
  guilds : List GuildRecord
  unavailableGuilds : List Nat
  guildChannels : Map Nat (List Nat)
  channels : Map Nat ChannelEntry
  guildPresences : Map Nat (List Nat)
  /-- by guild and user -/
  presences : Map (Nat × Nat) Str
  guildEmojis : Map Nat (List Nat)
  emojis : Map Nat CachedEmoji
  guildMembers : Map Nat (List Nat)
  /-- by guild and user -/
  members : Map (Nat × Nat) CachedMember
  guildRoles : Map Nat (List Nat)
  roles : Map Nat Str
  guildScheduledEvents : Map Nat (List Nat)
  scheduledEvents : Map Nat Str
  guildStageInstances : Map Nat (List Nat)
  stageInstances : Map Nat Str
  guildStickers : Map Nat (List Nat)
  stickers : Map Nat CachedSticker
  guildVoiceStates : Map Nat (List Nat)
  /-- by guild and user -/
  voiceStates : Map (Nat × Nat) CachedVoiceState
  users : Map Nat User

-- ---------------------------------------------------------------------------
-- What GUILD_CREATE lists
-- ---------------------------------------------------------------------------

structure Emoji where
  body : Str
  user : Option User
  deriving DecidableEq

structure Sticker where
  description : Option Str
  body : Str
  user : Option User
  deriving DecidableEq

/-- `banner` and `avatar_decoration_data` are always none. -/
structure GuildMember where
  deaf : Bool
  mute : Bool
  body : Str
  user : User
  deriving DecidableEq

structure VoiceState where
  channelId : Option Nat
  guildId : Option Nat
  userId : Nat
  member : Option GuildMember
  body : Str
  deriving DecidableEq

/-- The counts that only an HTTP endpoint has are always none. -/
structure Guild where
  id : Nat
  channels : List ChannelEntry
  emojis : List Emoji
  guildScheduledEvents : List Str
  members : List GuildMember
  presences : List Str
  roles : List Str
  stageInstances : List Str
  stickers : List Sticker
  threads : List ChannelEntry
  unavailable : Option Bool
  voiceStates : List VoiceState
  body : Str
  deriving DecidableEq

/-- The resources that the keys of a guild lead to. A guild without keys has none,
and a key that leads nowhere is skipped. -/
def resourcesInGuild {ρ : Type} (index : Map Nat (List Nat)) (resource : Nat → Option ρ)
    (guildId : Nat) : List ρ :=
  ((index.lookup guildId).map fun keys => keys.filterMap resource).getD []

namespace InMemoryCache

variable (cache : InMemoryCache) (guildId : Nat)

def channelsInGuild : List ChannelEntry :=
  resourcesInGuild cache.guildChannels (fun channelId =>
    (cache.channels.lookup channelId).filter fun channel => !channel.isThread) guildId

def threadsInGuild : List ChannelEntry :=
  resourcesInGuild cache.guildChannels (fun channelId =>
    (cache.channels.lookup channelId).filter ChannelEntry.isThread) guildId

def presencesInGuild : List Str :=
  resourcesInGuild cache.guildPresences (fun userId => cache.presences.lookup (guildId, userId))
    guildId

def emoji (emojiId : Nat) : Option Emoji :=
  (cache.emojis.lookup emojiId).map fun emoji =>
    { body := emoji.body, user := emoji.userId.bind cache.users.lookup }

def emojisInGuild : List Emoji := resourcesInGuild cache.guildEmojis cache.emoji guildId

/-- A member whose user is not cached is left out. -/
def member (userId : Nat) : Option GuildMember :=
  (cache.members.lookup (guildId, userId)).bind fun member =>
    (cache.users.lookup member.userId).map fun user =>
      { deaf := member.deaf.getD false, mute := member.mute.getD false, body := member.body
        user := user }

def membersInGuild : List GuildMember :=
  resourcesInGuild cache.guildMembers (cache.member guildId) guildId

def rolesInGuild : List Str := resourcesInGuild cache.guildRoles cache.roles.lookup guildId

def scheduledEventsInGuild : List Str :=
  resourcesInGuild cache.guildScheduledEvents cache.scheduledEvents.lookup guildId

def stageInstancesInGuild : List Str :=
  resourcesInGuild cache.guildStageInstances cache.stageInstances.lookup guildId

def sticker (stickerId : Nat) : Option Sticker :=
  (cache.stickers.lookup stickerId).map fun sticker =>
    { description := some sticker.description, body := sticker.body
      user := sticker.userId.bind cache.users.lookup }

def stickersInGuild : List Sticker := resourcesInGuild cache.guildStickers cache.sticker guildId

def voiceState (userId : Nat) : Option VoiceState :=
  (cache.voiceStates.lookup (guildId, userId)).map fun voiceState =>
    { channelId := some voiceState.channelId, guildId := some voiceState.guildId
      userId := voiceState.userId, member := cache.member guildId userId, body := voiceState.body }

def voiceStatesInGuild : List VoiceState :=
  resourcesInGuild cache.guildVoiceStates (cache.voiceState guildId) guildId

/-- `new_guild` of `get_guild_payloads`. -/
def newGuild (guild : GuildRecord) : Guild where
  id := guild.id
  channels := cache.channelsInGuild guild.id
  emojis := cache.emojisInGuild guild.id
  guildScheduledEvents := cache.scheduledEventsInGuild guild.id
  members := cache.membersInGuild guild.id
  presences := cache.presencesInGuild guild.id
  roles := cache.rolesInGuild guild.id
  stageInstances := cache.stageInstancesInGuild guild.id
  stickers := cache.stickersInGuild guild.id
  threads := cache.threadsInGuild guild.id
  unavailable := some false
  voiceStates := cache.voiceStatesInGuild guild.id
  body := guild.body

/-- The cache as the rest of the proxy sees it, when `toString` writes a guild as
JSON. -/
def toGuilds (toString : Guild → Str) : Guilds where
  guilds := cache.guilds.map fun guild =>
    { id := guild.id, unavailable := guild.unavailable
      channels := (cache.guildChannels.lookup guild.id).getD []
      body := toString (cache.newGuild guild) }
  unavailableGuilds := cache.unavailableGuilds
  voiceStates := cache.voiceStates.keys

end InMemoryCache

end GatewayProxy
