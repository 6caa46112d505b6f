import GatewayProxy.Gateway.Stream
import GatewayProxy.Source.InMemoryCache

/-!
# What a startup snapshot is made of

READY and the guild payloads of a tenant, down to the maps of the in-memory cache.
All guilds of a shard share these maps. A guild payload follows the keys of its
guild, and from its emojis, stickers and members on to the users that they name.

Main results:

* `channels_threads_perm`: the channels of a guild are split between two lists.
* `newGuild_congr`: a guild payload depends on what its guild refers to.
* `startup_snapshot_isolated`: the startup messages of a tenant depend on what its
  guilds refer to, however the rest of the cache differs.
-/

namespace GatewayProxy

open Utf8 Assoc

-- ---------------------------------------------------------------------------
-- Following the keys of a guild
-- ---------------------------------------------------------------------------

/-- Two maps of keys and resources that look the same from the guild. -/
structure SameResources {ν : Type} (index index' : Map Nat (List Nat))
    (resource resource' : Nat → Option ν) (guildId : Nat) : Prop where
  keys : index.lookup guildId = index'.lookup guildId
  resources : ∀ key ∈ (index.lookup guildId).getD [], resource key = resource' key

section Resources

variable {ρ ν : Type} {index index' : Map Nat (List Nat)} {guildId : Nat}

theorem resourcesInGuild_eq (index : Map Nat (List Nat)) (resource : Nat → Option ρ)
    (guildId : Nat) :
    resourcesInGuild index resource guildId =
      ((index.lookup guildId).getD []).filterMap resource := by
  unfold resourcesInGuild
  cases index.lookup guildId <;> rfl

/-- What is listed is what a key of the guild leads to. -/
theorem mem_resourcesInGuild {resource : Nat → Option ρ} {entry : ρ} :
    entry ∈ resourcesInGuild index resource guildId ↔
      ∃ key ∈ (index.lookup guildId).getD [], resource key = some entry := by
  rw [resourcesInGuild_eq, List.mem_filterMap]

theorem resourcesInGuild_congr {resource resource' : Nat → Option ρ}
    (hSame : SameResources index index' resource resource' guildId) :
    resourcesInGuild index resource guildId = resourcesInGuild index' resource' guildId := by
  rw [resourcesInGuild_eq, resourcesInGuild_eq, ← hSame.keys]
  exact List.filterMap_congr hSame.resources

/-- What is computed from each resource alone is the same. -/
theorem SameResources.map {resource resource' : Nat → Option ν} {entry entry' : Nat → Option ρ}
    (hSame : SameResources index index' resource resource' guildId)
    (hEntry : ∀ key ∈ (index.lookup guildId).getD [], resource key = resource' key →
      entry key = entry' key) :
    SameResources index index' entry entry' guildId :=
  ⟨hSame.keys, fun key hKey => hEntry key hKey (hSame.resources key hKey)⟩

end Resources

-- ---------------------------------------------------------------------------
-- Two caches, one guild
-- ---------------------------------------------------------------------------

namespace InMemoryCache

/-- The users that a payload of the guild may name. -/
inductive Mentions (cache : InMemoryCache) (guildId : Nat) : Nat → Prop
  | emoji {key userId : Nat} {emoji : CachedEmoji}
      (hKey : key ∈ (cache.guildEmojis.lookup guildId).getD [])
      (hEmoji : cache.emojis.lookup key = some emoji) (hUser : emoji.userId = some userId) :
      Mentions cache guildId userId
  | sticker {key userId : Nat} {sticker : CachedSticker}
      (hKey : key ∈ (cache.guildStickers.lookup guildId).getD [])
      (hSticker : cache.stickers.lookup key = some sticker)
      (hUser : sticker.userId = some userId) :
      Mentions cache guildId userId
  | member {key : Nat} {member : CachedMember}
      (hKey : key ∈ (cache.guildMembers.lookup guildId).getD [] ∨
        key ∈ (cache.guildVoiceStates.lookup guildId).getD [])
      (hMember : cache.members.lookup (guildId, key) = some member) :
      Mentions cache guildId member.userId

/-- The caches look the same from the guild. -/
structure SameGuild (cache cache' : InMemoryCache) (guildId : Nat) : Prop where
  channels : SameResources cache.guildChannels cache'.guildChannels
    cache.channels.lookup cache'.channels.lookup guildId
  presences : SameResources cache.guildPresences cache'.guildPresences
    (fun userId => cache.presences.lookup (guildId, userId))
    (fun userId => cache'.presences.lookup (guildId, userId)) guildId
  emojis : SameResources cache.guildEmojis cache'.guildEmojis
    cache.emojis.lookup cache'.emojis.lookup guildId
  members : SameResources cache.guildMembers cache'.guildMembers
    (fun userId => cache.members.lookup (guildId, userId))
    (fun userId => cache'.members.lookup (guildId, userId)) guildId
  roles : SameResources cache.guildRoles cache'.guildRoles
    cache.roles.lookup cache'.roles.lookup guildId
  scheduledEvents : SameResources cache.guildScheduledEvents cache'.guildScheduledEvents
    cache.scheduledEvents.lookup cache'.scheduledEvents.lookup guildId
  stageInstances : SameResources cache.guildStageInstances cache'.guildStageInstances
    cache.stageInstances.lookup cache'.stageInstances.lookup guildId
  stickers : SameResources cache.guildStickers cache'.guildStickers
    cache.stickers.lookup cache'.stickers.lookup guildId
  voiceStates : SameResources cache.guildVoiceStates cache'.guildVoiceStates
    (fun userId => cache.voiceStates.lookup (guildId, userId))
    (fun userId => cache'.voiceStates.lookup (guildId, userId)) guildId
  /-- the members in voice -/
  voiceMembers : ∀ key ∈ (cache.guildVoiceStates.lookup guildId).getD [],
    cache.members.lookup (guildId, key) = cache'.members.lookup (guildId, key)
  users : ∀ userId, cache.Mentions guildId userId →
    cache.users.lookup userId = cache'.users.lookup userId

section OneGuild

variable {cache cache' : InMemoryCache} {guildId : Nat}

/-- A user named by an optional id. -/
theorem bind_lookup_congr {userId : Option Nat}
    (hUsers : ∀ id, userId = some id → cache.users.lookup id = cache'.users.lookup id) :
    userId.bind cache.users.lookup = userId.bind cache'.users.lookup := by
  cases userId with
  | none => rfl
  | some id => exact hUsers id rfl

theorem emoji_congr (hSame : SameGuild cache cache' guildId) {key : Nat}
    (hKey : key ∈ (cache.guildEmojis.lookup guildId).getD []) :
    cache.emoji key = cache'.emoji key := by
  unfold emoji
  rw [← hSame.emojis.resources key hKey]
  cases hEmoji : cache.emojis.lookup key with
  | none => rfl
  | some emoji =>
    have hUser := bind_lookup_congr fun id hId => hSame.users id (.emoji hKey hEmoji hId)
    rw [Option.map_some, Option.map_some, hUser]

theorem sticker_congr (hSame : SameGuild cache cache' guildId) {key : Nat}
    (hKey : key ∈ (cache.guildStickers.lookup guildId).getD []) :
    cache.sticker key = cache'.sticker key := by
  unfold sticker
  rw [← hSame.stickers.resources key hKey]
  cases hSticker : cache.stickers.lookup key with
  | none => rfl
  | some sticker =>
    have hUser := bind_lookup_congr fun id hId => hSame.users id (.sticker hKey hSticker hId)
    rw [Option.map_some, Option.map_some, hUser]

theorem member_congr (hSame : SameGuild cache cache' guildId) {key : Nat}
    (hKey : key ∈ (cache.guildMembers.lookup guildId).getD [] ∨
      key ∈ (cache.guildVoiceStates.lookup guildId).getD []) :
    cache.member guildId key = cache'.member guildId key := by
  have hMember : cache.members.lookup (guildId, key) = cache'.members.lookup (guildId, key) :=
    hKey.elim (hSame.members.resources key) (hSame.voiceMembers key)
  unfold member
  rw [← hMember]
  cases hFound : cache.members.lookup (guildId, key) with
  | none => rfl
  | some member =>
    rw [Option.bind_some, Option.bind_some, hSame.users member.userId (.member hKey hFound)]

theorem voiceState_congr (hSame : SameGuild cache cache' guildId) {key : Nat}
    (hKey : key ∈ (cache.guildVoiceStates.lookup guildId).getD []) :
    cache.voiceState guildId key = cache'.voiceState guildId key := by
  unfold voiceState
  rw [hSame.voiceStates.resources key hKey, member_congr hSame (.inr hKey)]

/-- Which of the channels are listed does not change what is looked at. -/
theorem channels_congr (hSame : SameGuild cache cache' guildId) (keeps : ChannelEntry → Bool) :
    resourcesInGuild cache.guildChannels (fun key => (cache.channels.lookup key).filter keeps)
        guildId =
      resourcesInGuild cache'.guildChannels
        (fun key => (cache'.channels.lookup key).filter keeps) guildId :=
  resourcesInGuild_congr (hSame.channels.map fun _ _ hChannel => by rw [hChannel])

/-- A guild payload depends on what its guild refers to. -/
theorem newGuild_congr {guild : GuildRecord} (hSame : SameGuild cache cache' guild.id) :
    cache.newGuild guild = cache'.newGuild guild := by
  have hChannels : cache.channelsInGuild guild.id = cache'.channelsInGuild guild.id :=
    channels_congr hSame _
  have hThreads : cache.threadsInGuild guild.id = cache'.threadsInGuild guild.id :=
    channels_congr hSame _
  have hPresences : cache.presencesInGuild guild.id = cache'.presencesInGuild guild.id :=
    resourcesInGuild_congr hSame.presences
  have hEmojis : cache.emojisInGuild guild.id = cache'.emojisInGuild guild.id :=
    resourcesInGuild_congr (hSame.emojis.map fun _ hKey _ => emoji_congr hSame hKey)
  have hMembers : cache.membersInGuild guild.id = cache'.membersInGuild guild.id :=
    resourcesInGuild_congr (hSame.members.map fun _ hKey _ => member_congr hSame (.inl hKey))
  have hRoles : cache.rolesInGuild guild.id = cache'.rolesInGuild guild.id :=
    resourcesInGuild_congr hSame.roles
  have hEvents : cache.scheduledEventsInGuild guild.id =
      cache'.scheduledEventsInGuild guild.id :=
    resourcesInGuild_congr hSame.scheduledEvents
  have hStages : cache.stageInstancesInGuild guild.id = cache'.stageInstancesInGuild guild.id :=
    resourcesInGuild_congr hSame.stageInstances
  have hStickers : cache.stickersInGuild guild.id = cache'.stickersInGuild guild.id :=
    resourcesInGuild_congr (hSame.stickers.map fun _ hKey _ => sticker_congr hSame hKey)
  have hVoice : cache.voiceStatesInGuild guild.id = cache'.voiceStatesInGuild guild.id :=
    resourcesInGuild_congr (hSame.voiceStates.map fun _ hKey _ => voiceState_congr hSame hKey)
  unfold newGuild
  rw [hChannels, hThreads, hPresences, hEmojis, hMembers, hRoles, hEvents, hStages, hStickers,
    hVoice]

end OneGuild

-- ---------------------------------------------------------------------------
-- What a guild payload lists
-- ---------------------------------------------------------------------------

section Lists

variable {cache : InMemoryCache} {guildId : Nat}

/-- The channels of a guild are split between two lists. -/
theorem channels_threads_perm (cache : InMemoryCache) (guildId : Nat) :
    (cache.channelsInGuild guildId ++ cache.threadsInGuild guildId).Perm
      (resourcesInGuild cache.guildChannels cache.channels.lookup guildId) := by
  unfold channelsInGuild threadsInGuild
  rw [resourcesInGuild_eq, resourcesInGuild_eq, resourcesInGuild_eq, ← List.filter_filterMap,
    ← List.filter_filterMap]
  exact List.perm_append_comm.trans (List.filter_append_perm _ _)

theorem isThread_of_mem_channelsInGuild {channel : ChannelEntry}
    (hMem : channel ∈ cache.channelsInGuild guildId) : channel.isThread = false := by
  rw [channelsInGuild, resourcesInGuild_eq] at hMem
  obtain ⟨key, -, hChannel⟩ := List.mem_filterMap.mp hMem
  simpa using (Option.filter_eq_some_iff.mp hChannel).2

theorem isThread_of_mem_threadsInGuild {channel : ChannelEntry}
    (hMem : channel ∈ cache.threadsInGuild guildId) : channel.isThread = true := by
  rw [threadsInGuild, resourcesInGuild_eq] at hMem
  obtain ⟨key, -, hChannel⟩ := List.mem_filterMap.mp hMem
  exact (Option.filter_eq_some_iff.mp hChannel).2

/-- The entry of a member: it is cached for the guild, and its user is cached. -/
def MemberEntry (cache : InMemoryCache) (guildId userId : Nat) (entry : GuildMember) : Prop :=
  ∃ cached user, cache.members.lookup (guildId, userId) = some cached ∧
    cache.users.lookup cached.userId = some user ∧
    entry = ⟨cached.deaf.getD false, cached.mute.getD false, cached.body, user⟩

theorem member_eq_some_iff {userId : Nat} {entry : GuildMember} :
    cache.member guildId userId = some entry ↔ cache.MemberEntry guildId userId entry := by
  rw [InMemoryCache.member, Option.bind_eq_some_iff]
  refine exists_congr fun cached => ?_
  rw [Option.map_eq_some_iff]
  constructor
  · rintro ⟨hCached, user, hUser, rfl⟩
    exact ⟨user, hCached, hUser, rfl⟩
  · rintro ⟨user, hCached, hUser, rfl⟩
    exact ⟨hCached, user, hUser, rfl⟩

/-- The entry of an emoji: it is cached, with its user if that is cached. -/
def EmojiEntry (cache : InMemoryCache) (key : Nat) (entry : Emoji) : Prop :=
  ∃ cached, cache.emojis.lookup key = some cached ∧ entry.body = cached.body ∧
    ∀ user, entry.user = some user ↔
      ∃ userId, cached.userId = some userId ∧ cache.users.lookup userId = some user

/-- The entry of a sticker: it is cached, with its user if that is cached. -/
def StickerEntry (cache : InMemoryCache) (key : Nat) (entry : Sticker) : Prop :=
  ∃ cached, cache.stickers.lookup key = some cached ∧
    entry.description = some cached.description ∧ entry.body = cached.body ∧
    ∀ user, entry.user = some user ↔
      ∃ userId, cached.userId = some userId ∧ cache.users.lookup userId = some user

/-- The entry of a voice state: it is cached for the guild, with the member. -/
def VoiceStateEntry (cache : InMemoryCache) (guildId userId : Nat) (entry : VoiceState) : Prop :=
  ∃ cached, cache.voiceStates.lookup (guildId, userId) = some cached ∧
    entry.channelId = some cached.channelId ∧ entry.guildId = some cached.guildId ∧
    entry.userId = cached.userId ∧ entry.body = cached.body ∧
    ∀ member, entry.member = some member ↔ cache.MemberEntry guildId userId member

/-- An option is another one if it has the same content. -/
theorem option_eq_iff {α : Type} {found entry : Option α} {Content : α → Prop}
    (hFound : ∀ a, found = some a ↔ Content a) :
    found = entry ↔ ∀ a, entry = some a ↔ Content a := by
  constructor
  · rintro rfl
    exact hFound
  · exact fun hEntry => Option.ext fun a => (hFound a).trans (hEntry a).symm

theorem emoji_eq_some_iff {key : Nat} {entry : Emoji} :
    cache.emoji key = some entry ↔ cache.EmojiEntry key entry := by
  rw [InMemoryCache.emoji, Option.map_eq_some_iff]
  refine exists_congr fun cached => and_congr_right fun _ => ?_
  obtain ⟨body, user⟩ := entry
  rw [Emoji.mk.injEq]
  exact and_congr eq_comm (option_eq_iff fun user => Option.bind_eq_some_iff)

theorem sticker_eq_some_iff {key : Nat} {entry : Sticker} :
    cache.sticker key = some entry ↔ cache.StickerEntry key entry := by
  rw [InMemoryCache.sticker, Option.map_eq_some_iff]
  refine exists_congr fun cached => and_congr_right fun _ => ?_
  obtain ⟨description, body, user⟩ := entry
  rw [Sticker.mk.injEq]
  exact and_congr eq_comm
    (and_congr eq_comm (option_eq_iff fun user => Option.bind_eq_some_iff))

theorem voiceState_eq_some_iff {userId : Nat} {entry : VoiceState} :
    cache.voiceState guildId userId = some entry ↔ cache.VoiceStateEntry guildId userId entry := by
  rw [InMemoryCache.voiceState, Option.map_eq_some_iff]
  refine exists_congr fun cached => and_congr_right fun _ => ?_
  obtain ⟨channelId, guildId', userId', member, body⟩ := entry
  rw [VoiceState.mk.injEq]
  have hMember : cache.member guildId userId = member ↔
      ∀ entry, member = some entry ↔ cache.MemberEntry guildId userId entry :=
    option_eq_iff fun _ => member_eq_some_iff
  rw [hMember]
  constructor
  · rintro ⟨rfl, rfl, rfl, hEntry, rfl⟩
    exact ⟨rfl, rfl, rfl, rfl, hEntry⟩
  · rintro ⟨rfl, rfl, rfl, rfl, hEntry⟩
    exact ⟨rfl, rfl, rfl, hEntry, rfl⟩

/-- What a guild payload lists, in terms of the maps: the channels of the guild,
split by type, and of every other kind exactly the entries that are cached for the
guild. -/
structure ListsOwn (cache : InMemoryCache) (guild : Guild) : Prop where
  perm : (guild.channels ++ guild.threads).Perm
    (resourcesInGuild cache.guildChannels cache.channels.lookup guild.id)
  channels : ∀ channel ∈ guild.channels, channel.isThread = false
  threads : ∀ channel ∈ guild.threads, channel.isThread = true
  members : ∀ member, member ∈ guild.members ↔
    ∃ userId ∈ (cache.guildMembers.lookup guild.id).getD [],
      cache.MemberEntry guild.id userId member
  presences : ∀ presence, presence ∈ guild.presences ↔
    ∃ userId ∈ (cache.guildPresences.lookup guild.id).getD [],
      cache.presences.lookup (guild.id, userId) = some presence
  roles : ∀ role, role ∈ guild.roles ↔
    ∃ key ∈ (cache.guildRoles.lookup guild.id).getD [], cache.roles.lookup key = some role
  emojis : ∀ emoji, emoji ∈ guild.emojis ↔
    ∃ key ∈ (cache.guildEmojis.lookup guild.id).getD [], cache.EmojiEntry key emoji
  stickers : ∀ sticker, sticker ∈ guild.stickers ↔
    ∃ key ∈ (cache.guildStickers.lookup guild.id).getD [], cache.StickerEntry key sticker
  scheduledEvents : ∀ event, event ∈ guild.guildScheduledEvents ↔
    ∃ key ∈ (cache.guildScheduledEvents.lookup guild.id).getD [],
      cache.scheduledEvents.lookup key = some event
  stageInstances : ∀ stage, stage ∈ guild.stageInstances ↔
    ∃ key ∈ (cache.guildStageInstances.lookup guild.id).getD [],
      cache.stageInstances.lookup key = some stage
  voiceStates : ∀ voiceState, voiceState ∈ guild.voiceStates ↔
    ∃ userId ∈ (cache.guildVoiceStates.lookup guild.id).getD [],
      cache.VoiceStateEntry guild.id userId voiceState

theorem listsOwn_newGuild (cache : InMemoryCache) (guild : GuildRecord) :
    ListsOwn cache (cache.newGuild guild) where
  perm := channels_threads_perm cache guild.id
  channels := fun _ hMem => isThread_of_mem_channelsInGuild hMem
  threads := fun _ hMem => isThread_of_mem_threadsInGuild hMem
  members := fun _ => mem_resourcesInGuild.trans
    (exists_congr fun _ => and_congr_right fun _ => member_eq_some_iff)
  presences := fun _ => mem_resourcesInGuild
  roles := fun _ => mem_resourcesInGuild
  emojis := fun _ => mem_resourcesInGuild.trans
    (exists_congr fun _ => and_congr_right fun _ => emoji_eq_some_iff)
  stickers := fun _ => mem_resourcesInGuild.trans
    (exists_congr fun _ => and_congr_right fun _ => sticker_eq_some_iff)
  scheduledEvents := fun _ => mem_resourcesInGuild
  stageInstances := fun _ => mem_resourcesInGuild
  voiceStates := fun _ => mem_resourcesInGuild.trans
    (exists_congr fun _ => and_congr_right fun _ => voiceState_eq_some_iff)

end Lists

-- ---------------------------------------------------------------------------
-- The startup messages
-- ---------------------------------------------------------------------------

/-- The caches look the same from the guilds of a tenant. -/
structure SameFor (cache cache' : InMemoryCache) (authorized : Finset Nat) : Prop where
  guilds : (cache.guilds.filter fun guild => guild.id ∈ authorized) =
    cache'.guilds.filter fun guild => guild.id ∈ authorized
  unavailableGuilds : cache.unavailableGuilds.filter (· ∈ authorized) =
    cache'.unavailableGuilds.filter (· ∈ authorized)
  same : ∀ guildId ∈ authorized, SameGuild cache cache' guildId

section Startup

variable {cache cache' : InMemoryCache} {authorized : Finset Nat} {toString : Guild → Str}

/-- The entry that the rest of the proxy sees. -/
theorem toGuilds_restrict (cache : InMemoryCache) (toString : Guild → Str)
    (authorized : Finset Nat) :
    ((cache.toGuilds toString).restrict authorized).guilds =
      (cache.guilds.filter fun guild => guild.id ∈ authorized).map fun guild =>
        { id := guild.id, unavailable := guild.unavailable
          channels := (cache.guildChannels.lookup guild.id).getD []
          body := toString (cache.newGuild guild) } := by
  unfold Guilds.restrict toGuilds
  rw [List.filter_map]
  rfl

theorem restrict_toGuilds_congr (hSame : SameFor cache cache' authorized) :
    (cache.toGuilds toString).restrict authorized =
      (cache'.toGuilds toString).restrict authorized := by
  have hGuilds : ((cache.toGuilds toString).restrict authorized).guilds =
      ((cache'.toGuilds toString).restrict authorized).guilds := by
    rw [toGuilds_restrict, toGuilds_restrict, ← hSame.guilds]
    refine List.map_congr_left fun guild hMem => ?_
    have hOwn : guild.id ∈ authorized := of_decide_eq_true (List.mem_filter.mp hMem).2
    have hGuild := hSame.same guild.id hOwn
    rw [hGuild.channels.keys, newGuild_congr hGuild]
  have hUnavailable : ((cache.toGuilds toString).restrict authorized).unavailableGuilds =
      ((cache'.toGuilds toString).restrict authorized).unavailableGuilds :=
    hSame.unavailableGuilds
  exact congrArg₂ (fun guilds unavailableGuilds => Guilds.mk guilds unavailableGuilds [])
    hGuilds hUnavailable

theorem exists_of_mem_numberGuilds {guilds : List CachedGuild} {seq : Nat}
    {payload : Payload GuildData} (hMem : payload ∈ (numberGuilds guilds seq).1) :
    ∃ guild ∈ guilds, ∃ n, payload = guildPayload guild n := by
  induction guilds generalizing seq with
  | nil => exact absurd hMem List.not_mem_nil
  | cons guild rest ih =>
    rcases List.mem_cons.mp hMem with rfl | hRest
    · exact ⟨guild, List.mem_cons_self, _, rfl⟩
    · obtain ⟨other, hOther, hPayload⟩ := ih hRest
      exact ⟨other, List.mem_cons_of_mem guild hOther, hPayload⟩

/-- A GUILD_CREATE among the startup messages is that of a guild of the cache. -/
theorem guild_of_mem_preamble {task : ForwardTask} {ready : JsonObject}
    {payload : Payload GuildData} {entry : CachedGuild}
    (hMem : .guild payload ∈ (task.preamble ready (cache.toGuilds toString)).1)
    (hData : payload.d = .guild entry) :
    ∃ guild ∈ cache.guilds, isAuthorized task.authorizedGuilds guild.id = true ∧
      entry.id = guild.id ∧ entry.body = toString (cache.newGuild guild) := by
  unfold ForwardTask.preamble at hMem
  split at hMem
  · dsimp only at hMem
    rcases List.mem_cons.mp hMem with hReady | hPayloads
    · cases hReady
    · obtain ⟨payload', hPayload, hSame⟩ := List.mem_map.mp hPayloads
      obtain rfl := Message.guild.inj hSame
      obtain ⟨cached, hCached, n, rfl⟩ := exists_of_mem_numberGuilds hPayload
      obtain ⟨hOwn, hAuthorized⟩ := List.mem_filter.mp hCached
      obtain ⟨guild, hGuild, rfl⟩ := List.mem_map.mp hOwn
      unfold guildPayload at hData
      split at hData
      · cases hData
      · obtain rfl := GuildData.guild.inj hData
        exact ⟨guild, hGuild, hAuthorized, rfl, rfl⟩
  · cases List.mem_singleton.mp hMem

/-- **A tenant's snapshot is its own.** The startup messages of a tenant depend on
what its guilds refer to in the cache and on the users named there, however the
rest of the cache differs. Each GUILD_CREATE is put together for one of its guilds:
the channels of the guild are split between its channels and its threads, and of
every other kind it has exactly what is cached for that guild, members only with
their user. -/
theorem startup_snapshot_isolated (hSame : SameFor cache cache' authorized) {task : ForwardTask}
    (hAuthorized : task.authorizedGuilds = some authorized) (toString : Guild → Str)
    (ready : JsonObject) :
    task.preamble ready (cache.toGuilds toString) =
        task.preamble ready (cache'.toGuilds toString) ∧
      ∀ payload entry, .guild payload ∈ (task.preamble ready (cache.toGuilds toString)).1 →
        payload.d = .guild entry →
        ∃ guild ∈ cache.guilds, guild.id ∈ authorized ∧ entry.id = guild.id ∧
          entry.body = toString (cache.newGuild guild) ∧
          ListsOwn cache (cache.newGuild guild) := by
  constructor
  · rw [preamble_restrict hAuthorized, preamble_restrict hAuthorized ready (cache'.toGuilds _),
      restrict_toGuilds_congr hSame]
  · intro payload entry hMem hData
    obtain ⟨guild, hGuild, hOwn, hId, hBody⟩ := guild_of_mem_preamble hMem hData
    rw [hAuthorized] at hOwn
    exact ⟨guild, hGuild, of_decide_eq_true hOwn, hId, hBody, listsOwn_newGuild cache guild⟩

end Startup

namespace SampleCache

/-- Guild 7 with a text channel, a thread, member 5 with a presence, a voice state
and the user, and one more of every kind. -/
def seven : InMemoryCache where
  guilds := [⟨7, some false, ['g']⟩]
  unavailableGuilds := []
  guildChannels := (∅ : Map Nat (List Nat)).insert 7 [70, 71]
  channels := ((∅ : Map Nat ChannelEntry).insert 70 ⟨70, false, []⟩).insert 71 ⟨71, true, []⟩
  guildPresences := (∅ : Map Nat (List Nat)).insert 7 [5]
  presences := (∅ : Map (Nat × Nat) Str).insert (7, 5) ['p']
  guildEmojis := (∅ : Map Nat (List Nat)).insert 7 [72]
  emojis := (∅ : Map Nat CachedEmoji).insert 72 ⟨some 5, ['e']⟩
  guildMembers := (∅ : Map Nat (List Nat)).insert 7 [5]
  members := (∅ : Map (Nat × Nat) CachedMember).insert (7, 5) ⟨5, none, some true, ['m']⟩
  guildRoles := (∅ : Map Nat (List Nat)).insert 7 [73]
  roles := (∅ : Map Nat Str).insert 73 ['r']
  guildScheduledEvents := (∅ : Map Nat (List Nat)).insert 7 [74]
  scheduledEvents := (∅ : Map Nat Str).insert 74 ['v']
  guildStageInstances := (∅ : Map Nat (List Nat)).insert 7 [75]
  stageInstances := (∅ : Map Nat Str).insert 75 ['i']
  guildStickers := (∅ : Map Nat (List Nat)).insert 7 [76]
  stickers := (∅ : Map Nat CachedSticker).insert 76 ⟨some 5, ['d'], ['s']⟩
  guildVoiceStates := (∅ : Map Nat (List Nat)).insert 7 [5]
  voiceStates := (∅ : Map (Nat × Nat) CachedVoiceState).insert (7, 5) ⟨70, 7, 5, ['w']⟩
  users := (∅ : Map Nat User).insert 5 ⟨5, ['u']⟩

/-- And guild 8, of which user 5 is a member too, with a member, presences and a user
of its own, and an unavailable guild. -/
def eight : InMemoryCache :=
  { seven with
    guilds := [⟨8, none, ['h']⟩, ⟨7, some false, ['g']⟩]
    unavailableGuilds := [9]
    guildChannels := seven.guildChannels.insert 8 [80]
    channels := seven.channels.insert 80 ⟨80, false, []⟩
    guildPresences := seven.guildPresences.insert 8 [5, 6]
    presences := (seven.presences.insert (8, 5) ['q']).insert (8, 6) ['q']
    guildMembers := seven.guildMembers.insert 8 [5, 6]
    members := (seven.members.insert (8, 5) ⟨5, none, none, ['n']⟩).insert (8, 6)
      ⟨6, none, none, ['n']⟩
    users := seven.users.insert 6 ⟨6, ['x']⟩ }

def task : ForwardTask := ⟨['x'], 0, true, 0, some {7}, some ['c']⟩

/-- User 5 is all that guild 7 names. -/
theorem mentions_seven {userId : Nat} (h : seven.Mentions 7 userId) : userId = 5 := by
  have hEmojis : (seven.guildEmojis.lookup 7).getD [] = [72] := rfl
  have hStickers : (seven.guildStickers.lookup 7).getD [] = [76] := rfl
  have hMembers : (seven.guildMembers.lookup 7).getD [] = [5] := rfl
  have hVoiceStates : (seven.guildVoiceStates.lookup 7).getD [] = [5] := rfl
  cases h with
  | emoji hKey hEmoji hUser =>
    rw [hEmojis] at hKey
    obtain rfl := List.mem_singleton.mp hKey
    obtain rfl := Option.some.inj hEmoji
    exact (Option.some.inj hUser).symm
  | sticker hKey hSticker hUser =>
    rw [hStickers] at hKey
    obtain rfl := List.mem_singleton.mp hKey
    obtain rfl := Option.some.inj hSticker
    exact (Option.some.inj hUser).symm
  | member hKey hMember =>
    rw [hMembers, hVoiceStates, or_self] at hKey
    obtain rfl := List.mem_singleton.mp hKey
    obtain rfl := Option.some.inj hMember
    rfl

theorem sameGuild_seven : SameGuild seven eight 7 where
  channels := ⟨rfl, by decide⟩
  presences := ⟨rfl, by decide⟩
  emojis := ⟨rfl, by decide⟩
  members := ⟨rfl, by decide⟩
  roles := ⟨rfl, by decide⟩
  scheduledEvents := ⟨rfl, by decide⟩
  stageInstances := ⟨rfl, by decide⟩
  stickers := ⟨rfl, by decide⟩
  voiceStates := ⟨rfl, by decide⟩
  voiceMembers := by decide
  users := by
    intro userId hMentions
    rw [mentions_seven hMentions]
    rfl

end SampleCache

open SampleCache in
/-- A tenant of guild 7 sees no difference, and gets member 5 and one presence. -/
theorem startup_snapshot_isolated_seven :
    task.preamble ∅ (seven.toGuilds Guild.body) = task.preamble ∅ (eight.toGuilds Guild.body) ∧
      ∃ guild : Guild, guild.id = 7 ∧ ListsOwn seven guild ∧ guild.presences = [['p']] ∧
        guild.members = [⟨false, true, ['m'], ⟨5, ['u']⟩⟩] := by
  have hSame : SameFor seven eight {7} := by
    refine ⟨by decide, by decide, fun guildId hMem => ?_⟩
    rw [Finset.mem_singleton.mp hMem]
    exact sameGuild_seven
  have hAuthorized : task.authorizedGuilds = some {7} := rfl
  obtain ⟨hStart, hCreate⟩ := startup_snapshot_isolated hSame hAuthorized Guild.body ∅
  obtain ⟨guild, hGuild, -, -, -, hLists⟩ := hCreate
    ⟨.guild ⟨7, some false, [70, 71], ['g']⟩, 0, "GUILD_CREATE".toList, 2⟩ _
    (.tail _ (.head _)) rfl
  obtain rfl := List.mem_singleton.mp hGuild
  exact ⟨hStart, _, rfl, hLists, by decide, by decide⟩

end InMemoryCache

end GatewayProxy
