import GatewayProxy.Source.Dispatch
import GatewayProxy.Voice.Ownership

/-!
# Voice tokens

The way of a voice command and of the events it causes, for one guild `g`: the
proxy decides the command under the owner lock, puts it into the queue of the
guild's shard, Discord handles the queue in order and answers with events, and
the shard's task handles these in order, relaying each before it updates the
cache. All steps interleave freely. Commands and events of other guilds do not
touch this guild's lock; the operations on the whole map of owners are steps.

Discord is assumed to answer a join with the bot's voice state and a
VOICE_SERVER_UPDATE, which holds the token, and a leave of a connected bot with
the bot's null voice state. Joins and tokens carry the client of the join as a
history variable.

Main results:

* `confined_step`: a step that is no `TakesOver` keeps every token from all
  clients but the one that joined.
* `token_reaches`: a token on its way reaches the owner of the moment.
* `voice_token_confined_when`: runs without a `TakesOver` keep tokens confined,
  and every `TakesOver` can go on to a token that reaches the wrong client.
* `voice_token_leaked`: a run that ends so.
-/

namespace GatewayProxy

open Utf8 Assoc GatewayProxy.Inner

/-- An opcode 4 command for the guild, with the client that joins. -/
inductive VoiceCommand
  | join (clientId : Str)
  | leave
  deriving DecidableEq

/-- An event about the bot in the guild. -/
inductive BotVoiceEvent
  /-- VOICE_STATE_UPDATE with a channel -/
  | joined
  /-- VOICE_STATE_UPDATE with a null channel -/
  | left
  /-- VOICE_SERVER_UPDATE, with the client of the join that caused it -/
  | serverUpdate (clientId : Str)
  deriving DecidableEq

namespace VoiceOp

/-- What the proxy sends for the guild after an operation. -/
def commands (cfg : Config) (inner : Inner) (g : Nat) : VoiceOp → List VoiceCommand
  | claim guildId clientId joining =>
    if g = guildId ∧ (inner.claimVoice cfg guildId clientId joining).1 = .allow then
      [if joining then .join clientId else .leave]
    else []
  | identify clientId shardId =>
    if g ∈ (inner.leaveVoiceForClient clientId shardId).1 then [.leave] else []
  | sweep authorized now =>
    if g ∈ (inner.takeStaleVoiceOwners cfg authorized now).1 then [.leave] else []
  | _ => []

/-- The operations that clients and the sweeper cause, under a registry. -/
def isCaused (clients : Clients) : VoiceOp → Bool
  | claim guildId clientId _ => clientHasGuild clients clientId guildId
  | botLeave _ | environment _ _ => false
  | _ => true

end VoiceOp

structure VoiceSystem where
  inner : Inner
  /-- decided and not in the queue yet, by any of the connections' tasks -/
  decided : List VoiceCommand
  queue : List VoiceCommand
  /-- Discord's side: the bot is in a voice channel of the guild -/
  inVoice : Bool
  events : List BotVoiceEvent
  /-- the event that was relayed and has not updated the cache yet -/
  updating : Option BotVoiceEvent
  /-- history: the tokens relayed, with the client of the join -/
  relayed : List (Str × Audience)

inductive VoiceStep
  | lock (clients : Clients) (op : VoiceOp)
  /-- the command at a position is put into the queue -/
  | enqueue (i : Nat)
  | discord
  | relay (clients : Clients)
  | update

/-- The cache entry of the bot's voice state in the guild. -/
def Inner.setBotVoiceState (inner : Inner) (g : Nat) (inVoice : Bool) : Inner :=
  let entry := (g, inner.botUserIdCell)
  { inner with shards := inner.shards.map fun shard =>
      if shard.id == inner.shardIdForGuild g then
        { shard with guilds := { shard.guilds with
            voiceStates :=
              if inVoice then entry :: shard.guilds.voiceStates.erase entry
              else shard.guilds.voiceStates.filter (· != entry) } }
      else shard }

namespace VoiceSystem

/-- Before any client; the bot is out of voice. -/
def new (shards : List Shard) (shardCount botUserId : Nat) : VoiceSystem :=
  ⟨{ Inner.new shards shardCount with botUserIdCell := botUserId }, [], [], false, [], none, []⟩

/-- Discord handles one command. -/
def answer (inVoice : Bool) : VoiceCommand → Bool × List BotVoiceEvent
  | .join clientId => (true, [.joined, .serverUpdate clientId])
  | .leave => (false, if inVoice then [.left] else [])

def relayEvent (clients : Clients) (inner : Inner) (g : Nat) :
    BotVoiceEvent → Inner × List (Str × Audience)
  | .joined => (inner, [])
  | .left => (inner.onBotVoiceLeave g, [])
  | .serverUpdate clientId =>
    (inner, [(clientId, audienceFor clients inner "VOICE_SERVER_UPDATE".toList (some g))])

def updateCache (inner : Inner) (g : Nat) : BotVoiceEvent → Inner
  | .joined => inner.setBotVoiceState g true
  | .left => inner.setBotVoiceState g false
  | .serverUpdate _ => inner

def step (cfg : Config) (g : Nat) (s : VoiceSystem) : VoiceStep → Option VoiceSystem
  | .lock clients op =>
    if op.isCaused clients then
      some { s with
        inner := op.apply cfg s.inner
        decided := s.decided ++ op.commands cfg s.inner g }
    else none
  | .enqueue i =>
    s.decided[i]?.map fun command => { s with
      decided := s.decided.eraseIdx i
      queue := s.queue ++ [command] }
  | .discord =>
    match s.queue with
    | [] => none
    | command :: queue =>
      let (inVoice, events) := answer s.inVoice command
      some { s with queue := queue, inVoice := inVoice, events := s.events ++ events }
  | .relay clients =>
    match s.updating, s.events with
    | none, event :: events =>
      let (inner, tokens) := relayEvent clients s.inner g event
      some { s with
        inner := inner
        events := events
        updating := some event
        relayed := s.relayed ++ tokens }
    | _, _ => none
  | .update =>
    s.updating.map fun event => { s with inner := updateCache s.inner g event, updating := none }

/-- A join of the client whose token was not relayed yet. -/
def InFlight (s : VoiceSystem) (clientId : Str) : Prop :=
  .join clientId ∈ s.decided ∨ .join clientId ∈ s.queue ∨ .serverUpdate clientId ∈ s.events

/-- No token was relayed to a client other than the one that joined. -/
def TokensConfined (s : VoiceSystem) : Prop :=
  ∀ clientId other, (clientId, Audience.client other) ∈ s.relayed → other = clientId

/-- The steps that go wrong: a client's join is accepted while a join of another
client is in flight. -/
def TakesOver (cfg : Config) (g : Nat) (s : VoiceSystem) : VoiceStep → Prop
  | .lock _ (.claim guildId clientId joining) =>
    g = guildId ∧ joining = true ∧
      decideVoiceCommand (s.inner.voiceOwners.lookup g) clientId (s.inner.botInVoice cfg g) =
        .allow ∧
      ∃ other, other ≠ clientId ∧ s.InFlight other
  | _ => False

/-- The bot's voice states reach the owner lock as `relayEvent` has them. -/
theorem trackEvent_eq_relayEvent {lib : JsonLib} {inner : Inner} {payload : Str} {g bot : Nat}
    {event : VoiceStateEventInfo} (clients : Clients) (hBot : inner.botUserId = some bot)
    (hParse : lib.parseVoiceStateEvent payload = some event)
    (hUser : parseU64 event.userId = some bot) :
    trackEvent lib inner "VOICE_STATE_UPDATE".toList payload (some g) =
      (relayEvent clients inner g (if event.channelId.isNone then .left else .joined)).1 := by
  rw [trackEvent, if_pos rfl]
  simp only [trackBotVoiceState, hBot, hParse, hUser, and_true]
  by_cases hNull : event.channelId.isNone
  · rw [if_pos hNull, if_pos hNull, relayEvent]
  · rw [if_neg hNull, if_neg hNull, relayEvent]

-- ---------------------------------------------------------------------------
-- Runs without a take-over
-- ---------------------------------------------------------------------------

/-- If the guild has an owner, all joins in flight are the owner's. -/
def OwnsInFlight (g : Nat) (s : VoiceSystem) : Prop :=
  ∀ owner, s.inner.voiceOwners.lookup g = some owner →
    ∀ clientId, s.InFlight clientId → owner.clientId = clientId

section Steps

variable {cfg : Config} {g : Nat} {s t : VoiceSystem}

/-- An operation keeps the client of an entry, or is the join of a client. -/
theorem ownerStep_clientId {inner : Inner} {op : VoiceOp} {owner : Option VoiceOwner}
    {o : VoiceOwner} (h : op.ownerStep cfg inner g owner = some o) :
    (∃ old, owner = some old ∧ old.clientId = o.clientId) ∨
      op = .claim g o.clientId true ∧
        decideVoiceCommand owner o.clientId (inner.botInVoice cfg g) = .allow := by
  cases op with
  | claim guildId clientId joining =>
    rw [VoiceOp.ownerStep] at h
    split at h
    · rename_i hClaim
      obtain ⟨rfl, hAllow⟩ := hClaim
      cases joining with
      | true =>
        obtain rfl : (⟨clientId, none, true⟩ : VoiceOwner) = o := Option.some.inj h
        exact .inr ⟨rfl, hAllow⟩
      | false =>
        obtain ⟨old, hOld, rfl⟩ := Option.map_eq_some_iff.mp h
        exact .inl ⟨old, hOld, rfl⟩
    · exact .inl ⟨o, h, rfl⟩
  | identify clientId shardId =>
    obtain ⟨old, hOld, rfl⟩ := Option.map_eq_some_iff.mp h
    exact .inl ⟨old, hOld, by split <;> rfl⟩
  | botLeave guildId =>
    rw [VoiceOp.ownerStep] at h
    split at h
    · exact .inl ⟨o, (Option.filter_eq_some_iff.mp h).1, rfl⟩
    · exact .inl ⟨o, h, rfl⟩
  | sweep authorized now =>
    obtain ⟨old, hOld, rfl⟩ := Option.map_eq_some_iff.mp h
    exact .inl ⟨old, (Option.filter_eq_some_iff.mp hOld).1, by split <;> rfl⟩
  | connected clientId =>
    obtain ⟨old, hOld, rfl⟩ := Option.map_eq_some_iff.mp h
    exact .inl ⟨old, hOld, by split <;> rfl⟩
  | disconnected clientId now =>
    rw [VoiceOp.ownerStep] at h
    split at h
    · obtain ⟨old, hOld, rfl⟩ := Option.map_eq_some_iff.mp h
      exact .inl ⟨old, hOld, by split <;> rfl⟩
    · exact .inl ⟨o, h, rfl⟩
  | environment shards botUserIdCell => exact .inl ⟨o, h, rfl⟩

/-- The only command with a join is the client's own, when it was allowed. -/
theorem join_mem_commands {inner : Inner} {op : VoiceOp} {clientId : Str}
    (h : .join clientId ∈ op.commands cfg inner g) :
    op = .claim g clientId true ∧
      decideVoiceCommand (inner.voiceOwners.lookup g) clientId (inner.botInVoice cfg g) =
        .allow := by
  cases op with
  | claim guildId other joining =>
    rw [VoiceOp.commands] at h
    split at h
    · rename_i hClaim
      obtain ⟨rfl, hAllow⟩ := hClaim
      rw [claimVoice_decision] at hAllow
      cases joining with
      | true =>
        obtain rfl := VoiceCommand.join.inj (List.mem_singleton.mp h)
        exact ⟨rfl, hAllow⟩
      | false => cases List.mem_singleton.mp h
    · cases h
  | identify other shardId =>
    rw [VoiceOp.commands] at h
    split at h
    · cases List.mem_singleton.mp h
    · cases h
  | sweep authorized now =>
    rw [VoiceOp.commands] at h
    split at h
    · cases List.mem_singleton.mp h
    · cases h
  | _ => cases h

/-- A token goes to the owner of the moment, if to a tenant at all. -/
theorem audienceFor_client {clients : Clients} {inner : Inner} {other : Str}
    (h : audienceFor clients inner "VOICE_SERVER_UPDATE".toList (some g) = .client other) :
    ∃ owner, inner.voiceOwners.lookup g = some owner ∧ owner.clientId = other := by
  rw [audienceFor, if_neg (by simp)] at h
  split at h
  · rename_i owner hOwner
    split at h
    · obtain rfl := Audience.client.inj h
      exact Option.map_eq_some_iff.mp hOwner
    · cases h
  · cases h

/-- Fewer joins in flight and the same entry, or none, keep the invariant. -/
theorem OwnsInFlight.mono (hOwns : s.OwnsInFlight g)
    (hOwner : ∀ owner, t.inner.voiceOwners.lookup g = some owner →
      s.inner.voiceOwners.lookup g = some owner)
    (hFlight : ∀ clientId, t.InFlight clientId → s.InFlight clientId) : t.OwnsInFlight g := by
  intro owner hLookup clientId hIn
  exact hOwns owner (hOwner owner hLookup) clientId (hFlight clientId hIn)

theorem relayEvent_lookup {clients : Clients} {inner : Inner} {event : BotVoiceEvent}
    {owner : VoiceOwner}
    (h : (relayEvent clients inner g event).1.voiceOwners.lookup g = some owner) :
    inner.voiceOwners.lookup g = some owner := by
  cases event with
  | joined => exact h
  | left =>
    rw [relayEvent, lookup_onBotVoiceLeave, if_pos rfl] at h
    exact (Option.filter_eq_some_iff.mp h).1
  | serverUpdate clientId => exact h

@[simp] theorem updateCache_voiceOwners (inner : Inner) (event : BotVoiceEvent) :
    (updateCache inner g event).voiceOwners = inner.voiceOwners := by
  cases event <;> rfl

/-- An operation that takes nothing over keeps all joins in flight the owner's. -/
theorem ownsInFlight_lock {clients : Clients} {op : VoiceOp} (hOwns : s.OwnsInFlight g)
    (hNot : ¬ s.TakesOver cfg g (.lock clients op)) :
    OwnsInFlight g { s with
      inner := op.apply cfg s.inner
      decided := s.decided ++ op.commands cfg s.inner g } := by
  intro owner hOwner clientId hIn
  dsimp only at hOwner
  rw [VoiceOp.lookup_apply] at hOwner
  have hIn' : s.InFlight clientId ∨ .join clientId ∈ op.commands cfg s.inner g := by
    obtain hIn | hIn | hIn := hIn
    · obtain hIn | hIn := List.mem_append.mp hIn
      · exact .inl (.inl hIn)
      · exact .inr hIn
    · exact .inl (.inr (.inl hIn))
    · exact .inl (.inr (.inr hIn))
  obtain hOld | hNew := hIn'
  · obtain ⟨old, hLookup, hSame⟩ | ⟨rfl, hAllow⟩ := ownerStep_clientId hOwner
    · exact hSame.symm.trans (hOwns old hLookup clientId hOld)
    · by_contra hOther
      exact hNot ⟨rfl, rfl, hAllow, clientId, Ne.symm hOther, hOld⟩
  · obtain ⟨rfl, hAllow⟩ := join_mem_commands hNew
    rw [VoiceOp.ownerStep, if_pos ⟨rfl, hAllow⟩] at hOwner
    obtain rfl : (⟨clientId, none, true⟩ : VoiceOwner) = owner := Option.some.inj hOwner
    rfl

/-- **Step lemma.** A step that takes nothing over keeps tokens confined. -/
theorem confined_step {a : VoiceStep} (hOwns : s.OwnsInFlight g) (hTokens : s.TokensConfined)
    (hNot : ¬ s.TakesOver cfg g a) (hStep : s.step cfg g a = some t) :
    t.OwnsInFlight g ∧ t.TokensConfined := by
  cases a with
  | lock clients op =>
    rw [step] at hStep
    split at hStep
    · obtain rfl := Option.some.inj hStep
      exact ⟨ownsInFlight_lock hOwns hNot, hTokens⟩
    · cases hStep
  | enqueue i =>
    obtain ⟨command, hGet, rfl⟩ := Option.map_eq_some_iff.mp hStep
    refine ⟨hOwns.mono (fun _ h => h) ?_, hTokens⟩
    rintro clientId (hIn | hIn | hIn)
    · exact .inl (List.mem_of_mem_eraseIdx hIn)
    · obtain hIn | hIn := List.mem_append.mp hIn
      · exact .inr (.inl hIn)
      · obtain rfl := List.mem_singleton.mp hIn
        exact .inl (List.mem_of_getElem? hGet)
    · exact .inr (.inr hIn)
  | discord =>
    rw [step] at hStep
    split at hStep
    · cases hStep
    · rename_i command queue hQueue
      obtain rfl := Option.some.inj hStep
      refine ⟨hOwns.mono (fun _ h => h) ?_, hTokens⟩
      rintro clientId (hIn | hIn | hIn)
      · exact .inl hIn
      · exact .inr (.inl (by rw [hQueue]; exact .tail _ hIn))
      · obtain hIn | hIn := List.mem_append.mp hIn
        · exact .inr (.inr hIn)
        · -- a token in the answer comes from the join at the head of the queue
          refine .inr (.inl ?_)
          rw [hQueue]
          cases command with
          | join other =>
            have hSame : clientId = other := by simpa [answer] using hIn
            rw [hSame]
            exact .head _
          | leave =>
            obtain hOut | hLeft : s.inVoice = false ∨ s.inVoice = true := by
              cases s.inVoice <;> simp
            · simp [hOut] at hIn
            · simp [hLeft] at hIn
  | relay clients =>
    rw [step] at hStep
    split at hStep
    · rename_i event events hUpdating hEvents
      obtain rfl := Option.some.inj hStep
      refine ⟨hOwns.mono (fun _ h => relayEvent_lookup h) ?_, ?_⟩
      · rintro clientId (hIn | hIn | hIn)
        · exact .inl hIn
        · exact .inr (.inl hIn)
        · exact .inr (.inr (by rw [hEvents]; exact .tail _ hIn))
      · intro clientId other hMem
        obtain hMem | hMem := List.mem_append.mp hMem
        · exact hTokens clientId other hMem
        · cases event with
          | joined => cases hMem
          | left => cases hMem
          | serverUpdate cause =>
            obtain ⟨rfl, hAudience⟩ := Prod.mk.inj (List.mem_singleton.mp hMem)
            obtain ⟨owner, hOwner, rfl⟩ := audienceFor_client hAudience.symm
            exact hOwns owner hOwner clientId (.inr (.inr (by rw [hEvents]; exact .head _)))
    · cases hStep
  | update =>
    obtain ⟨event, -, rfl⟩ := Option.map_eq_some_iff.mp hStep
    refine ⟨hOwns.mono ?_ (fun _ h => h), hTokens⟩
    intro owner hOwner
    simpa using hOwner

-- ---------------------------------------------------------------------------
-- A token on its way
-- ---------------------------------------------------------------------------

/-- The client owns the guild and wants voice. -/
def HeldBy (g : Nat) (s : VoiceSystem) (clientId : Str) : Prop :=
  ∃ owner, s.inner.voiceOwners.lookup g = some owner ∧ owner.clientId = clientId ∧
    owner.wantsVoice = true

/-- A state from which the client's token can reach another client, with no further
take-over. -/
def CanLeak (cfg : Config) (g : Nat) (s : VoiceSystem) (clientId other : Str) : Prop :=
  ∃ u, Runs.Reaches (step cfg g) (fun s a => ¬ s.TakesOver cfg g a) s u ∧
    (clientId, Audience.client other) ∈ u.relayed

theorem CanLeak.of_reaches {clientId other : Str}
    (hReach : Runs.Reaches (step cfg g) (fun s a => ¬ s.TakesOver cfg g a) s t)
    (hLeak : t.CanLeak cfg g clientId other) : s.CanLeak cfg g clientId other := by
  obtain ⟨u, hRest, hMem⟩ := hLeak
  exact ⟨u, hReach.trans hRest, hMem⟩

theorem CanLeak.head {a : VoiceStep} {clientId other : Str} (hStep : s.step cfg g a = some t)
    (hNot : ¬ s.TakesOver cfg g a)
    (hLeak : t.CanLeak cfg g clientId other) : s.CanLeak cfg g clientId other := by
  obtain ⟨u, hReach, hMem⟩ := hLeak
  exact ⟨u, hReach.head hStep hNot, hMem⟩

/-- The owner's token, and every other token, goes to the owner. -/
theorem audienceFor_heldBy {clients : Clients} {other : Str} (hHeld : s.HeldBy g other)
    (hGuild : clientHasGuild clients other g = true) :
    audienceFor clients s.inner "VOICE_SERVER_UPDATE".toList (some g) = .client other := by
  obtain ⟨owner, hOwner, rfl, -⟩ := hHeld
  rw [audienceFor, if_neg (by simp), voiceOwner, hOwner, Option.map_some]
  exact if_pos hGuild

/-- No event takes the guild from an owner that wants voice. -/
theorem relayEvent_heldBy {clients : Clients} {other : Str} (event : BotVoiceEvent)
    (hHeld : s.HeldBy g other) :
    ∃ owner, (relayEvent clients s.inner g event).1.voiceOwners.lookup g = some owner ∧
      owner.clientId = other ∧ owner.wantsVoice = true := by
  obtain ⟨owner, hOwner, hSame, hWants⟩ := hHeld
  refine ⟨owner, ?_, hSame, hWants⟩
  cases event with
  | joined => exact hOwner
  | left =>
    rw [relayEvent, lookup_onBotVoiceLeave, if_pos rfl, hOwner]
    exact Option.filter_some_pos hWants
  | serverUpdate cause => exact hOwner

/-- The cache update that is due can be done, and changes nothing else. -/
theorem reaches_settled (cfg : Config) {other : Str} (hHeld : s.HeldBy g other) :
    ∃ t, Runs.Reaches (step cfg g) (fun s a => ¬ s.TakesOver cfg g a) s t ∧ t.updating = none ∧
      t.events = s.events ∧ t.HeldBy g other := by
  cases hUpdating : s.updating with
  | none => exact ⟨s, .refl s, hUpdating, rfl, hHeld⟩
  | some event =>
    have hStep : s.step cfg g .update =
        some { s with inner := updateCache s.inner g event, updating := none } := by
      rw [step, hUpdating]
      rfl
    refine ⟨_, .head hStep not_false (.refl _), rfl, rfl, ?_⟩
    obtain ⟨owner, hOwner, hRest⟩ := hHeld
    exact ⟨owner, by simpa using hOwner, hRest⟩

theorem relay_step (cfg : Config) (g : Nat) (clients : Clients) {event : BotVoiceEvent}
    {events : List BotVoiceEvent}
    (hUpdating : s.updating = none) (hEvents : s.events = event :: events) :
    s.step cfg g (.relay clients) = some { s with
      inner := (relayEvent clients s.inner g event).1
      events := events
      updating := some event
      relayed := s.relayed ++ (relayEvent clients s.inner g event).2 } := by
  rw [step, hUpdating, hEvents]

theorem discord_step {command : VoiceCommand} {queue : List VoiceCommand}
    (hQueue : s.queue = command :: queue) :
    s.step cfg g .discord = some { s with
      queue := queue
      inVoice := (answer s.inVoice command).1
      events := s.events ++ (answer s.inVoice command).2 } := by
  rw [step, hQueue]

/-- A token among the events reaches the owner. The events before it are handled
first, by induction on them. -/
theorem canLeak_of_events {clients : Clients} {clientId other : Str}
    (hGuild : clientHasGuild clients other g = true) {before after : List BotVoiceEvent}
    (hEvents : s.events = before ++ .serverUpdate clientId :: after)
    (hHeld : s.HeldBy g other) : s.CanLeak cfg g clientId other := by
  induction before generalizing s with
  | nil =>
    obtain ⟨t, hReach, hUpdating, hSame, hHeld⟩ := reaches_settled cfg hHeld
    have hStep := relay_step cfg g clients hUpdating (hSame.trans hEvents)
    refine .of_reaches hReach (.head hStep not_false ⟨_, .refl _, ?_⟩)
    refine List.mem_append_right _ ?_
    rw [relayEvent, audienceFor_heldBy hHeld hGuild]
    exact .head _
  | cons event before ih =>
    obtain ⟨t, hReach, hUpdating, hSame, hHeld⟩ := reaches_settled cfg hHeld
    have hStep := relay_step cfg g clients hUpdating (hSame.trans hEvents)
    exact .of_reaches hReach (.head hStep not_false (ih rfl (relayEvent_heldBy event hHeld)))

/-- A join in the queue is handled after those before it. -/
theorem canLeak_of_queue {clients : Clients} {clientId other : Str}
    (hGuild : clientHasGuild clients other g = true) {before after : List VoiceCommand}
    (hQueue : s.queue = before ++ .join clientId :: after)
    (hHeld : s.HeldBy g other) : s.CanLeak cfg g clientId other := by
  induction before generalizing s with
  | nil =>
    have hEvents : s.events ++ [.joined, .serverUpdate clientId] =
        (s.events ++ [.joined]) ++ .serverUpdate clientId :: [] := by
      rw [List.append_assoc]
      rfl
    exact .head (discord_step hQueue) not_false (canLeak_of_events hGuild hEvents hHeld)
  | cons command before ih => exact .head (discord_step hQueue) not_false (ih rfl hHeld)

/-- **A token on its way reaches the owner of the moment**, whoever joined. -/
theorem token_reaches (cfg : Config) {clients : Clients} {clientId other : Str}
    (hGuild : clientHasGuild clients other g = true) (hFlight : s.InFlight clientId)
    (hHeld : s.HeldBy g other) : s.CanLeak cfg g clientId other := by
  obtain hDecided | hQueue | hEvents := hFlight
  · obtain ⟨i, hGet⟩ := List.getElem?_of_mem hDecided
    have hStep : s.step cfg g (.enqueue i) = some { s with
        decided := s.decided.eraseIdx i
        queue := s.queue ++ [.join clientId] } := by
      rw [step, hGet]
      rfl
    exact .head hStep not_false (canLeak_of_queue hGuild rfl hHeld)
  · obtain ⟨before, after, hSplit⟩ := List.append_of_mem hQueue
    exact canLeak_of_queue hGuild hSplit hHeld
  · obtain ⟨before, after, hSplit⟩ := List.append_of_mem hEvents
    exact canLeak_of_events hGuild hSplit hHeld

/-- After a take-over the guild is held by the new client, an authorised one, and
the join of the other client is still in flight. -/
theorem takesOver_heldBy {a : VoiceStep} (hTakes : s.TakesOver cfg g a)
    (hStep : s.step cfg g a = some t) :
    ∃ clients clientId other, other ≠ clientId ∧ clientHasGuild clients clientId g = true ∧
      t.HeldBy g clientId ∧ t.InFlight other ∧ t.relayed = s.relayed := by
  cases a with
  | lock clients op =>
    cases op with
    | claim guildId clientId joining =>
      obtain ⟨rfl, rfl, hAllow, other, hOther, hFlight⟩ := hTakes
      rw [step] at hStep
      split at hStep
      · rename_i hCaused
        obtain rfl := Option.some.inj hStep
        refine ⟨clients, clientId, other, hOther, hCaused, ⟨⟨clientId, none, true⟩, ?_, rfl, rfl⟩,
          ?_, rfl⟩
        · dsimp only
          rw [VoiceOp.lookup_apply, VoiceOp.ownerStep, if_pos ⟨rfl, hAllow⟩]
          rfl
        · exact hFlight.imp_left (List.mem_append_left _)
      · cases hStep
    | _ => cases hTakes
  | _ => cases hTakes

end Steps

-- ---------------------------------------------------------------------------
-- Runs
-- ---------------------------------------------------------------------------

/-- **When voice tokens stay with the client that joined.** In every run, of any
clients and in any interleaving, in which no client's join is accepted while a
join of another client is in flight, no token is ever relayed to a client other
than the one whose join caused it. And from every state, a step that accepts such
a join leads, without another one, to a state in which the token of the other
client has reached the new owner. -/
theorem voice_token_confined_when (cfg : Config) (g : Nat) (shards : List Shard)
    (shardCount botUserId : Nat) :
    (∀ steps s, Runs.exec (step cfg g) (new shards shardCount botUserId) steps = some s →
      Runs.Meets (step cfg g) (fun s a => ¬ s.TakesOver cfg g a)
        (new shards shardCount botUserId) steps → s.TokensConfined) ∧
    ∀ (s : VoiceSystem) a t, s.step cfg g a = some t → s.TakesOver cfg g a →
      ∃ u, Runs.Reaches (step cfg g) (fun s a => ¬ s.TakesOver cfg g a) t u ∧
        ¬ u.TokensConfined := by
  constructor
  · intro steps s hRun hMeets
    have hInit : (new shards shardCount botUserId).OwnsInFlight g ∧
        (new shards shardCount botUserId).TokensConfined := by
      constructor
      · intro owner hOwner
        cases hOwner
      · intro clientId other hMem
        cases hMem
    exact (Runs.exec_invariant_of_meets (P := fun s => s.OwnsInFlight g ∧ s.TokensConfined)
      (fun _ _ _ hs hNot hStep => confined_step hs.1 hs.2 hNot hStep) hInit hMeets hRun).2
  · intro s a t hStep hTakes
    obtain ⟨clients, clientId, other, hOther, hGuild, hHeld, hFlight, -⟩ :=
      takesOver_heldBy hTakes hStep
    obtain ⟨u, hReach, hMem⟩ := token_reaches cfg hGuild hFlight hHeld
    exact ⟨u, hReach, fun hConfined => hOther (hConfined other clientId hMem).symm⟩

namespace SampleVoice

def cfg : Config := ⟨"bot".toList, true, true, [], none⟩

/-- Clients `a` and `b` of guild 7. -/
def clients : Clients :=
  ((∅ : Clients).insert ['a'] ⟨['s'], {7}, none, none⟩).insert ['b'] ⟨['s'], {7}, none, none⟩

/-- One shard; its cache shows no voice state. -/
def init : VoiceSystem := new [⟨0, none, ⟨[], [], []⟩⟩] 1 42

def claim (clientId : Str) (joining : Bool) : VoiceStep := .lock clients (.claim 7 clientId joining)

/-- `a` joins, and the events of the join are handled. -/
def joined : List VoiceStep :=
  [claim ['a'] true, .enqueue 0, .discord, .relay clients, .update, .relay clients]

/-- `b` joins while the join and the leave of `a` are in the queue. -/
def lateToken : List VoiceStep :=
  [claim ['a'] true, .enqueue 0, claim ['a'] false, .enqueue 0, claim ['b'] true, .discord,
    .relay clients, .update, .relay clients]

end SampleVoice

/-- The token of the join of `a` is relayed, and to `a`. -/
theorem voice_token_confined_when_joined :
    ∃ s, Runs.exec (step SampleVoice.cfg 7) SampleVoice.init SampleVoice.joined = some s ∧
      s.relayed = [(['a'], .client ['a'])] ∧ s.TokensConfined := by
  refine ⟨_, rfl, by decide +kernel, ?_⟩
  refine (voice_token_confined_when SampleVoice.cfg 7 _ 1 42).1 SampleVoice.joined _ rfl ?_
  have hClaim : ¬ SampleVoice.init.TakesOver SampleVoice.cfg 7 (SampleVoice.claim ['a'] true) := by
    rintro ⟨-, -, -, other, -, hIn | hIn | hIn⟩ <;> cases hIn
  exact ⟨hClaim, fun _ _ => ⟨id, fun _ _ => ⟨id, fun _ _ => ⟨id, fun _ _ => ⟨id, fun _ _ =>
    ⟨id, fun _ _ => trivial⟩⟩⟩⟩⟩⟩

/-- The token of the join of `a` is relayed to `b`. -/
theorem voice_token_leaked :
    ∃ s, Runs.exec (step SampleVoice.cfg 7) SampleVoice.init SampleVoice.lateToken = some s ∧
      ¬ s.TokensConfined := by
  refine ⟨_, rfl, ?_⟩
  intro hConfined
  have hSame : ['b'] = ['a'] := hConfined ['a'] ['b'] (by decide +kernel)
  exact absurd hSame (by decide)

end VoiceSystem

end GatewayProxy
