import GatewayProxy.Source.Model
import GatewayProxy.Source.State

/-!
# Relaying the events of a shard

`dispatch.rs`. The task of a shard handles one event at a time: it decides who
may receive it, broadcasts it to the connections subscribed at that moment,
buffers it for clients without a connection, and then updates the cache.
-/

namespace GatewayProxy

open Utf8 Assoc

/-- Which multi-tenant clients may receive an event. -/
inductive Audience
  /-- every client authorised for the guild -/
  | guild
  /-- only single-tenant sessions -/
  | botOnly
  /-- only this multi-tenant client, and single-tenant sessions -/
  | client (clientId : Str)
  deriving DecidableEq

/-- A relayed event. The place of its sequence number was read off its text, so
that the number can be replaced in place. -/
structure BroadcastMessage where
  payload : Str
  sequence : Option SequenceInfo
  guildId : Option Nat
  audience : Audience
  sequence_eq : sequence = GatewayEvent.findSequence payload

def audienceFor (clients : Clients) (inner : Inner) (eventName : Str) (guildId : Option Nat) :
    Audience :=
  if eventName ≠ "VOICE_SERVER_UPDATE".toList then .guild
  else match guildId with
    | none => .botOnly
    | some guildId =>
      -- current access: a revoked owner keeps the guild until the sweep
      match inner.voiceOwner guildId with
      | some clientId =>
        if clientHasGuild clients clientId guildId then .client clientId else .botOnly
      | none => .botOnly

/-- Feeds the bot's own voice state into the voice owner lock. -/
def trackBotVoiceState (lib : JsonLib) (inner : Inner) (payload : Str) (guildId : Option Nat) :
    Inner :=
  match guildId, inner.botUserId with
  | some guildId, some botUserId =>
    match lib.parseVoiceStateEvent payload with
    | some event =>
      if event.channelId.isNone ∧ parseU64 event.userId = some botUserId then
        inner.onBotVoiceLeave guildId
      else inner
    | none => inner
  | _, _ => inner

def wakeCooldown : Nat := 10 * 1000

def shouldBufferEvent (eventName : Str) : Bool :=
  ["MESSAGE_CREATE".toList, "MESSAGE_UPDATE".toList, "MESSAGE_DELETE".toList,
    "THREAD_CREATE".toList, "THREAD_UPDATE".toList, "THREAD_DELETE".toList].contains eventName

/-- One round of the loop over the registry: buffers the event for a client
that is authorised and not connected, and returns where to wake it. -/
def bufferEventForClient (event : BufferedClientEvent) (guildId now : Nat)
    (inner : Inner) (clientId : Str) (config : ClientConfig) :
    Option (Str × Str × Str) × Inner :=
  if guildId ∉ config.guilds then (none, inner)
  else if inner.isClientConnected clientId then (none, inner)
  else
    let pushed := inner.pushOfflineEventForClient clientId event
    let (shouldWake, woken) := pushed.shouldWakeClient clientId wakeCooldown now
    if shouldWake then
      (config.reachableUrl.map fun url => (clientId, url, clientId ++ ':' :: config.secret), woken)
    else (none, woken)

/-- The loop over the registry. The clock is read for each client. -/
def bufferEventForClients (event : BufferedClientEvent) (guildId : Nat) (now : Str → Nat) :
    List (Str × ClientConfig) → Inner → List (Str × Str × Str) × Inner
  | [], inner => ([], inner)
  | (clientId, config) :: rest, inner =>
    let (target, inner) := bufferEventForClient event guildId (now clientId) inner clientId config
    let (targets, inner) := bufferEventForClients event guildId now rest inner
    (target.toList ++ targets, inner)

def bufferEventForDisconnectedClients (clients : Clients) (inner : Inner)
    (event : BufferedClientEvent) (now : Str → Nat) : List (Str × Str × Str) × Inner :=
  match event.guildId with
  | none => ([], inner)
  | some guildId =>
    bufferEventForClients event guildId now (clients.entries.map fun e => (e.1, e.2)) inner

-- ---------------------------------------------------------------------------
-- One event of the shard
-- ---------------------------------------------------------------------------

/-- The name of an event that is relayed: a dispatch, while the shard is ready,
that is neither READY, which the proxy fakes, nor RESUMED. -/
def relayedName (event : GatewayEvent) (isReady : Bool) : Option Str :=
  match event.eventType with
  | none => none
  | some info =>
    if info.name = "READY".toList ∨ info.name = "RESUMED".toList then none
    else if event.op.op = 0 ∧ isReady = true then some info.name else none

/-- The step before the broadcast. -/
def trackEvent (lib : JsonLib) (inner : Inner) (eventName payload : Str)
    (guildId : Option Nat) : Inner :=
  if eventName = "VOICE_STATE_UPDATE".toList then trackBotVoiceState lib inner payload guildId
  else inner

/-- The message broadcast for a relayed event. -/
def broadcastMessage (clients : Clients) (inner : Inner) (payload : Str) (event : GatewayEvent)
    (eventName : Str) (hEvent : GatewayEvent.fromJson payload = some event) :
    BroadcastMessage where
  payload := payload
  sequence := event.sequence
  guildId := event.guildId
  audience := audienceFor clients inner eventName event.guildId
  sequence_eq := GatewayEvent.fromJson_sequence hEvent

def BroadcastMessage.buffered (message : BroadcastMessage) : BufferedClientEvent :=
  ⟨message.payload, message.sequence, message.guildId, message.sequence_eq⟩

/-- The step after the broadcast. -/
def bufferEvent (clients : Clients) (inner : Inner) (eventName : Str)
    (message : BroadcastMessage) (now : Str → Nat) : List (Str × Str × Str) × Inner :=
  if shouldBufferEvent eventName then
    bufferEventForDisconnectedClients clients inner message.buffered now
  else ([], inner)

-- ---------------------------------------------------------------------------
-- What buffering does for one client
-- ---------------------------------------------------------------------------

section Buffering

variable (event : BufferedClientEvent) (guildId : Nat) (inner : Inner)

/-- One round of the loop concerns the client of the round only. -/
theorem offlineBuffer_bufferEventForClient (now : Nat) (c clientId : Str) (config : ClientConfig) :
    (bufferEventForClient event guildId now inner clientId config).2.offlineBuffer c =
        (if c = clientId ∧ guildId ∈ config.guilds ∧ inner.connectionCount clientId = 0 then
          Inner.pushBounded (inner.offlineBuffer c) event
        else inner.offlineBuffer c) ∧
      ∀ d, (bufferEventForClient event guildId now inner clientId config).2.connectionCount d =
        inner.connectionCount d := by
  unfold bufferEventForClient Inner.isClientConnected
  by_cases hGuild : guildId ∈ config.guilds
  · by_cases hCount : inner.connectionCount clientId = 0
    · rw [if_neg (by simpa using hGuild), if_neg (by simp [hCount])]
      obtain ⟨attempts, hWoken⟩ := Inner.shouldWakeClient_lastWakeAttempts
        (inner.pushOfflineEventForClient clientId event) clientId wakeCooldown now
      dsimp only
      have hInner : ∀ (targets : Option (Str × Str × Str)) (woken : Bool),
          (if woken = true then
            (targets, ((inner.pushOfflineEventForClient clientId event).shouldWakeClient clientId
              wakeCooldown now).2)
          else (none, ((inner.pushOfflineEventForClient clientId event).shouldWakeClient clientId
              wakeCooldown now).2)).2 =
            { inner.pushOfflineEventForClient clientId event with
              lastWakeAttempts := attempts } := by
        intro targets woken
        rw [hWoken]
        split <;> rfl
      rw [hInner]
      refine ⟨?_, fun d => rfl⟩
      show (inner.pushOfflineEventForClient clientId event).offlineBuffer c = _
      rw [Inner.offlineBuffer_push]
      by_cases hc : c = clientId
      · rw [if_pos hc, if_pos ⟨hc, hGuild, hCount⟩, hc]
      · rw [if_neg hc, if_neg fun h => hc h.1]
    · rw [if_neg (by simpa using hGuild), if_pos (by simp; omega), if_neg fun h => hCount h.2.2]
      exact ⟨rfl, fun d => rfl⟩
  · rw [if_pos hGuild, if_neg fun h => hGuild h.2.1]
    exact ⟨rfl, fun d => rfl⟩

/-- The loop over the registry. A client comes up once, so its event is pushed
once. -/
theorem offlineBuffer_bufferEventForClients (now : Str → Nat) (c : Str)
    (l : List (Str × ClientConfig))
    (hKeys : (l.map Prod.fst).Nodup) :
    (bufferEventForClients event guildId now l inner).2.offlineBuffer c =
        (if (∃ entry ∈ l, entry.1 = c ∧ guildId ∈ entry.2.guilds) ∧
            inner.connectionCount c = 0 then
          Inner.pushBounded (inner.offlineBuffer c) event
        else inner.offlineBuffer c) ∧
      ∀ d, (bufferEventForClients event guildId now l inner).2.connectionCount d =
        inner.connectionCount d := by
  induction l generalizing inner with
  | nil =>
    rw [if_neg (by simp)]
    exact ⟨rfl, fun d => rfl⟩
  | cons entry rest ih =>
    obtain ⟨clientId, config⟩ := entry
    obtain ⟨hFresh, hRest⟩ := List.nodup_cons.mp hKeys
    obtain ⟨hHere, hCounts⟩ := offlineBuffer_bufferEventForClient event guildId inner
      (now clientId) c clientId config
    obtain ⟨hThere, hCounts'⟩ :=
      ih (bufferEventForClient event guildId (now clientId) inner clientId config).2 hRest
    rw [hCounts, hHere] at hThere
    refine ⟨hThere.trans ?_, fun d => (hCounts' d).trans (hCounts d)⟩
    by_cases hc : clientId = c
    · have hNotRest : ¬ ∃ entry ∈ rest, entry.1 = c ∧ guildId ∈ entry.2.guilds := by
        rintro ⟨entry, hMem, hKey, -⟩
        exact hFresh (List.mem_map.mpr ⟨entry, hMem, hKey.trans hc.symm⟩)
      rw [if_neg fun h => hNotRest h.1]
      simp only [List.exists_mem_cons_iff, hNotRest, or_false, hc, true_and]
    · simp only [List.exists_mem_cons_iff, hc, Ne.symm hc, false_and, false_or, if_false]

/-- The kinds of events that are kept for clients that are away. -/
def keptKinds : List Str :=
  ["MESSAGE_CREATE".toList, "MESSAGE_UPDATE".toList, "MESSAGE_DELETE".toList,
    "THREAD_CREATE".toList, "THREAD_UPDATE".toList, "THREAD_DELETE".toList]

theorem shouldBufferEvent_eq (eventName : Str) :
    shouldBufferEvent eventName = decide (eventName ∈ keptKinds) :=
  List.contains_eq_mem eventName keptKinds

/-- Whether an event is kept for a client while it is away: it is of one of the six
kinds, and its guild is one of the client's. -/
def isBufferedFor (clients : Clients) (c eventName : Str) (event : BroadcastMessage) : Bool :=
  decide (eventName ∈ keptKinds) &&
    event.guildId.any fun guildId => clientHasGuild clients c guildId

/-- The step after the broadcast pushes the event for every client it is kept
for that has no connection, once. -/
theorem offlineBuffer_bufferEvent (inner : Inner) (now : Str → Nat) (clients : Clients)
    (c eventName : Str) (event : BroadcastMessage) :
    (bufferEvent clients inner eventName event now).2.offlineBuffer c =
        (if isBufferedFor clients c eventName event ∧ inner.connectionCount c = 0 then
          Inner.pushBounded (inner.offlineBuffer c) event.buffered
        else inner.offlineBuffer c) ∧
      ∀ d, (bufferEvent clients inner eventName event now).2.connectionCount d =
        inner.connectionCount d := by
  unfold bufferEvent isBufferedFor bufferEventForDisconnectedClients
  rw [← shouldBufferEvent_eq]
  cases hName : shouldBufferEvent eventName with
  | false => simp
  | true =>
    cases hGuild : event.guildId with
    | none => simp [BroadcastMessage.buffered, hGuild]
    | some guildId =>
      have hKeys : ((clients.entries.map fun e => (e.1, e.2)).map Prod.fst).Nodup := by
        rw [List.map_map]
        exact clients.nodupKeys
      have hMem : (∃ entry ∈ clients.entries.map fun e => (e.1, e.2),
          entry.1 = c ∧ guildId ∈ entry.2.guilds) ↔ clientHasGuild clients c guildId = true := by
        unfold clientHasGuild
        constructor
        · rintro ⟨entry, hMem, rfl, hGuild⟩
          obtain ⟨⟨clientId, config⟩, hEntry, rfl⟩ := List.mem_map.mp hMem
          rw [Map.mem_entries_iff.mp hEntry]
          exact decide_eq_true hGuild
        · intro hHas
          split at hHas
          · rename_i config hLookup
            have hEntry := Map.mem_entries_iff.mpr hLookup
            exact ⟨(c, config), List.mem_map.mpr ⟨⟨c, config⟩, hEntry, rfl⟩, rfl,
              of_decide_eq_true hHas⟩
          · cases hHas
      have hLoop := offlineBuffer_bufferEventForClients event.buffered guildId inner now c _ hKeys
      simp only [hMem] at hLoop
      simpa [BroadcastMessage.buffered, hGuild] using hLoop

end Buffering

end GatewayProxy
