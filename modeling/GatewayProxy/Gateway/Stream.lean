import GatewayProxy.Gateway.Header
import GatewayProxy.Source.Server

/-!
# What a tenant's connection is sent

The stream of a tenant's connection, over every offline buffer, every stream of
broadcasts and every registry at each event. Replayed and live events are
treated alike: both phases come down to `sendEvents` on their visible events.
`Carries` relates an event to the text sent for it, and `Numbered` says how a
list of messages advances the sequence counter.

Main results:

* `replay_eq`, `live_eq`, `preamble_restrict`: each phase depends on what is
  visible to the tenant only.
* `sendEvents_spec`, `preamble_numbered`: each phase numbers what it sends.
* `Carries.compact`: a compact payload is sent with its new number and nothing else
  changed.
* `tenant_stream_exact`: after the preamble come exactly the visible events, the
  sequence numbers of the connection are consecutive, and two runs with the same
  visible events send the same messages.
-/

namespace GatewayProxy

open Utf8 Assoc

/-- The sequence number of a message, as the client reads it. -/
def Message.sequence : Message → Option Nat
  | .text s => (GatewayEvent.findSequence s).map SequenceInfo.sequence
  | .ready payload => some payload.s
  | .guild payload => some payload.s
  | .close _ _ => none

/-- The sequence numbers of the messages, in order. -/
def sequences (messages : List Message) : List Nat := messages.filterMap Message.sequence

-- ---------------------------------------------------------------------------
-- What is visible to a tenant
-- ---------------------------------------------------------------------------

/-- An event of a guild that is the client's at that moment. -/
def guildVisible (clients : Clients) (clientId : Str) (guildId : Option Nat) : Prop :=
  ∃ g, guildId = some g ∧ g ∈ (clientGuilds clients clientId).getD ∅

instance (clients : Clients) (clientId : Str) (guildId : Option Nat) :
    Decidable (guildVisible clients clientId guildId) :=
  match guildId with
  | some g => decidable_of_iff (g ∈ (clientGuilds clients clientId).getD ∅)
      ⟨fun h => ⟨g, rfl, h⟩, fun ⟨_, h, hMem⟩ => Option.some.inj h ▸ hMem⟩
  | none => isFalse fun ⟨_, h, _⟩ => by simp at h

/-- An audience that this client belongs to. -/
def audienceVisible (clientId : Str) (audience : Audience) : Prop :=
  audience = .guild ∨ audience = .client clientId

instance (clientId : Str) (audience : Audience) : Decidable (audienceVisible clientId audience) :=
  inferInstanceAs (Decidable (_ ∨ _))

def visibleReplayed (clientId : Str) (buffered : List (Clients × BufferedClientEvent)) :
    List BufferedClientEvent :=
  buffered.filterMap fun e =>
    if guildVisible e.1 clientId e.2.guildId then some e.2 else none

def visibleLive (clientId : Str) (received : List (Clients × RecvResult)) :
    List BufferedClientEvent :=
  received.filterMap fun e =>
    match e.2 with
    | .lagged _ => none
    | .message event =>
      if audienceVisible clientId event.audience ∧ guildVisible e.1 clientId event.guildId then
        some event.buffered
      else none

/-- What the cache holds of the client's guilds. -/
def Guilds.restrict (guilds : Guilds) (authorized : Finset Nat) : Guilds where
  guilds := guilds.guilds.filter fun guild => guild.id ∈ authorized
  unavailableGuilds := guilds.unavailableGuilds.filter (· ∈ authorized)
  voiceStates := []

section Filters

variable {task : ForwardTask} {clientId : Str} {authorized : Finset Nat}

theorem passesGuild_iff (hClient : task.clientId = some clientId)
    (hAuthorized : task.authorizedGuilds = some authorized) (clients : Clients)
    (guildId : Option Nat) :
    task.passesGuild clients guildId = true ↔ guildVisible clients clientId guildId := by
  unfold ForwardTask.passesGuild guildVisible
  rw [hAuthorized]
  cases guildId with
  | none => simp
  | some g =>
    dsimp only
    rw [ForwardTask.isLiveGuild, hClient]
    dsimp only
    rw [clientHasGuild_iff]
    constructor
    · exact fun h => ⟨g, rfl, h⟩
    · rintro ⟨g', hEq, h⟩
      exact Option.some.inj hEq ▸ h

theorem passesAudience_iff (hClient : task.clientId = some clientId)
    (hAuthorized : task.authorizedGuilds = some authorized) (audience : Audience) :
    task.passesAudience audience = true ↔ audienceVisible clientId audience := by
  unfold ForwardTask.passesAudience audienceVisible
  rw [hAuthorized, hClient]
  cases audience with
  | guild => simp
  | botOnly => simp
  | client owner =>
    rw [beq_iff_eq]
    constructor
    · intro hOwner
      rw [Option.some.inj hOwner]
      exact .inr rfl
    · rintro (hGuild | hOwner)
      · simp at hGuild
      · rw [Audience.client.inj hOwner]

end Filters

-- ---------------------------------------------------------------------------
-- One event
-- ---------------------------------------------------------------------------

/-- The text is the event's own, with the message's sequence number in the place of
the event's. -/
def Carries (event : BufferedClientEvent) (message : Message) : Prop :=
  ∃ text, message = .text text ∧
    match event.sequence with
    | none => text = event.payload
    | some info => ∃ n, message.sequence = some n ∧
        replaceRange event.payload info.range (formatNat n) = some text

/-- The messages advance the counter from `seq` to `seq'`, and below the wrap
number themselves consecutively. -/
def Numbered (seq : Nat) (messages : List Message) (seq' : Nat) : Prop :=
  seq + (sequences messages).length < 2 ^ 64 →
    sequences messages = List.range' (seq + 1) (sequences messages).length ∧
      seq' = seq + (sequences messages).length

theorem Numbered.nil (seq : Nat) : Numbered seq [] seq := fun _ => ⟨rfl, rfl⟩

theorem sequences_append (a b : List Message) : sequences (a ++ b) = sequences a ++ sequences b :=
  List.filterMap_append

/-- Numbered stretches compose. -/
theorem Numbered.append {seq seq' seq'' : Nat} {a b : List Message} (hA : Numbered seq a seq')
    (hB : Numbered seq' b seq'') : Numbered seq (a ++ b) seq'' := by
  intro hBound
  rw [sequences_append, List.length_append] at hBound ⊢
  obtain ⟨hFirst, rfl⟩ := hA (by omega)
  obtain ⟨hSecond, rfl⟩ := hB (by omega)
  refine ⟨?_, by omega⟩
  calc sequences a ++ sequences b
      = List.range' (seq + 1) (sequences a).length ++
          List.range' (seq + (sequences a).length + 1) (sequences b).length := by
        rw [← hFirst, ← hSecond]
    _ = List.range' (seq + 1) ((sequences a).length + (sequences b).length) := by
        rw [show seq + (sequences a).length + 1 = seq + 1 + (sequences a).length by omega,
          List.range'_append_1]

theorem Numbered.one {seq : Nat} {message : Message}
    (h : message.sequence = some (nextSeq seq)) : Numbered seq [message] (nextSeq seq) := by
  have hOne : sequences [message] = [nextSeq seq] := by
    rw [sequences, List.filterMap_cons_some h, List.filterMap_nil]
  intro hBound
  rw [hOne] at hBound ⊢
  rw [nextSeq_of_lt hBound]
  exact ⟨rfl, rfl⟩

theorem Numbered.silent {seq : Nat} {message : Message} (h : message.sequence = none) :
    Numbered seq [message] seq := by
  have hNone : sequences [message] = [] := by
    rw [sequences, List.filterMap_cons_none h, List.filterMap_nil]
  intro hBound
  rw [hNone]
  exact ⟨rfl, rfl⟩

/-- Overwriting never fails, changes nothing but the number, and an event that
has a number takes the next one. -/
theorem overwriteSequence_spec (event : BufferedClientEvent) (seq : Nat) :
    ∃ text seq', overwriteSequence event.payload event.sequence seq = some (text, seq') ∧
      Carries event (.text text) ∧ Numbered seq [.text text] seq' := by
  unfold overwriteSequence
  cases hSequence : event.sequence with
  | none =>
    refine ⟨event.payload, seq, rfl, ⟨event.payload, rfl, ?_⟩, ?_⟩
    · rw [hSequence]
    · refine .silent ?_
      rw [Message.sequence, ← event.sequence_eq, hSequence]
      rfl
  | some info =>
    have hFound : GatewayEvent.findSequence event.payload = some info :=
      event.sequence_eq ▸ hSequence
    have hBound : nextSeq seq < u64Bound := Nat.mod_lt _ (by decide)
    obtain ⟨text, hText, hRead⟩ := GatewayEvent.findSequence_rewrite hFound hBound
    refine ⟨text, nextSeq seq, ?_, ⟨text, rfl, ?_⟩, .one hRead⟩
    · dsimp only
      rw [hText]
      rfl
    · rw [hSequence]
      exact ⟨nextSeq seq, hRead, hText⟩

/-- **A compact payload is sent with another number and no other change.** -/
theorem Carries.compact {event : BufferedClientEvent} {message : Message} {p : CompactPayload}
    (h : Carries event message) (hPayload : event.payload = p.text) :
    ∃ (n : Nat) (hn : n < u64Bound),
      message.sequence = some n ∧ message = .text (p.withSequence n hn).text := by
  obtain ⟨text, rfl, hText⟩ := h
  obtain ⟨info, hInfo, -, -⟩ := p.replaceRange_text p.sequence_lt
  have hSequence : event.sequence = some info := by
    rw [event.sequence_eq, hPayload, hInfo]
  rw [hSequence] at hText
  obtain ⟨n, hNumber, hText⟩ := hText
  have hn : n < u64Bound := by
    obtain ⟨found, hFound, rfl⟩ := Option.map_eq_some_iff.mp hNumber
    obtain ⟨-, clean, -, -, -, hParse, -⟩ := findSequence_split hFound
    exact of_decide_eq_true (Option.filter_eq_some_iff.mp hParse).2
  obtain ⟨info', hInfo', -, hReplace⟩ := p.replaceRange_text hn
  obtain rfl := Option.some.inj (hInfo.symm.trans hInfo')
  rw [hPayload, hReplace] at hText
  exact ⟨n, hn, hNumber, congrArg Message.text (Option.some.inj hText).symm⟩

-- ---------------------------------------------------------------------------
-- The phases
-- ---------------------------------------------------------------------------

/-- The events in order, each with its number overwritten. -/
def sendEvents : List BufferedClientEvent → Nat → Option (List Message × Nat)
  | [], seq => some ([], seq)
  | event :: rest, seq => do
    let (text, seq) ← overwriteSequence event.payload event.sequence seq
    let (messages, seq) ← sendEvents rest seq
    return (.text text :: messages, seq)

/-- Sending never fails, sends each event once and in order, and numbers what
it sends. -/
theorem sendEvents_spec (events : List BufferedClientEvent) (seq : Nat) :
    ∃ messages seq', sendEvents events seq = some (messages, seq') ∧
      List.Forall₂ Carries events messages ∧ Numbered seq messages seq' := by
  induction events generalizing seq with
  | nil => exact ⟨[], seq, rfl, .nil, .nil seq⟩
  | cons event rest ih =>
    obtain ⟨text, seq', hText, hCarries, hOne⟩ := overwriteSequence_spec event seq
    obtain ⟨messages, seq'', hRest, hAll, hMany⟩ := ih seq'
    refine ⟨.text text :: messages, seq'', ?_, .cons hCarries hAll, hOne.append hMany⟩
    simp [sendEvents, hText, hRest]

section Phases

variable {task : ForwardTask} {clientId : Str} {authorized : Finset Nat}

/-- The replay depends on the visible events only. -/
theorem replay_eq (hClient : task.clientId = some clientId)
    (hAuthorized : task.authorizedGuilds = some authorized)
    (buffered : List (Clients × BufferedClientEvent)) (seq : Nat) :
    task.replay buffered seq = sendEvents (visibleReplayed clientId buffered) seq := by
  induction buffered generalizing seq with
  | nil => rfl
  | cons entry rest ih =>
    obtain ⟨clients, event⟩ := entry
    have hPasses := passesGuild_iff hClient hAuthorized clients event.guildId
    rw [ForwardTask.replay, visibleReplayed, List.filterMap_cons]
    by_cases hVisible : guildVisible clients clientId event.guildId
    · rw [if_pos (hPasses.mpr hVisible), if_pos hVisible]
      dsimp only
      rw [sendEvents]
      simp only [ih]
      rfl
    · rw [if_neg (fun h => hVisible (hPasses.mp h)), if_neg hVisible]
      exact ih seq

/-- The live loop depends on the visible events only. -/
theorem live_eq (hClient : task.clientId = some clientId)
    (hAuthorized : task.authorizedGuilds = some authorized)
    (received : List (Clients × RecvResult)) (seq : Nat) :
    task.live received seq = sendEvents (visibleLive clientId received) seq := by
  induction received generalizing seq with
  | nil => rfl
  | cons entry rest ih =>
    obtain ⟨clients, result⟩ := entry
    rw [visibleLive, List.filterMap_cons]
    cases result with
    | lagged amount =>
      rw [ForwardTask.live]
      exact ih seq
    | message event =>
      have hPasses := passesGuild_iff hClient hAuthorized clients event.guildId
      have hAudience := passesAudience_iff hClient hAuthorized event.audience
      rw [ForwardTask.live]
      by_cases hVisible : audienceVisible clientId event.audience ∧
          guildVisible clients clientId event.guildId
      · rw [if_pos (by rw [hAudience.mpr hVisible.1, hPasses.mpr hVisible.2]; rfl)]
        dsimp only
        rw [if_pos hVisible]
        dsimp only
        rw [sendEvents]
        simp only [ih]
        rfl
      · rw [if_neg fun h => hVisible (by
          rw [Bool.and_eq_true] at h
          exact ⟨hAudience.mp h.1, hPasses.mp h.2⟩)]
        dsimp only
        rw [if_neg hVisible]
        exact ih seq

/-- The preamble depends on the client's part of the cache only. -/
theorem preamble_restrict (hAuthorized : task.authorizedGuilds = some authorized)
    (ready : JsonObject) (guilds : Guilds) :
    task.preamble ready guilds = task.preamble ready (guilds.restrict authorized) := by
  have hReady : readyGuilds guilds (some authorized) =
      readyGuilds (guilds.restrict authorized) (some authorized) := by
    unfold readyGuilds Guilds.restrict
    dsimp only
    rw [List.filterMap_filter, List.filter_filter]
    congr 1
    · apply List.filterMap_congr
      intro guild _
      by_cases hMem : guild.id ∈ authorized <;> simp [isAuthorized, hMem]
    · congr 1
      apply List.filter_congr
      intro guildId _
      simp [isAuthorized]
  have hPayloads : ∀ seq, getGuildPayloads guilds seq (some authorized) =
      getGuildPayloads (guilds.restrict authorized) seq (some authorized) := by
    intro seq
    unfold getGuildPayloads Guilds.restrict
    dsimp only
    rw [List.filter_filter]
    simp [isAuthorized]
  unfold ForwardTask.preamble
  rw [hAuthorized]
  unfold getReadyPayload
  simp only [hReady, hPayloads]

end Phases

/-- The guild payloads number themselves. -/
theorem numberGuilds_numbered (guilds : List CachedGuild) (seq : Nat) :
    Numbered seq ((numberGuilds guilds seq).1.map .guild) (numberGuilds guilds seq).2 := by
  induction guilds generalizing seq with
  | nil => exact .nil seq
  | cons guild rest ih =>
    have hOne : Numbered seq [.guild (guildPayload guild (nextSeq seq))] (nextSeq seq) :=
      .one (by rw [Message.sequence, guildPayload_s])
    exact hOne.append (ih (nextSeq seq))

/-- READY and the guild payloads are numbered from the initial value, and
RESUMED has no number. -/
theorem preamble_numbered (task : ForwardTask) (ready : JsonObject) (guilds : Guilds) :
    Numbered task.seq (task.preamble ready guilds).1 (task.preamble ready guilds).2 := by
  unfold ForwardTask.preamble
  split
  · exact (Numbered.one rfl).append (numberGuilds_numbered _ (nextSeq task.seq))
  · exact .silent (by decide)

/-- One run: the preamble, the visible events and their numbers. -/
theorem forwardShard_spec (task : ForwardTask) (clientId : Str) (authorized : Finset Nat)
    (ready : JsonObject) (guilds : Guilds) (buffered : List (Clients × BufferedClientEvent))
    (received : List (Clients × RecvResult)) (hClient : task.clientId = some clientId)
    (hAuthorized : task.authorizedGuilds = some authorized) :
    ∃ events messages,
      task.forwardShard ready guilds buffered received = some messages ∧
      messages = (task.preamble ready guilds).1 ++ events ∧
      List.Forall₂ Carries (visibleReplayed clientId buffered ++ visibleLive clientId received)
        events ∧
      (task.seq + (sequences messages).length < 2 ^ 64 →
        sequences messages = List.range' (task.seq + 1) (sequences messages).length) := by
  obtain ⟨replayed, seq, hReplay, hReplayed, hNumbered⟩ :=
    sendEvents_spec (visibleReplayed clientId buffered) (task.preamble ready guilds).2
  obtain ⟨forwarded, seq', hLive, hForwarded, hNumbered'⟩ :=
    sendEvents_spec (visibleLive clientId received) seq
  rw [← replay_eq hClient hAuthorized] at hReplay
  rw [← live_eq hClient hAuthorized] at hLive
  refine ⟨replayed ++ forwarded, _, ?_, rfl, List.rel_append hReplayed hForwarded, fun hBound => ?_⟩
  · unfold ForwardTask.forwardShard
    rw [hClient]
    simp [hReplay, hLive]
  · have hAll := (preamble_numbered task ready guilds).append (hNumbered.append hNumbered')
    exact (hAll hBound).1

/-- Two runs that agree on what is visible. -/
theorem forwardShard_congr {task : ForwardTask} {clientId : Str} {authorized : Finset Nat}
    {ready : JsonObject} {guilds guilds' : Guilds}
    {buffered buffered' : List (Clients × BufferedClientEvent)}
    {received received' : List (Clients × RecvResult)} (hClient : task.clientId = some clientId)
    (hAuthorized : task.authorizedGuilds = some authorized)
    (hGuilds : guilds.restrict authorized = guilds'.restrict authorized)
    (hReplayed : visibleReplayed clientId buffered = visibleReplayed clientId buffered')
    (hLive : visibleLive clientId received = visibleLive clientId received') :
    task.forwardShard ready guilds buffered received =
      task.forwardShard ready guilds' buffered' received' := by
  unfold ForwardTask.forwardShard
  rw [preamble_restrict hAuthorized ready guilds, preamble_restrict hAuthorized ready guilds',
    hGuilds]
  simp only [replay_eq hClient hAuthorized, live_eq hClient hAuthorized, hReplayed, hLive]

/-- **Tenant stream exactness and noninterference.** For every tenant's
connection, offline buffer, broadcasts and registries: `forward_shard` sends its
preamble and then exactly the visible replayed and live events, in order and
once each; the sequence numbers of all it sends are consecutive from the initial
value plus one, as long as they stay below `2 ^ 64`. Two runs that agree on the
client's part of the cache and on the visible events send the same messages,
whatever else is broadcast, buffered or cached. -/
theorem tenant_stream_exact (task : ForwardTask) (clientId : Str) (authorized : Finset Nat)
    (ready : JsonObject) (hClient : task.clientId = some clientId)
    (hAuthorized : task.authorizedGuilds = some authorized) :
    (∀ guilds buffered received, ∃ events messages,
      task.forwardShard ready guilds buffered received = some messages ∧
      messages = (task.preamble ready guilds).1 ++ events ∧
      List.Forall₂ Carries (visibleReplayed clientId buffered ++ visibleLive clientId received)
        events ∧
      (task.seq + (sequences messages).length < 2 ^ 64 →
        sequences messages = List.range' (task.seq + 1) (sequences messages).length)) ∧
    ∀ guilds guilds' buffered buffered' received received',
      guilds.restrict authorized = guilds'.restrict authorized →
      visibleReplayed clientId buffered = visibleReplayed clientId buffered' →
      visibleLive clientId received = visibleLive clientId received' →
      task.forwardShard ready guilds buffered received =
        task.forwardShard ready guilds' buffered' received' :=
  ⟨fun guilds buffered received => forwardShard_spec task clientId authorized ready guilds
      buffered received hClient hAuthorized,
    fun _ _ _ _ _ _ hGuilds hReplayed hLive =>
      forwardShard_congr hClient hAuthorized hGuilds hReplayed hLive⟩

namespace SampleStream

def clients : Clients := (∅ : Clients).insert "c".toList ⟨"s".toList, {7}, none, none⟩

/-- A message in a guild. -/
def event (guildId : Nat) : BroadcastMessage where
  payload := "\x7b\"t\":\"MESSAGE_CREATE\",\"s\":90,\"op\":0,\"d\":\x7b\x7d\x7d".toList
  sequence := GatewayEvent.findSequence
    "\x7b\"t\":\"MESSAGE_CREATE\",\"s\":90,\"op\":0,\"d\":\x7b\x7d\x7d".toList
  guildId := some guildId
  audience := .guild
  sequence_eq := rfl

/-- A resumed connection of client `c`, whose counter stands at 4. -/
def task : ForwardTask := ⟨"session".toList, 0, false, 4, some {7}, some "c".toList⟩

def guilds : Guilds := ⟨[], [], []⟩

end SampleStream

/-- A message of guild 8 between two of guild 7 leaves no trace in the stream of
a client of guild 7. -/
theorem tenant_stream_exact_hides_guild :
    SampleStream.task.forwardShard ∅ SampleStream.guilds []
        [(SampleStream.clients, .message (SampleStream.event 7)),
          (SampleStream.clients, .message (SampleStream.event 8)),
          (SampleStream.clients, .message (SampleStream.event 7))] =
      SampleStream.task.forwardShard ∅ SampleStream.guilds []
        [(SampleStream.clients, .message (SampleStream.event 7)),
          (SampleStream.clients, .message (SampleStream.event 7))] :=
  (tenant_stream_exact SampleStream.task "c".toList {7} ∅ rfl rfl).2 _ _ _ _ _ _ rfl rfl rfl

end GatewayProxy
