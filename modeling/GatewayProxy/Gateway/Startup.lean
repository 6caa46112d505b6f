import GatewayProxy.Gateway.Stream
import GatewayProxy.Lib.Broadcast
import GatewayProxy.Lib.Runs

/-!
# The startup snapshot and the live stream

The task of a fresh connection builds READY and the guild payloads from the
cache, replays, and only then subscribes; the shard's task broadcasts each event
and then updates the cache. The steps of the two tasks interleave freely.

An event is in the snapshot if its cache update came before, and in the live
stream if its broadcast came after the subscription; `NoGap` says that every
event the connection is entitled to is in one of the two.

Main results:

* `clean_step`: a step keeps the connection without a gap exactly when it is no
  `MissStep`.
* `startup_no_gap_iff`: a run up to the live loop leaves no gap exactly when none
  of its steps is a `MissStep`; what the live loop sent is exactly the entitled
  events received.
* `startup_gap`: a run in which an event is lost.
-/

namespace GatewayProxy

open Utf8 Assoc Broadcast

/-- How far the connection's task is. -/
inductive ForwardPhase
  | starting
  | built
  | replayed
  /-- subscribed when `since` events had been broadcast -/
  | live (since : Nat) (receiver : Receiver)

structure Startup where
  guilds : Guilds
  channel : Channel BroadcastMessage
  /-- the event that was broadcast and has not updated the cache yet -/
  updating : Option BroadcastMessage
  phase : ForwardPhase
  seq : Nat
  /-- what the preamble and the replay sent -/
  start : List Message
  /-- what the live loop sent -/
  forwarded : List Message
  /-- history: how many events had updated the cache when the snapshot was read -/
  seen : Nat

inductive StartupStep
  | relay (event : BroadcastMessage)
  | update
  | snapshot (ready : JsonObject)
  | replay (buffered : List (Clients × BufferedClientEvent))
  | subscribe
  | receive

namespace Startup

/-- The shard is running, and nobody is connected. -/
def new (guilds : Guilds) : Startup := ⟨guilds, ⟨[]⟩, none, .starting, 0, [], [], 0⟩

/-- How many events have updated the cache. -/
def updated (s : Startup) : Nat :=
  s.channel.sent.length - if s.updating.isSome then 1 else 0

/-- The two tasks. `update` is the cache library, `clients` the registry. -/
def step (task : ForwardTask) (clients : Clients) (update : Guilds → BroadcastMessage → Guilds)
    (s : Startup) : StartupStep → Option Startup
  | .relay event =>
    match s.updating with
    | none => some { s with channel := s.channel.send event, updating := some event }
    | some _ => none
  | .update =>
    s.updating.map fun event => { s with guilds := update s.guilds event, updating := none }
  | .snapshot ready =>
    match s.phase with
    | .starting =>
      let (messages, seq) := task.preamble ready s.guilds
      some { s with phase := .built, start := messages, seq := seq, seen := s.updated }
    | _ => none
  | .replay buffered =>
    match s.phase with
    | .built =>
      let buffered := if task.clientId.isSome then buffered else []
      (task.replay buffered s.seq).map fun (messages, seq) =>
        { s with phase := .replayed, start := s.start ++ messages, seq := seq }
    | _ => none
  | .subscribe =>
    match s.phase with
    | .replayed => some { s with phase := .live s.channel.sent.length s.channel.subscribe }
    | _ => none
  | .receive =>
    match s.phase with
    | .live since receiver =>
      (receiver.recv s.channel).bind fun (event, receiver) =>
        (task.live [(clients, .message event)] s.seq).map fun (messages, seq) =>
          { s with
            phase := .live since receiver
            forwarded := s.forwarded ++ messages
            seq := seq }
    | _ => none

end Startup

/-- The events the connection may receive. -/
def Entitled (task : ForwardTask) (clients : Clients) (event : BroadcastMessage) : Prop :=
  (task.passesAudience event.audience && task.passesGuild clients event.guildId) = true

instance (task : ForwardTask) (clients : Clients) (event : BroadcastMessage) :
    Decidable (Entitled task clients event) := inferInstanceAs (Decidable (_ = true))

/-- Every event the connection is entitled to and that was not in the snapshot
comes after the subscription. -/
def NoGap (task : ForwardTask) (clients : Clients) (s : Startup) (since : Nat) : Prop :=
  ∀ i event, s.channel.sent[i]? = some event → Entitled task clients event → s.seen ≤ i → since ≤ i

/-- The steps that lose an event: a broadcast between the snapshot and the
subscription, and a snapshot between the broadcast and the cache update. -/
def MissStep (task : ForwardTask) (clients : Clients) (s : Startup) : StartupStep → Prop
  | .relay event => (s.phase = .built ∨ s.phase = .replayed) ∧ Entitled task clients event
  | .snapshot _ => ∃ event, s.updating = some event ∧ Entitled task clients event
  | _ => False

-- ---------------------------------------------------------------------------
-- Invariants
-- ---------------------------------------------------------------------------

/-- No event has been lost so far. -/
def Clean (task : ForwardTask) (clients : Clients) (s : Startup) : Prop :=
  match s.phase with
  | .starting => True
  | .live since _ => NoGap task clients s since
  | _ => ∀ i event, s.channel.sent[i]? = some event → Entitled task clients event → i < s.seen

/-- What holds in every state of a run, whatever is lost. -/
structure StartupInv (task : ForwardTask) (clients : Clients) (s : Startup) : Prop where
  updating_last : ∀ event, s.updating = some event →
    ∃ n, s.channel.sent.length = n + 1 ∧ s.channel.sent[n]? = some event
  seen_le : s.seen ≤ s.channel.sent.length
  quiet_before : (∀ since receiver, s.phase ≠ .live since receiver) → s.forwarded = []
  live_received : ∀ since receiver, s.phase = .live since receiver →
    since ≤ receiver.next ∧ receiver.next ≤ s.channel.sent.length ∧
    List.Forall₂ Carries (((s.channel.between since receiver.next).filter
      (Entitled task clients ·)).map BroadcastMessage.buffered) s.forwarded

theorem startupInv_new (task : ForwardTask) (clients : Clients) (guilds : Guilds) :
    StartupInv task clients (Startup.new guilds) where
  updating_last := by
    intro event hUpdating
    cases hUpdating
  seen_le := Nat.le_refl 0
  quiet_before := fun _ => rfl
  live_received := by
    intro since receiver hPhase
    cases hPhase

section Steps

variable {task : ForwardTask} {clients : Clients} {update : Guilds → BroadcastMessage → Guilds}
  {s t : Startup}

/-- The live loop sends an event exactly when the connection is entitled to it. -/
theorem live_one (task : ForwardTask) (clients : Clients) (event : BroadcastMessage) (seq : Nat) :
    ∃ messages seq', task.live [(clients, .message event)] seq = some (messages, seq') ∧
      List.Forall₂ Carries (([event].filter (Entitled task clients ·)).map
        BroadcastMessage.buffered) messages := by
  rw [ForwardTask.live]
  by_cases hEntitled : Entitled task clients event
  · have hPasses : (task.passesAudience event.audience &&
        task.passesGuild clients event.guildId) = true := hEntitled
    obtain ⟨text, seq', hText, hCarries, -⟩ := overwriteSequence_spec event.buffered seq
    have hEvent : overwriteSequence event.payload event.sequence seq = some (text, seq') := hText
    refine ⟨[.text text], seq', ?_, ?_⟩
    · rw [if_pos hPasses, hEvent]
      rfl
    · rw [List.filter_cons_of_pos (by simpa using hEntitled)]
      exact .cons hCarries .nil
  · have hBlocked : ¬ (task.passesAudience event.audience &&
        task.passesGuild clients event.guildId) = true := hEntitled
    refine ⟨[], seq, ?_, ?_⟩
    · rw [if_neg hBlocked]
      rfl
    · rw [List.filter_cons_of_neg (by simpa using hEntitled)]
      exact .nil

/-- What a receive step does. -/
theorem receive_eq_some (hStep : s.step task clients update .receive = some t) :
    ∃ since receiver event messages seq, s.phase = .live since receiver ∧
      s.channel.sent[receiver.next]? = some event ∧
      task.live [(clients, .message event)] s.seq = some (messages, seq) ∧
      t = { s with
        phase := .live since ⟨receiver.next + 1⟩
        forwarded := s.forwarded ++ messages
        seq := seq } := by
  rw [Startup.step] at hStep
  split at hStep
  · rename_i since receiver hPhase
    obtain ⟨⟨event, receiver'⟩, hRecv, hMap⟩ := Option.bind_eq_some_iff.mp hStep
    obtain ⟨⟨messages, seq⟩, hOne, rfl⟩ := Option.map_eq_some_iff.mp hMap
    obtain ⟨hGet, rfl⟩ := recv_eq_some hRecv
    exact ⟨since, receiver, event, messages, seq, hPhase, hGet, hOne, rfl⟩
  · cases hStep

/-- What was broadcast and not received yet can be received. -/
theorem receive_of_pending {since : Nat} {receiver : Receiver}
    (hPhase : s.phase = .live since receiver) (hPending : receiver.next < s.channel.sent.length) :
    ∃ t, s.step task clients update .receive = some t := by
  obtain ⟨messages, seq, hOne, -⟩ :=
    live_one task clients s.channel.sent[receiver.next] s.seq
  have hRecv : receiver.recv s.channel =
      some (s.channel.sent[receiver.next], ⟨receiver.next + 1⟩) := by
    rw [Receiver.recv, List.getElem?_eq_getElem hPending]
    rfl
  rw [Startup.step, hPhase]
  show ∃ t, (receiver.recv s.channel).bind _ = some t
  rw [hRecv, Option.bind_some]
  show ∃ t, (task.live [(clients, .message s.channel.sent[receiver.next])] s.seq).map _ = some t
  rw [hOne]
  exact ⟨_, rfl⟩

theorem Startup.relay_eq_some {event : BroadcastMessage}
    (hStep : s.step task clients update (.relay event) = some t) :
    t = { s with channel := s.channel.send event, updating := some event } := by
  rw [Startup.step] at hStep
  split at hStep
  · exact (Option.some.inj hStep).symm
  · cases hStep

theorem Startup.snapshot_eq_some {ready : JsonObject}
    (hStep : s.step task clients update (.snapshot ready) = some t) :
    s.phase = .starting ∧ t = { s with
      phase := .built
      start := (task.preamble ready s.guilds).1
      seq := (task.preamble ready s.guilds).2
      seen := s.updated } := by
  rw [Startup.step] at hStep
  split at hStep
  · rename_i hPhase
    exact ⟨hPhase, (Option.some.inj hStep).symm⟩
  · cases hStep

theorem Startup.replay_eq_some {buffered : List (Clients × BufferedClientEvent)}
    (hStep : s.step task clients update (.replay buffered) = some t) :
    s.phase = .built ∧ ∃ messages seq,
      t = { s with phase := .replayed, start := s.start ++ messages, seq := seq } := by
  rw [Startup.step] at hStep
  split at hStep
  · rename_i hPhase
    obtain ⟨⟨messages, seq⟩, -, rfl⟩ := Option.map_eq_some_iff.mp hStep
    exact ⟨hPhase, messages, seq, rfl⟩
  · cases hStep

theorem Startup.subscribe_eq_some (hStep : s.step task clients update .subscribe = some t) :
    s.phase = .replayed ∧
      t = { s with phase := .live s.channel.sent.length s.channel.subscribe } := by
  rw [Startup.step] at hStep
  split at hStep
  · rename_i hPhase
    exact ⟨hPhase, (Option.some.inj hStep).symm⟩
  · cases hStep

theorem startupInv_step {a : StartupStep} (hInv : StartupInv task clients s)
    (hStep : s.step task clients update a = some t) : StartupInv task clients t := by
  obtain ⟨hLast, hSeen, hQuiet, hLive⟩ := hInv
  cases a with
  | relay event =>
    obtain rfl := Startup.relay_eq_some hStep
    refine ⟨?_, ?_, hQuiet, ?_⟩
    · intro event' hEvent
      obtain rfl : event = event' := Option.some.inj hEvent
      exact ⟨s.channel.sent.length, length_send .., getElem?_send.mpr (.inr ⟨rfl, rfl⟩)⟩
    · show s.seen ≤ (s.channel.send event).sent.length
      rw [length_send]
      omega
    · intro since receiver hPhase
      obtain ⟨hSince, hNext, hSent⟩ := hLive since receiver hPhase
      refine ⟨hSince, ?_, ?_⟩
      · show receiver.next ≤ (s.channel.send event).sent.length
        rw [length_send]
        omega
      · show List.Forall₂ Carries ((((s.channel.send event).between since receiver.next).filter
          _).map _) _
        rw [between_send hNext]
        exact hSent
  | update =>
    obtain ⟨event, hUpdating, rfl⟩ := Option.map_eq_some_iff.mp hStep
    exact ⟨by simp, hSeen, hQuiet, hLive⟩
  | snapshot ready =>
    obtain ⟨hPhase, rfl⟩ := Startup.snapshot_eq_some hStep
    refine ⟨hLast, Nat.sub_le .., fun _ => hQuiet (by simp [hPhase]), ?_⟩
    intro since receiver hPhase
    cases hPhase
  | replay buffered =>
    obtain ⟨hPhase, messages, seq, rfl⟩ := Startup.replay_eq_some hStep
    refine ⟨hLast, hSeen, fun _ => hQuiet (by simp [hPhase]), ?_⟩
    intro since receiver hPhase
    cases hPhase
  | subscribe =>
    obtain ⟨hReplayed, rfl⟩ := Startup.subscribe_eq_some hStep
    have hNone : s.forwarded = [] := hQuiet (by simp [hReplayed])
    refine ⟨hLast, hSeen, fun _ => hNone, ?_⟩
    intro since receiver hPhase
    cases hPhase
    refine ⟨Nat.le_refl _, Nat.le_refl _, ?_⟩
    show List.Forall₂ Carries (((s.channel.between s.channel.sent.length
      s.channel.sent.length).filter _).map _) s.forwarded
    rw [between_self, hNone]
    exact .nil
  | receive =>
    obtain ⟨since, receiver, event, messages, seq, hPhase, hGet, hOne, rfl⟩ :=
      receive_eq_some hStep
    obtain ⟨hSince, hNext, hSent⟩ := hLive since receiver hPhase
    refine ⟨hLast, hSeen, fun hNever => absurd rfl (hNever since _), ?_⟩
    intro since' receiver' hPhase'
    cases hPhase'
    have hBound := (List.getElem?_eq_some_iff.mp hGet).1
    refine ⟨Nat.le_succ_of_le hSince, hBound, ?_⟩
    obtain ⟨messages', seq', hOne', hCarries⟩ :=
      live_one task clients event s.seq
    obtain ⟨rfl, -⟩ := Prod.mk.inj (Option.some.inj (hOne'.symm.trans hOne))
    show List.Forall₂ Carries (((s.channel.between since (receiver.next + 1)).filter _).map _) _
    rw [between_succ hSince hGet, List.filter_append, List.map_append]
    exact List.rel_append hSent hCarries

/-- A snapshot misses exactly the event whose cache update is still to come. -/
theorem missed_by_snapshot (hInv : StartupInv task clients s) :
    (∀ i event, s.channel.sent[i]? = some event → Entitled task clients event → i < s.updated) ↔
      ¬ ∃ event, s.updating = some event ∧ Entitled task clients event := by
  rw [Startup.updated]
  cases hUpdating : s.updating with
  | none =>
    have hAll : ∀ i event, s.channel.sent[i]? = some event → i < s.channel.sent.length :=
      fun i event hGet => (List.getElem?_eq_some_iff.mp hGet).1
    simpa using fun i event hGet _ => hAll i event hGet
  | some last =>
    obtain ⟨n, hLength, hGetLast⟩ := hInv.updating_last last hUpdating
    have hUpdated : (s.channel.sent.length - if (some last).isSome then 1 else 0) = n := by
      simp [hLength]
    rw [hUpdated]
    constructor
    · rintro hSeen ⟨event, hEvent, hEntitled⟩
      obtain rfl : last = event := Option.some.inj hEvent
      exact Nat.lt_irrefl n (hSeen n last hGetLast hEntitled)
    · intro hNot i event hGet hEntitled
      have hBound := (List.getElem?_eq_some_iff.mp hGet).1
      have hNe : i ≠ n := by
        rintro rfl
        obtain rfl : last = event := Option.some.inj (hGetLast.symm.trans hGet)
        exact hNot ⟨last, rfl, hEntitled⟩
      omega

/-- **Step lemma.** A step keeps the connection without a gap exactly when it is
no `MissStep`. -/
theorem clean_step {a : StartupStep} (hInv : StartupInv task clients s)
    (hStep : s.step task clients update a = some t) :
    Clean task clients t ↔ Clean task clients s ∧ ¬ MissStep task clients s a := by
  cases a with
  | relay event =>
    obtain rfl := Startup.relay_eq_some hStep
    have hSeen := hInv.seen_le
    -- before the subscription the new event is past the snapshot
    have hMissed : (∀ i event', (s.channel.send event).sent[i]? = some event' →
        Entitled task clients event' → i < s.seen) ↔
        (∀ i event', s.channel.sent[i]? = some event' → Entitled task clients event' →
          i < s.seen) ∧ ¬ Entitled task clients event := by
      constructor
      · intro hAll
        refine ⟨fun i event' hGet => hAll i event' (getElem?_send.mpr (.inl hGet)), ?_⟩
        intro hEntitled
        have := hAll _ event (getElem?_send.mpr (.inr ⟨rfl, rfl⟩)) hEntitled
        omega
      · rintro ⟨hAll, hNot⟩ i event' hGet hEntitled
        obtain hOld | ⟨-, rfl⟩ := getElem?_send.mp hGet
        · exact hAll i event' hOld hEntitled
        · exact absurd hEntitled hNot
    cases hPhase : s.phase with
    | starting => simp [Clean, MissStep, hPhase]
    | built => simpa [Clean, MissStep, hPhase] using hMissed
    | replayed => simpa [Clean, MissStep, hPhase] using hMissed
    | live since receiver =>
      obtain ⟨hSince, hNext, -⟩ := hInv.live_received since receiver hPhase
      simp only [Clean, MissStep, hPhase, NoGap]
      constructor
      · intro hAll
        exact ⟨fun i event' hGet => hAll i event' (getElem?_send.mpr (.inl hGet)), by simp⟩
      · rintro ⟨hAll, -⟩ i event' hGet hEntitled hAfter
        obtain hOld | ⟨rfl, -⟩ := getElem?_send.mp hGet
        · exact hAll i event' hOld hEntitled hAfter
        · omega
  | update =>
    obtain ⟨event, -, rfl⟩ := Option.map_eq_some_iff.mp hStep
    simp [Clean, MissStep, NoGap]
  | snapshot ready =>
    obtain ⟨hPhase, rfl⟩ := Startup.snapshot_eq_some hStep
    simp only [Clean, MissStep, hPhase, true_and]
    exact missed_by_snapshot hInv
  | replay buffered =>
    obtain ⟨hPhase, messages, seq, rfl⟩ := Startup.replay_eq_some hStep
    simp [Clean, MissStep, hPhase]
  | subscribe =>
    obtain ⟨hPhase, rfl⟩ := Startup.subscribe_eq_some hStep
    simp only [Clean, MissStep, hPhase, NoGap, not_false_eq_true, and_true]
    constructor
    · intro hAll i event hGet hEntitled
      have hBound := (List.getElem?_eq_some_iff.mp hGet).1
      by_contra hAfter
      have := hAll i event hGet hEntitled (by omega)
      omega
    · intro hAll i event hGet hEntitled hAfter
      have := hAll i event hGet hEntitled
      omega
  | receive =>
    obtain ⟨since, receiver, event, messages, seq, hPhase, -, -, rfl⟩ := receive_eq_some hStep
    simp [Clean, MissStep, NoGap, hPhase]

end Steps

-- ---------------------------------------------------------------------------
-- Runs
-- ---------------------------------------------------------------------------

/-- **When the snapshot and the live stream leave no gap.** In every run that
brings a fresh connection into its live loop, whatever the interleaving with the
shard's task: every event the connection is entitled to and whose cache update
came after the snapshot is broadcast to its subscription if and only if no such
event was broadcast between the snapshot and the subscription, and none was
between its broadcast and its cache update when the snapshot was read. The live
loop sent exactly the entitled events received, in order, and can always receive
what is pending. -/
theorem startup_no_gap_iff (task : ForwardTask) (clients : Clients)
    (update : Guilds → BroadcastMessage → Guilds) (guilds : Guilds) (steps : List StartupStep)
    (s : Startup) (since : Nat) (receiver : Receiver)
    (hRun : Runs.exec (Startup.step task clients update) (Startup.new guilds) steps = some s)
    (hLive : s.phase = .live since receiver) :
    (NoGap task clients s since ↔
      Runs.Meets (Startup.step task clients update) (fun s a => ¬ MissStep task clients s a)
        (Startup.new guilds) steps) ∧
    List.Forall₂ Carries (((s.channel.between since receiver.next).filter
      (Entitled task clients ·)).map BroadcastMessage.buffered) s.forwarded ∧
    (receiver.next < s.channel.sent.length →
      ∃ t, s.step task clients update .receive = some t) := by
  have hInit := startupInv_new task clients guilds
  have hInv : StartupInv task clients s :=
    Runs.exec_invariant (fun _ _ _ hInv hStep => startupInv_step hInv hStep) hInit hRun
  have hClean : Clean task clients s ↔ Clean task clients (Startup.new guilds) ∧
      Runs.Meets (Startup.step task clients update) (fun s a => ¬ MissStep task clients s a)
        (Startup.new guilds) steps :=
    Runs.exec_iff_meets (fun _ _ _ hInv hStep => startupInv_step hInv hStep)
      (fun _ _ _ hInv hStep => clean_step hInv hStep) hInit hRun
  refine ⟨?_, (hInv.live_received since receiver hLive).2.2, receive_of_pending hLive⟩
  have hNoGap : Clean task clients s ↔ NoGap task clients s since := by
    rw [Clean, hLive]
  rw [← hNoGap, hClean]
  exact and_iff_right trivial

namespace SampleStartup

/-- A fresh connection with the bot token. -/
def task : ForwardTask := ⟨"session".toList, 0, true, 0, none, none⟩

/-- The steps into the live loop, around what the shard's task does before the
snapshot and before the subscription. -/
def steps (beforeSnapshot beforeSubscribe : List StartupStep) : List StartupStep :=
  beforeSnapshot ++ [.snapshot ∅, .replay []] ++ beforeSubscribe ++ [.subscribe]

def relayed : List StartupStep := [.relay (SampleStream.event 7), .update]

/-- The state after the steps; the cache library is not looked at. -/
def run (steps : List StartupStep) : Option Startup :=
  Runs.exec (Startup.step task SampleStream.clients fun guilds _ => guilds)
    (Startup.new SampleStream.guilds) steps

end SampleStartup

/-- An event relayed before the snapshot leaves no gap. -/
theorem startup_no_gap_before_snapshot :
    ∃ s since receiver, SampleStartup.run (SampleStartup.steps SampleStartup.relayed []) = some s ∧
      s.phase = .live since receiver ∧ NoGap SampleStartup.task SampleStream.clients s since := by
  refine ⟨_, _, _, rfl, rfl, ?_⟩
  refine (startup_no_gap_iff SampleStartup.task SampleStream.clients (fun guilds _ => guilds)
    SampleStream.guilds (SampleStartup.steps SampleStartup.relayed []) _ _ _ rfl rfl).1.mpr ?_
  refine (Runs.meets_cons rfl).mpr ⟨?_, (Runs.meets_cons rfl).mpr ⟨id,
    (Runs.meets_cons rfl).mpr ⟨?_, (Runs.meets_cons rfl).mpr ⟨id,
      (Runs.meets_cons rfl).mpr ⟨id, trivial⟩⟩⟩⟩⟩
  · rintro ⟨hPhase | hPhase, -⟩ <;> cases hPhase
  · rintro ⟨event, hUpdating, -⟩
    cases hUpdating

/-- An event relayed between the snapshot and the subscription, which a bot-token
connection is entitled to, is in neither. -/
theorem startup_gap :
    ∃ s since receiver, SampleStartup.run (SampleStartup.steps [] SampleStartup.relayed) = some s ∧
      s.phase = .live since receiver ∧ ¬ NoGap SampleStartup.task SampleStream.clients s since := by
  refine ⟨_, _, _, rfl, rfl, ?_⟩
  intro hNoGap
  have hAfter : 1 ≤ 0 := hNoGap 0 (SampleStream.event 7) rfl rfl (Nat.le_refl 0)
  omega

end GatewayProxy
