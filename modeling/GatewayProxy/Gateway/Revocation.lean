import GatewayProxy.Gateway.Forwarding

/-!
# A revoked guild on a starting connection

Replayed and live events are checked against the registry right before they are
sent. READY and the guild payloads are filtered by the guilds of IDENTIFY, and
the shard's READY may come any time later. A guild that the registry drops in
between is still sent, as is an event that passed its check and is not in the
queue yet.

Main results:

* `registered_step`: what is pending is about registered guilds, as long as the
  registry drops none of them in these two windows.
* `revoked_stops_when`: then nothing about a revoked guild enters the queue, and
  a guild dropped in such a window does.
* `revoked_guild_sent`: a guild dropped before the shard is ready.
-/

namespace GatewayProxy

open Utf8 Assoc

/-- The message is about the guild: a startup message that has the guild, or
one of its events. -/
def Outgoing.Concerns (outgoing : Outgoing) (guildId : Nat) : Prop :=
  match outgoing.event with
  | some event => event.guildId = some guildId
  | none => outgoing.message.Lists guildId

namespace Forwarding

/-- Each message in the queue was put there while its guilds were the client's. -/
def Stops (s : Forwarding) (clientId : Str) : Prop :=
  ∀ entry ∈ s.enqueued, ∀ g, entry.1.Concerns g → clientHasGuild entry.2 clientId g = true

/-- The registry drops no guild of a message that is already built or checked,
and has dropped no guild of READY when READY is built. -/
def NoneRevoked (task : ForwardTask) (clientId : Str) (s : Forwarding) : ForwardingStep → Prop
  | .registry clients =>
    ∀ outgoing ∈ s.pending, ∀ g, outgoing.Concerns g → clientHasGuild clients clientId g = true
  | .build _ guilds =>
    task.sendGuilds = true → ∀ g, isAuthorized task.authorizedGuilds g = true → guilds.Holds g →
      clientHasGuild s.clients clientId g = true
  | _ => True

/-- What is pending is about guilds of the client. -/
structure Registered (clientId : Str) (s : Forwarding) : Prop where
  pending : ∀ outgoing ∈ s.pending, ∀ g, outgoing.Concerns g →
    clientHasGuild s.clients clientId g = true
  stops : s.Stops clientId

section Steps

variable {task : ForwardTask} {clientId : Str} {authorized : Finset Nat} {s t : Forwarding}
  {action : ForwardingStep}

theorem registered_new (task : ForwardTask) (clientId : Str) (clients : Clients) :
    Registered clientId (new task clients) where
  pending := fun _ h => absurd h List.not_mem_nil
  stops := fun _ h => absurd h List.not_mem_nil

/-- **Step lemma.** -/
theorem registered_step (hClient : task.clientId = some clientId)
    (hAuthorized : task.authorizedGuilds = some authorized) (hInv : Registered clientId s)
    (hNone : NoneRevoked task clientId s action) (hStep : s.step task action = some t) :
    Registered clientId t where
  pending := by
    intro outgoing hMem g hConcerns
    rcases pending_step hClient hAuthorized hStep hMem with hOld | hBuilt | hVisible
    · rcases (enqueued_step hClient hAuthorized hStep).2 with hSame | rfl
      · rw [hSame]
        exact hInv.pending outgoing hOld g hConcerns
      · exact hNone outgoing hOld g hConcerns
    · obtain ⟨ready, guilds, rfl, hEvent, hMessage⟩ := hBuilt
      rw [Outgoing.Concerns, hEvent] at hConcerns
      obtain ⟨hSend, hGuild, hHolds⟩ := preamble_lists_iff.mp ⟨_, hMessage, hConcerns⟩
      obtain ⟨-, rfl⟩ := build_eq_some hStep
      exact hNone hSend g hGuild hHolds
    · obtain ⟨hSame, event, hEvent, g', hGuild, hMember⟩ := hVisible
      rw [Outgoing.Concerns, hEvent] at hConcerns
      obtain rfl := Option.some.inj (hGuild.symm.trans hConcerns)
      rw [hSame]
      exact clientHasGuild_iff.mpr hMember
  stops := by
    rcases (enqueued_step hClient hAuthorized hStep).1 with hSame | ⟨outgoing, hMem, hNew⟩
    · rw [Stops, hSame]
      exact hInv.stops
    · intro entry hEntry g hConcerns
      rw [hNew, List.mem_append, List.mem_singleton] at hEntry
      rcases hEntry with hOld | rfl
      · exact hInv.stops entry hOld g hConcerns
      · exact hInv.pending outgoing hMem g hConcerns

/-- A pending message about a guild that is not the client's gets into the queue. -/
theorem reaches_not_stops {outgoing : Outgoing} {g : Nat} (hMem : outgoing ∈ s.pending)
    (hConcerns : outgoing.Concerns g) (hRevoked : clientHasGuild s.clients clientId g ≠ true) :
    ∃ u, Runs.Reaches (step task) (NoneRevoked task clientId) s u ∧ ¬ u.Stops clientId := by
  have hReach := (@reaches_enqueued task s).mono (D := NoneRevoked task clientId) (by
    rintro _ _ rfl
    trivial)
  refine ⟨_, hReach, fun hStops => ?_⟩
  have hQueued : (outgoing, s.clients) ∈
      s.enqueued ++ s.pending.map fun outgoing => (outgoing, s.clients) :=
    List.mem_append_right _ (List.mem_map_of_mem hMem)
  exact hRevoked (hStops (outgoing, s.clients) hQueued g hConcerns)

theorem reaches_of_revoked (hRevoked : ¬ NoneRevoked task clientId s action)
    (hStep : s.step task action = some t) :
    ∃ u, Runs.Reaches (step task) (NoneRevoked task clientId) t u ∧ ¬ u.Stops clientId := by
  cases action with
  | registry clients =>
    simp only [NoneRevoked, not_forall] at hRevoked
    obtain ⟨outgoing, hMem, g, hConcerns, hDropped⟩ := hRevoked
    obtain rfl := Option.some.inj hStep
    exact reaches_not_stops hMem hConcerns hDropped
  | build ready guilds =>
    simp only [NoneRevoked, not_forall] at hRevoked
    obtain ⟨hSend, g, hGuild, hHolds, hDropped⟩ := hRevoked
    obtain ⟨message, hMessage, hLists⟩ :=
      (@preamble_lists_iff task ready guilds g).mpr ⟨hSend, hGuild, hHolds⟩
    obtain ⟨-, rfl⟩ := build_eq_some hStep
    have hPending : (⟨message, none⟩ : Outgoing) ∈
        (task.preamble ready guilds).1.map fun message => (⟨message, none⟩ : Outgoing) :=
      List.mem_map_of_mem hMessage
    exact reaches_not_stops hPending hLists hDropped
  | enqueue | drain _ | replay | subscribe | receive _ => exact absurd trivial hRevoked

/-- **A revoked guild stops at once, unless it is revoked in a window.** In a run
in which the registry drops no guild of READY before READY is built, and no
guild of a message between its check and the queue, every message of the queue
was put there while its guilds were the client's. Each step that breaks the
condition leads, by steps that keep it, to a state where that fails: those that put
what is pending into the queue. -/
theorem revoked_stops_when (hClient : task.clientId = some clientId)
    (hAuthorized : task.authorizedGuilds = some authorized) (clients : Clients)
    {steps : List ForwardingStep}
    (hRun : Runs.exec (step task) (new task clients) steps = some s) :
    (Runs.Meets (step task) (NoneRevoked task clientId) (new task clients) steps →
      s.Stops clientId) ∧
    ∀ action t, s.step task action = some t → ¬ NoneRevoked task clientId s action →
      ∃ u, Runs.Reaches (step task) (NoneRevoked task clientId) t u ∧ ¬ u.Stops clientId := by
  constructor
  · intro hMeets
    have hInv : Registered clientId s :=
      Runs.exec_invariant_of_meets (C := NoneRevoked task clientId)
        (fun _ _ _ hInv hNone hStep => registered_step hClient hAuthorized hInv hNone hStep)
        (registered_new task clientId clients) hMeets hRun
    exact hInv.stops
  · intro action t hStep hRevoked
    exact reaches_of_revoked hRevoked hStep

end Steps

namespace SampleRevocation

/-- Client `c` with guild 7. -/
def granted : Clients := (∅ : Clients).insert ['c'] ⟨['s'], {7}, none, none⟩

/-- Client `c` after its guild was revoked. -/
def revoked : Clients := (∅ : Clients).insert ['c'] ⟨['s'], ∅, none, none⟩

def task : ForwardTask := ⟨['x'], 0, true, 0, some {7}, some ['c']⟩

/-- Guild 7 is known, and not available yet. -/
def guilds : Guilds := ⟨[], [7], []⟩

end SampleRevocation

open SampleRevocation in
/-- Revoked after READY was sent. -/
theorem revoked_stops_when_started :
    ∃ s, Runs.exec (step task) (new task granted)
        [.build ∅ guilds, .enqueue, .registry revoked, .drain []] = some s ∧ s.Stops ['c'] := by
  have hNone : Runs.Meets (step task) (NoneRevoked task ['c']) (new task granted)
      [.build ∅ guilds, .enqueue, .registry revoked, .drain []] := by
    refine (Runs.meets_cons rfl).mpr ⟨fun _ g hGuild _ => ?_, ?_⟩
    · have hSeven : g = 7 := by simpa [task, isAuthorized] using hGuild
      rw [hSeven]
      decide
    · refine (Runs.meets_cons rfl).mpr ⟨trivial, ?_⟩
      refine (Runs.meets_cons rfl).mpr ⟨fun _ hMem => absurd hMem List.not_mem_nil, ?_⟩
      exact (Runs.meets_cons rfl).mpr ⟨trivial, trivial⟩
  exact ⟨_, rfl, (@revoked_stops_when task ['c'] {7} _ rfl rfl granted _ rfl).1 hNone⟩

open SampleRevocation in
/-- Revoked while the connection waits for the shard: READY still lists it. -/
theorem revoked_guild_sent :
    ∃ s, Runs.exec (step task) (new task granted)
        [.registry revoked, .build ∅ guilds, .enqueue] = some s ∧
      s.clients = revoked ∧ ¬ s.Stops ['c'] := by
  refine ⟨_, rfl, rfl, fun hStops => ?_⟩
  have hRevoked : clientHasGuild revoked ['c'] 7 = false := by decide
  have hQueued := hStops _ List.mem_cons_self 7 (ready_lists_iff.mpr (by decide))
  rw [hRevoked] at hQueued
  cases hQueued

end Forwarding

end GatewayProxy
