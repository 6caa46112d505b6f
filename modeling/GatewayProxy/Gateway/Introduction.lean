import GatewayProxy.Gateway.Forwarding

/-!
# Guilds that a tenant has not heard of

The startup messages are about the guilds of IDENTIFY, the live events about the
guilds of the registry at each event. A guild granted in between, or one that
the cache did not hold when READY was built, sends its events to the connection
all the same, whether or not its GUILD_CREATE passed first.

Main results:

* `earlier_iff_first`: a list has what it needs before each element when its
  first element needs nothing.
* `learnsFirst_iff`: the stream of a connection, from its startup messages and
  its visible events.
* `guild_known_first_iff`: a tenant learns of each guild before its events
  exactly if READY listed the guild or its first visible event is GUILD_CREATE.
* `unknown_guild_event`: a message of a guild granted after READY.
-/

namespace GatewayProxy

open Utf8 Assoc

def BufferedClientEvent.eventType (event : BufferedClientEvent) : Option Str :=
  (GatewayEvent.findEventType event.payload).map EventTypeInfo.name

def guildCreate : Option Str := some "GUILD_CREATE".toList

def guildDelete : Option Str := some "GUILD_DELETE".toList

namespace Outgoing

/-- The guild of the event that the message carries. -/
def guildId (outgoing : Outgoing) : Option Nat := outgoing.event.bind BufferedClientEvent.guildId

def eventType (outgoing : Outgoing) : Option Str :=
  outgoing.event.bind BufferedClientEvent.eventType

def Announces (outgoing : Outgoing) : Prop :=
  outgoing.eventType = guildCreate ∨ outgoing.eventType = guildDelete

/-- A READY entry, GUILD_CREATE or GUILD_DELETE of the guild. -/
def Introduces (outgoing : Outgoing) (g : Nat) : Prop :=
  match outgoing.event with
  | none => outgoing.message.Lists g
  | some _ => outgoing.guildId = some g ∧ outgoing.Announces

end Outgoing

/-- Before each event of a guild, other than its GUILD_CREATE, there is a
message that introduces the guild. -/
def LearnsFirst (messages : List Outgoing) : Prop :=
  ∀ before outgoing after, messages = before ++ outgoing :: after →
    ∀ g, outgoing.guildId = some g → outgoing.eventType ≠ guildCreate →
      ∃ earlier ∈ before, earlier.Introduces g

-- ---------------------------------------------------------------------------
-- The first event of a guild
-- ---------------------------------------------------------------------------

/-- Each element of a kind has an `R'` of its kind before it, unless it is an
`R`, exactly if the first of the kind is an `R`. -/
theorem earlier_iff_first {α : Type} {l : List α} {Q R R' : α → Prop} [DecidablePred Q]
    (hMore : ∀ x, R x → R' x) :
    (∀ before x after, l = before ++ x :: after → Q x → ¬ R x → ∃ y ∈ before, Q y ∧ R' y) ↔
      ∀ x, l.find? (fun y => decide (Q y)) = some x → R x := by
  constructor
  · intro hEarlier x hFirst
    obtain ⟨hQ, before, after, rfl, hBefore⟩ := List.find?_eq_some_iff_append.mp hFirst
    by_contra hNot
    obtain ⟨y, hMem, hKind, -⟩ := hEarlier before x after rfl (by simpa using hQ) hNot
    have hNone := hBefore y hMem
    simp [hKind] at hNone
  · rintro hFirst before x after rfl hQ hNot
    rw [List.find?_append] at hFirst
    cases hFound : before.find? (fun y => decide (Q y)) with
    | none =>
      rw [hFound, List.find?_cons_of_pos (by simpa using hQ)] at hFirst
      exact absurd (hFirst x rfl) hNot
    | some y =>
      rw [hFound] at hFirst
      have hKind := List.find?_some hFound
      exact ⟨y, List.mem_of_find?_eq_some hFound, by simpa using hKind, hMore y (hFirst y rfl)⟩

/-- The prefix of a stream learns first if the stream does. -/
theorem LearnsFirst.of_append {a b : List Outgoing} (h : LearnsFirst (a ++ b)) : LearnsFirst a := by
  rintro before outgoing after rfl g hGuild hEvent
  refine h before outgoing (after ++ b) ?_ g hGuild hEvent
  rw [List.append_assoc, List.cons_append]

/-- Startup messages and then events. -/
theorem learnsFirst_append_iff {startup events : List Outgoing}
    (hStartup : ∀ outgoing ∈ startup, outgoing.event = none)
    (hEvents : ∀ outgoing ∈ events, outgoing.event ≠ none) :
    LearnsFirst (startup ++ events) ↔
      ∀ g, (∃ outgoing ∈ startup, outgoing.message.Lists g) ∨
        ∀ outgoing, events.find? (fun o => decide (o.guildId = some g)) = some outgoing →
          outgoing.eventType = guildCreate := by
  have hKind : ∀ g, ∀ outgoing ∈ events, outgoing.Introduces g →
      outgoing.guildId = some g ∧ outgoing.Announces := by
    intro g outgoing hMem hIntroduces
    cases hEvent : outgoing.event with
    | none => exact absurd hEvent (hEvents outgoing hMem)
    | some event => simpa only [Outgoing.Introduces, hEvent] using hIntroduces
  have hLists : ∀ g, ∀ outgoing ∈ startup, outgoing.Introduces g ↔ outgoing.message.Lists g := by
    intro g outgoing hMem
    rw [Outgoing.Introduces, hStartup outgoing hMem]
  have hCreateAnnounces : ∀ outgoing : Outgoing, outgoing.eventType = guildCreate →
      outgoing.Announces := fun _ => .inl
  constructor
  · intro hLearns g
    by_cases hListed : ∃ outgoing ∈ startup, outgoing.message.Lists g
    · exact .inl hListed
    · refine .inr ((earlier_iff_first hCreateAnnounces).mp ?_)
      rintro before outgoing after rfl hGuild hEvent
      obtain ⟨earlier, hMem, hIntroduces⟩ := hLearns (startup ++ before) outgoing after
        (by rw [List.append_assoc]) g hGuild hEvent
      rcases List.mem_append.mp hMem with hOld | hNew
      · exact absurd ⟨earlier, hOld, (hLists g earlier hOld).mp hIntroduces⟩ hListed
      · exact ⟨earlier, hNew, hKind g earlier (List.mem_append_left _ hNew) hIntroduces⟩
  · intro hFirst before outgoing after hSplit g hGuild hEvent
    have hNotStartup : outgoing ∉ startup := by
      intro hMem
      rw [Outgoing.guildId, hStartup outgoing hMem] at hGuild
      cases hGuild
    -- the event is after the startup messages
    obtain ⟨between, rfl, rfl⟩ : ∃ between, before = startup ++ between ∧
        events = between ++ outgoing :: after := by
      rcases List.append_eq_append_iff.mp hSplit with
        ⟨between, hBefore, hEvents⟩ | ⟨rest, hRest, hEq⟩
      · exact ⟨between, hBefore, hEvents⟩
      · cases rest with
        | nil =>
          rw [List.append_nil] at hRest
          exact ⟨[], by rw [hRest, List.append_nil], hEq.symm⟩
        | cons first rest =>
          rw [List.cons_append, List.cons.injEq] at hEq
          refine absurd ?_ hNotStartup
          rw [hRest, hEq.1]
          exact List.mem_append_right _ List.mem_cons_self
    rcases hFirst g with ⟨listed, hMem, hListed⟩ | hCreate
    · exact ⟨listed, List.mem_append_left _ hMem, (hLists g listed hMem).mpr hListed⟩
    · obtain ⟨earlier, hMem, hGuild', hType⟩ := (earlier_iff_first hCreateAnnounces).mpr
        hCreate between outgoing after rfl hGuild hEvent
      refine ⟨earlier, List.mem_append_right _ hMem, ?_⟩
      cases hSome : earlier.event with
      | none => exact absurd hSome (hEvents earlier (List.mem_append_left _ hMem))
      | some event =>
        rw [Outgoing.Introduces, hSome]
        exact ⟨hGuild', hType⟩

-- ---------------------------------------------------------------------------
-- The stream of a connection
-- ---------------------------------------------------------------------------

namespace Forwarding

/-- The guilds of the visible events: each is a guild of IDENTIFY that the cache
held when READY was built, or its first visible event is its GUILD_CREATE. -/
def Known (task : ForwardTask) (clientId : Str) (s : Forwarding) : Prop :=
  ∀ g event, (s.visible clientId).find? (fun e => decide (e.guildId = some g)) = some event →
    event.eventType = guildCreate ∨
      ∃ ready guilds, s.built = some (ready, guilds) ∧
        isAuthorized task.authorizedGuilds g = true ∧ guilds.Holds g

section Steps

variable {task : ForwardTask} {clientId : Str} {authorized : Finset Nat} {s : Forwarding}

theorem startup_event {outgoing : Outgoing} (hMem : outgoing ∈ (startup task s).1) :
    outgoing.event = none := by
  unfold startup at hMem
  split at hMem
  · cases hMem
  · obtain ⟨message, -, rfl⟩ := List.mem_map.mp hMem
    rfl

theorem startup_lists_iff (hIdentify : task.sendGuilds = true) {g : Nat} :
    (∃ outgoing ∈ (startup task s).1, outgoing.message.Lists g) ↔
      ∃ ready guilds, s.built = some (ready, guilds) ∧
        isAuthorized task.authorizedGuilds g = true ∧ guilds.Holds g := by
  unfold startup
  cases s.built with
  | none => simp
  | some p =>
    obtain ⟨ready, guilds⟩ := p
    dsimp only
    constructor
    · rintro ⟨outgoing, hMem, hLists⟩
      obtain ⟨message, hMessage, rfl⟩ := List.mem_map.mp hMem
      exact ⟨ready, guilds, rfl, (preamble_lists_iff.mp ⟨message, hMessage, hLists⟩).2⟩
    · rintro ⟨_, _, hBuilt, hGuild⟩
      obtain ⟨rfl, rfl⟩ := Prod.mk.inj (Option.some.inj hBuilt)
      obtain ⟨message, hMessage, hLists⟩ :=
        (@preamble_lists_iff task ready guilds g).mpr ⟨hIdentify, hGuild⟩
      exact ⟨_, List.mem_map_of_mem hMessage, hLists⟩

/-- The first message of a guild carries its first visible event. -/
theorem find?_carrying {messages : List Message} {events : List BufferedClientEvent}
    (hLength : messages.length = events.length) (g : Nat) :
    ((carrying messages events).find? fun o => decide (o.guildId = some g)).map Outgoing.event =
      (events.find? fun e => decide (e.guildId = some g)).map some := by
  have hEvents := carrying_events hLength
  have hMessages := List.find?_map
    (p := fun event : Option BufferedClientEvent =>
      decide (event.bind BufferedClientEvent.guildId = some g))
    (f := Outgoing.event) (l := carrying messages events)
  rw [hEvents, List.find?_map] at hMessages
  exact hMessages.symm

/-- **The stream of a connection**, from its startup messages and its visible events. -/
theorem learnsFirst_iff (hIdentify : task.sendGuilds = true) (hShape : Shape task clientId s) :
    LearnsFirst s.order ↔ Known task clientId s := by
  obtain ⟨messages, hSend, hOrder⟩ := hShape.order
  have hLength := length_sendEvents hSend
  have hEvents : ∀ outgoing ∈ carrying messages (s.visible clientId), outgoing.event ≠ none := by
    intro outgoing hMem
    obtain ⟨event, -, hEvent⟩ := mem_carrying hLength hMem
    rw [hEvent]
    exact Option.some_ne_none event
  rw [hOrder, learnsFirst_append_iff (fun _ => startup_event) hEvents]
  refine forall_congr' fun g => ?_
  have hFirst := find?_carrying hLength g
  rw [startup_lists_iff hIdentify]
  constructor
  · rintro hKnown event hFound
    rw [hFound] at hFirst
    obtain ⟨outgoing, hMessage, hEvent⟩ := Option.map_eq_some_iff.mp hFirst
    rcases hKnown with hListed | hCreate
    · exact .inr hListed
    · have hType := hCreate outgoing hMessage
      rw [Outgoing.eventType, hEvent] at hType
      exact .inl hType
  · intro hKnown
    by_cases hListed : ∃ ready guilds, s.built = some (ready, guilds) ∧
        isAuthorized task.authorizedGuilds g = true ∧ guilds.Holds g
    · exact .inl hListed
    · refine .inr fun outgoing hMessage => ?_
      rw [hMessage] at hFirst
      obtain ⟨event, hFound, hEvent⟩ := Option.map_eq_some_iff.mp hFirst.symm
      rcases hKnown event hFound with hCreate | hBuilt
      · rw [Outgoing.eventType, ← hEvent]
        exact hCreate
      · exact absurd hBuilt hListed

/-- **A tenant learns of a guild before its events, exactly when READY listed
the guild or its GUILD_CREATE comes first.** In every state of every run of a
connection opened by IDENTIFY: if each guild of the visible events is a guild of
IDENTIFY that the cache held when READY was built, or has its GUILD_CREATE as
its first visible event, then each event in the queue, other than a
GUILD_CREATE, has a message before it that introduces its guild. Once nothing is
pending, that is also necessary. -/
theorem guild_known_first_iff (hClient : task.clientId = some clientId)
    (hAuthorized : task.authorizedGuilds = some authorized) (hIdentify : task.sendGuilds = true)
    (clients : Clients) {steps : List ForwardingStep}
    (hRun : Runs.exec (step task) (new task clients) steps = some s) :
    (Known task clientId s → LearnsFirst (s.enqueued.map Prod.fst)) ∧
      (s.pending = [] → LearnsFirst (s.enqueued.map Prod.fst) → Known task clientId s) := by
  have hIff := learnsFirst_iff hIdentify (run_shape hClient hAuthorized hRun)
  constructor
  · intro hKnown
    have hLearns : LearnsFirst s.order := hIff.mpr hKnown
    exact hLearns.of_append
  · intro hPending hLearns
    rw [← hIff, order, hPending, List.append_nil]
    exact hLearns

end Steps

namespace SampleIntroduction

/-- The registry before client `c` has a guild. -/
def ungranted : Clients := (∅ : Clients).insert ['c'] ⟨['s'], ∅, none, none⟩

def task (authorized : Finset Nat) : ForwardTask :=
  ⟨['x'], 0, true, 0, some authorized, some ['c']⟩

/-- Guild 7 is known, and not available yet. -/
def guilds : Guilds := ⟨[], [7], []⟩

/-- READY is sent, then guild 7 is granted, and then a message of it arrives. -/
def steps : List ForwardingStep :=
  [.build ∅ guilds, .enqueue, .drain [], .subscribe, .registry SampleStream.clients,
    .receive (.message (SampleStream.event 7)), .enqueue]

end SampleIntroduction

open SampleIntroduction in
/-- With guild 7 in IDENTIFY. -/
theorem guild_known_first_identified :
    ∃ s, Runs.exec (step (task {7})) (new (task {7}) ungranted) steps = some s ∧
      LearnsFirst (s.enqueued.map Prod.fst) := by
  refine ⟨_, rfl, (@guild_known_first_iff (task {7}) ['c'] {7} _ rfl rfl rfl ungranted steps rfl).1
    fun g event hFound => ?_⟩
  have hSeven : g = 7 := by
    have hMem := List.mem_of_find?_eq_some hFound
    have hGuild := List.find?_some hFound
    have hOne : event = (SampleStream.event 7).buffered := List.mem_singleton.mp hMem
    rw [hOne] at hGuild
    exact (Option.some.inj (of_decide_eq_true hGuild)).symm
  rw [hSeven]
  exact .inr ⟨∅, guilds, rfl, by decide, .inr List.mem_cons_self⟩

open SampleIntroduction in
/-- With guild 7 granted after IDENTIFY: its message is the first thing that the
client hears of it. -/
theorem unknown_guild_event :
    ∃ s, Runs.exec (step (task ∅)) (new (task ∅) ungranted) steps = some s ∧
      ¬ LearnsFirst (s.enqueued.map Prod.fst) := by
  refine ⟨_, rfl, fun hLearns => ?_⟩
  obtain ⟨earlier, hMem, hIntroduces⟩ := hLearns [_] _ [] rfl 7 rfl (by decide)
  obtain rfl := List.mem_singleton.mp hMem
  have hNotListed : guildIdToJson 7 ∉ readyGuilds guilds (some ∅) := by decide
  exact hNotListed (ready_lists_iff.mp hIntroduces)

end Forwarding

end GatewayProxy
