import GatewayProxy.Lib.Runs
import GatewayProxy.Source.Wake

/-!
# Typing while a client is woken

A message for a client that is away starts a loop that shows typing in the channel
(`spawn_wake_typing`). Any number of loops run at once, and the client may connect
and leave again between any two turns of its loop. What a loop has shown is read off
its turns by `wakeTyping`.

Main results:

* `length_of_gaps`: how many pulses fit.
* `typingInv_step`: the turns of a loop are its pulses, and then at most the one that
  returned.
* `mem_wakeTypingFor`: the clients that a message starts a loop for.
* `wake_typing_exact`: every loop shows typing to a client that is away, five times at
  most, and ends for good.
-/

namespace GatewayProxy

open Utf8 Assoc Runs

structure TypingTask where
  clientId : Str
  channelId : Nat
  /-- `Instant::now()` of the task's own first turn; none before it -/
  started : Option Nat
  /-- the next turn is not taken before; none once the loop has returned -/
  due : Option Nat
  /-- history: whether each turn found the client connected, and after what time -/
  turns : List (Bool × Nat)
  deriving DecidableEq

namespace TypingTask

/-- A task that was spawned and has not run yet. -/
def spawned (clientId : Str) (channelId now : Nat) : TypingTask :=
  ⟨clientId, channelId, none, some now, []⟩

/-- The times of the pulses so far, since the start. -/
def pulses (task : TypingTask) : List Nat := wakeTyping task.turns

/-- `started.elapsed()`; the first turn starts the time. -/
def elapsed (task : TypingTask) (now : Nat) : Nat := now - task.started.getD now

/-- The turn returns. -/
def returns (connected : Bool) (elapsed : Nat) : Bool := connected || typingMax ≤ elapsed

/-- A turn of the loop. If it pulses, the answer to the pulse comes before the
pause; none when `Id::new` panics on channel 0. -/
def turn (connected : Bool) (now answered : Nat) (task : TypingTask) : Option TypingTask :=
  task.due.bind fun due =>
    if due ≤ now ∧ now ≤ answered then
      let seen := { task with
        started := some (task.started.getD now)
        turns := task.turns ++ [(connected, task.elapsed now)] }
      if returns connected (task.elapsed now) then some { seen with due := none }
      else if task.channelId = 0 then none
      else some { seen with due := some (answered + typingPulse) }
    else none

end TypingTask

structure Typing where
  inner : Inner
  clock : Nat
  /-- the loops so far, those that returned included -/
  tasks : List TypingTask

inductive TypingStep
  /-- the last step after a broadcast -/
  | event (clients : Clients) (eventName : Str) (event : GatewayEvent) (now : Nat)
  | turn (i now answered : Nat)
  /-- another task changes the shared state -/
  | other (inner : Inner)

namespace Typing

def new (inner : Inner) (now : Nat) : Typing := ⟨inner, now, []⟩

def step (s : Typing) : TypingStep → Option Typing
  | .event clients eventName event now =>
    if s.clock ≤ now then
      some { s with
        clock := now
        tasks := s.tasks ++ (wakeTypingFor clients s.inner eventName event).map fun target =>
          .spawned target.1 target.2 now }
    else none
  | .turn i now answered =>
    if s.clock ≤ now then
      (s.tasks[i]?).bind fun task =>
        (task.turn (s.inner.isClientConnected task.clientId) now answered).map fun task =>
          { s with clock := now, tasks := s.tasks.set i task }
    else none
  | .other inner => some { s with inner := inner }

end Typing

-- ---------------------------------------------------------------------------
-- The pulses of a list of turns
-- ---------------------------------------------------------------------------

/-- Times that are far enough apart, before a bound, are few. -/
theorem length_of_gaps {gap bound : Nat} {l : List Nat} {first : Nat} (hFirst : first < bound + gap)
    (hGap : l.Pairwise fun a b => a + gap ≤ b) (hBounds : ∀ a ∈ l, first ≤ a ∧ a < bound) :
    first + l.length * gap < bound + gap := by
  induction l generalizing first with
  | nil => simpa using hFirst
  | cons a rest ih =>
    obtain ⟨hLater, hRest⟩ := List.pairwise_cons.mp hGap
    obtain ⟨hLe, hLt⟩ := hBounds a List.mem_cons_self
    have hRoom : a + gap + rest.length * gap < bound + gap :=
      ih (by omega) hRest fun b hb => ⟨hLater b hb, (hBounds b (List.mem_cons_of_mem a hb)).2⟩
    rw [List.length_cons, Nat.add_one_mul]
    omega

/-- A pulse is a turn that found the client away, in time. -/
theorem mem_wakeTyping {turns : List (Bool × Nat)} {e : Nat} (h : e ∈ wakeTyping turns) :
    (false, e) ∈ turns ∧ e < typingMax := by
  induction turns with
  | nil => exact absurd h List.not_mem_nil
  | cons turn rest ih =>
    obtain ⟨connected, elapsed⟩ := turn
    rw [wakeTyping] at h
    split at h
    · exact absurd h List.not_mem_nil
    · rename_i hAway
      split at h
      · exact absurd h List.not_mem_nil
      · rename_i hEarly
        rcases List.mem_cons.mp h with rfl | hMem
        · rw [Bool.not_eq_true] at hAway
          rw [hAway]
          exact ⟨List.mem_cons_self .., Nat.lt_of_not_le hEarly⟩
        · obtain ⟨hTurn, hTime⟩ := ih hMem
          exact ⟨List.mem_cons_of_mem _ hTurn, hTime⟩

/-- After turns that all pulsed, the next one decides. -/
theorem wakeTyping_append {times : List Nat} (hTimes : ∀ e ∈ times, e < typingMax)
    (connected : Bool) (elapsed : Nat) :
    wakeTyping (times.map (fun e => (false, e)) ++ [(connected, elapsed)]) =
      times ++ if TypingTask.returns connected elapsed then [] else [elapsed] := by
  induction times with
  | nil =>
    cases connected with
    | true => rfl
    | false =>
      by_cases hLate : typingMax ≤ elapsed
      · simp [wakeTyping, TypingTask.returns, hLate]
      · simp [wakeTyping, TypingTask.returns, hLate]
  | cons first rest ih =>
    obtain ⟨hFirst, hRest⟩ := List.forall_mem_cons.mp hTimes
    rw [List.map_cons, List.cons_append, wakeTyping, if_neg Bool.false_ne_true,
      if_neg (Nat.not_le_of_lt hFirst), ih hRest, List.cons_append]

-- ---------------------------------------------------------------------------
-- The invariant of a loop
-- ---------------------------------------------------------------------------

structure TypingInv (task : TypingTask) : Prop where
  spaced : task.pulses.Pairwise fun a b => a + typingPulse ≤ b
  /-- a loop that has not run has no turns -/
  fresh : task.started = none → task.turns = []
  /-- a loop that goes on has only pulsed -/
  running : ∀ due, task.due = some due →
    task.turns = task.pulses.map (fun e => (false, e)) ∧
    ∀ start, task.started = some start → start ≤ due ∧
      ∀ e ∈ task.pulses, start + e + typingPulse ≤ due
  returned : task.due = none → ∃ connected elapsed, TypingTask.returns connected elapsed = true ∧
    task.turns = task.pulses.map (fun e => (false, e)) ++ [(connected, elapsed)]

section Steps

variable {task task' : TypingTask} {s t : Typing}

/-- What a turn does. -/
theorem turn_eq_some {connected : Bool} {now answered : Nat} (hInv : TypingInv task)
    (hTurn : task.turn connected now answered = some task') :
    ∃ due, task.due = some due ∧ due ≤ now ∧ now ≤ answered ∧
      task'.pulses = task.pulses ++
        (if TypingTask.returns connected (task.elapsed now) then [] else [task.elapsed now]) ∧
      task' = { task with
        started := some (task.started.getD now)
        turns := task.turns ++ [(connected, task.elapsed now)]
        due := if TypingTask.returns connected (task.elapsed now) then none
          else some (answered + typingPulse) } := by
  obtain ⟨due, hDue, hIf⟩ := Option.bind_eq_some_iff.mp hTurn
  split at hIf
  · rename_i hTimes
    obtain ⟨hTurns, -⟩ := hInv.running due hDue
    have hEarly : ∀ e ∈ task.pulses, e < typingMax := fun e hMem => (mem_wakeTyping hMem).2
    have hAppend := wakeTyping_append hEarly connected (task.elapsed now)
    rw [← hTurns] at hAppend
    dsimp only at hIf
    split at hIf
    · rename_i hReturns
      obtain rfl := Option.some.inj hIf
      refine ⟨due, hDue, hTimes.1, hTimes.2, hAppend, ?_⟩
      rw [if_pos hReturns]
    · rename_i hReturns
      split at hIf
      · cases hIf
      · obtain rfl := Option.some.inj hIf
        refine ⟨due, hDue, hTimes.1, hTimes.2, hAppend, ?_⟩
        rw [if_neg hReturns]
  · cases hIf

theorem returns_eq_false_iff {connected : Bool} {elapsed : Nat} :
    TypingTask.returns connected elapsed = false ↔ connected = false ∧ elapsed < typingMax := by
  rw [TypingTask.returns, Bool.or_eq_false_iff, decide_eq_false_iff_not, not_le]

/-- A turn that is due can be taken. -/
theorem exists_turn (connected : Bool) {now answered due : Nat} (hInv : TypingInv task)
    (hChannel : task.channelId ≠ 0) (hDue : task.due = some due) (hNow : due ≤ now)
    (hAnswered : now ≤ answered) :
    ∃ task', task.turn connected now answered = some task' ∧
      task'.started = some (task.started.getD now) ∧
      if connected = false ∧ task.elapsed now < typingMax then
        task'.pulses = task.pulses ++ [task.elapsed now]
      else task'.pulses = task.pulses ∧ task'.due = none := by
  obtain ⟨task', hTurn⟩ : ∃ task', task.turn connected now answered = some task' := by
    rw [TypingTask.turn, hDue, Option.bind_some, if_pos ⟨hNow, hAnswered⟩]
    dsimp only
    split
    · exact ⟨_, rfl⟩
    · exact ⟨_, rfl⟩
  obtain ⟨-, -, -, -, hPulses, hTask⟩ := turn_eq_some hInv hTurn
  refine ⟨task', hTurn, by rw [hTask], ?_⟩
  split
  · rename_i hPulse
    rw [returns_eq_false_iff.mpr hPulse] at hPulses
    exact hPulses
  · rename_i hOver
    rw [← returns_eq_false_iff, Bool.not_eq_false] at hOver
    rw [hOver, if_pos rfl, List.append_nil] at hPulses
    refine ⟨hPulses, ?_⟩
    rw [hTask]
    exact if_pos hOver

theorem typingInv_turn {connected : Bool} {now answered : Nat} (hInv : TypingInv task)
    (hTurn : task.turn connected now answered = some task') : TypingInv task' := by
  obtain ⟨due, hDue, hNow, hAnswered, hPulses, hTask⟩ := turn_eq_some hInv hTurn
  obtain ⟨hTurns, hStarted⟩ := hInv.running due hDue
  have hTurns' : task'.turns = task.pulses.map (fun e => (false, e)) ++
      [(connected, task.elapsed now)] := by
    rw [hTask, ← hTurns]
  have hStart : task'.started = some (task.started.getD now) := by rw [hTask]
  -- the turn is no earlier than the pulses before it
  have hBefore : task.started.getD now ≤ now ∧
      ∀ e ∈ task.pulses, task.started.getD now + e + typingPulse ≤ due := by
    cases hAt : task.started with
    | some start =>
      obtain ⟨hLe, hPast⟩ := hStarted start hAt
      exact ⟨hLe.trans hNow, hPast⟩
    | none =>
      refine ⟨le_rfl, fun e hMem => ?_⟩
      rw [TypingTask.pulses, hInv.fresh hAt] at hMem
      exact absurd hMem List.not_mem_nil
  have hElapsed : task.elapsed now = now - task.started.getD now := rfl
  cases hReturns : TypingTask.returns connected (task.elapsed now) with
  | true =>
    rw [hReturns, if_pos rfl, List.append_nil] at hPulses
    have hOver : task'.due = none := by
      rw [hTask]
      exact if_pos hReturns
    refine ⟨hPulses ▸ hInv.spaced, fun hNone => ?_, fun due' hDue' => ?_, fun _ => ?_⟩
    · cases hStart.symm.trans hNone
    · cases hOver.symm.trans hDue'
    · rw [hPulses]
      exact ⟨connected, task.elapsed now, hReturns, hTurns'⟩
  | false =>
    rw [hReturns, if_neg Bool.false_ne_true] at hPulses
    have hNext : task'.due = some (answered + typingPulse) := by
      rw [hTask]
      exact if_neg (by rw [hReturns]; exact Bool.false_ne_true)
    have hAway : connected = false := by
      rw [TypingTask.returns, Bool.or_eq_false_iff] at hReturns
      exact hReturns.1
    refine ⟨?_, fun hNone => ?_, fun due' hDue' => ⟨?_, fun start hSome => ?_⟩, fun hNone => ?_⟩
    · rw [hPulses, List.pairwise_append]
      refine ⟨hInv.spaced, List.pairwise_singleton _ _, fun a hA b hB => ?_⟩
      obtain rfl := List.mem_singleton.mp hB
      have hGap := hBefore.2 a hA
      omega
    · cases hStart.symm.trans hNone
    · rw [hTurns', hPulses, List.map_append, hAway]
      rfl
    · obtain rfl := Option.some.inj (hNext.symm.trans hDue')
      obtain rfl := Option.some.inj (hStart.symm.trans hSome)
      obtain ⟨hLe, hPast⟩ := hBefore
      refine ⟨by omega, fun e hMem => ?_⟩
      rw [hPulses] at hMem
      rcases List.mem_append.mp hMem with hOld | hNew
      · have hGap := hPast e hOld
        omega
      · obtain rfl := List.mem_singleton.mp hNew
        omega
    · cases hNext.symm.trans hNone

theorem typingInv_spawned (clientId : Str) (channelId now : Nat) :
    TypingInv (.spawned clientId channelId now) where
  spaced := List.Pairwise.nil
  fresh := fun _ => rfl
  running := fun _ _ => ⟨rfl, fun _ hSome => by cases hSome⟩
  returned := nofun

/-- **Step lemma.** -/
theorem typingInv_step {a : TypingStep} (hInv : ∀ task ∈ s.tasks, TypingInv task)
    (hStep : s.step a = some t) : ∀ task ∈ t.tasks, TypingInv task := by
  intro task hMem
  cases a with
  | event clients eventName event now =>
    rw [Typing.step] at hStep
    split at hStep
    · obtain rfl := Option.some.inj hStep
      rcases List.mem_append.mp hMem with hOld | hNew
      · exact hInv task hOld
      · obtain ⟨target, -, rfl⟩ := List.mem_map.mp hNew
        exact typingInv_spawned target.1 target.2 now
    · cases hStep
  | turn i now answered =>
    rw [Typing.step] at hStep
    split at hStep
    · obtain ⟨old, hAt, hMap⟩ := Option.bind_eq_some_iff.mp hStep
      obtain ⟨task', hTurn, rfl⟩ := Option.map_eq_some_iff.mp hMap
      rcases List.mem_or_eq_of_mem_set hMem with hOld | rfl
      · exact hInv task hOld
      · exact typingInv_turn (hInv old (List.mem_of_getElem? hAt)) hTurn
    · cases hStep
  | other inner =>
    obtain rfl := Option.some.inj hStep
    exact hInv task hMem

/-- A loop that has returned stays as it is. -/
theorem returned_step {a : TypingStep} {i : Nat} (hAt : s.tasks[i]? = some task)
    (hOver : task.due = none) (hStep : s.step a = some t) : t.tasks[i]? = some task := by
  cases a with
  | event clients eventName event now =>
    rw [Typing.step] at hStep
    split at hStep
    · obtain rfl := Option.some.inj hStep
      exact (List.getElem?_append_left (List.getElem?_eq_some_iff.mp hAt).1).trans hAt
    · cases hStep
  | turn j now answered =>
    rw [Typing.step] at hStep
    split at hStep
    · obtain ⟨old, hOld, hMap⟩ := Option.bind_eq_some_iff.mp hStep
      obtain ⟨task', hTurn, rfl⟩ := Option.map_eq_some_iff.mp hMap
      have hOther : j ≠ i := by
        rintro rfl
        obtain rfl := Option.some.inj (hAt.symm.trans hOld)
        rw [TypingTask.turn, hOver] at hTurn
        cases hTurn
      exact (List.getElem?_set_ne hOther).trans hAt
    · cases hStep
  | other inner =>
    obtain rfl := Option.some.inj hStep
    exact hAt

end Steps

-- ---------------------------------------------------------------------------
-- The clients of a message
-- ---------------------------------------------------------------------------

/-- The client is away, may have the guild's events and can be woken. -/
def WokenFor (clients : Clients) (inner : Inner) (guildId : Nat) (clientId : Str) : Prop :=
  ∃ config, clients.lookup clientId = some config ∧ guildId ∈ config.guilds ∧
    config.reachableUrl.isSome = true ∧ inner.isClientConnected clientId = false

/-- A message starts one loop for each client that is woken for it. -/
theorem mem_wakeTypingFor (clients : Clients) (inner : Inner) (eventName : Str)
    (event : GatewayEvent) :
    ((wakeTypingFor clients inner eventName event).map Prod.fst).Nodup ∧
      ∀ clientId channelId, (clientId, channelId) ∈ wakeTypingFor clients inner eventName event ↔
        eventName = "MESSAGE_CREATE".toList ∧ event.channelId = some channelId ∧
          ∃ guildId, event.guildId = some guildId ∧ WokenFor clients inner guildId clientId := by
  unfold wakeTypingFor
  cases hChannel : event.channelId with
  | none => simp
  | some channel =>
    cases hGuild : event.guildId with
    | none => simp
    | some guildId =>
      dsimp only
      by_cases hName : eventName = "MESSAGE_CREATE".toList
      · rw [if_pos (by rw [shouldShowWakeTyping, hName, beq_self_eq_true])]
        constructor
        · have hKeys : ((startWakeTypingForDisconnectedClients clients inner guildId).map
              fun clientId => (clientId, channel)).map Prod.fst =
              startWakeTypingForDisconnectedClients clients inner guildId := by
            rw [List.map_map]
            exact List.map_id _
          rw [hKeys]
          exact List.Nodup.sublist (List.filter_sublist.map Sigma.fst) clients.nodupKeys
        · intro clientId channelId
          have hClient : clientId ∈ startWakeTypingForDisconnectedClients clients inner guildId ↔
              WokenFor clients inner guildId clientId := by
            rw [startWakeTypingForDisconnectedClients, Map.mem_keysWhere]
            refine exists_congr fun config => and_congr_right fun _ => ?_
            simp only [Bool.and_eq_true, decide_eq_true_eq, Bool.not_eq_true', and_assoc]
            exact and_congr_right fun _ => and_comm
          simp only [List.mem_map, Prod.mk.injEq, hName, true_and, Option.some.injEq,
            exists_eq_left', ← hClient]
          constructor
          · rintro ⟨id, hMem, rfl, rfl⟩
            exact ⟨rfl, hMem⟩
          · rintro ⟨rfl, hMem⟩
            exact ⟨clientId, hMem, rfl, rfl⟩
      · have hNot : shouldShowWakeTyping eventName = false := by
          rw [shouldShowWakeTyping]
          exact beq_false_of_ne hName
        rw [hNot, if_neg Bool.false_ne_true]
        exact ⟨List.nodup_nil, fun clientId channelId =>
          iff_of_false List.not_mem_nil fun h => hName h.1⟩

/-- The loops that an event starts. -/
theorem tasks_of_event {s t : Typing} {clients : Clients} {eventName : Str}
    {event : GatewayEvent} {now : Nat}
    (hStep : s.step (.event clients eventName event now) = some t) :
    ∃ added, t.tasks = s.tasks ++ added ∧ (added.map TypingTask.clientId).Nodup ∧
      ∀ task, task ∈ added ↔ ∃ clientId channelId, task = .spawned clientId channelId now ∧
        eventName = "MESSAGE_CREATE".toList ∧ event.channelId = some channelId ∧
          ∃ guildId, event.guildId = some guildId ∧
            WokenFor clients s.inner guildId clientId := by
  rw [Typing.step] at hStep
  split at hStep
  · obtain rfl := Option.some.inj hStep
    obtain ⟨hNodup, hTargets⟩ := mem_wakeTypingFor clients s.inner eventName event
    refine ⟨_, rfl, ?_, fun task => ?_⟩
    · rw [List.map_map]
      exact hNodup
    · rw [List.mem_map]
      constructor
      · rintro ⟨⟨clientId, channelId⟩, hMem, rfl⟩
        exact ⟨clientId, channelId, rfl, (hTargets clientId channelId).mp hMem⟩
      · rintro ⟨clientId, channelId, rfl, hWoken⟩
        exact ⟨(clientId, channelId), (hTargets clientId channelId).mpr hWoken, rfl⟩
  · cases hStep

-- ---------------------------------------------------------------------------
-- The result
-- ---------------------------------------------------------------------------

/-- **Typing is exact.** Over every run, with any number of messages and loops, and
clients that come and go between any two turns. A loop pulses only at turns that find
the client away, 7 s apart at least, within 35 s of its start, and so five times at
most. The time starts at the loop's own first turn. While it has not returned, its
next turn can be taken once it is due, and pulses exactly if the client is away and the
time is not over; else the loop has returned, and whatever happens later, even if the
client leaves again, it stays so. A message starts one loop for each client that may
have it, is away and can be woken, and none for anyone else. -/
theorem wake_typing_exact {inner : Inner} {started : Nat} {steps : List TypingStep} {s : Typing}
    (hRun : exec Typing.step (.new inner started) steps = some s) :
    (∀ task ∈ s.tasks, task.pulses.length ≤ 5 ∧
      (task.pulses.Pairwise fun a b => a + typingPulse ≤ b) ∧
      ∀ e ∈ task.pulses, e < typingMax ∧ (false, e) ∈ task.turns) ∧
    (∀ i task due, s.tasks[i]? = some task → task.channelId ≠ 0 → task.due = some due →
      ∀ now answered, s.clock ≤ now → due ≤ now → now ≤ answered →
        ∃ t task', s.step (.turn i now answered) = some t ∧ t.tasks[i]? = some task' ∧
          task'.started = some (task.started.getD now) ∧
          if s.inner.isClientConnected task.clientId = false ∧
              now - task.started.getD now < typingMax then
            task'.pulses = task.pulses ++ [now - task.started.getD now]
          else task'.pulses = task.pulses ∧ task'.due = none) ∧
    (∀ (i : Nat) task, s.tasks[i]? = some task → task.due = none →
      ∀ more t, exec Typing.step s more = some t → t.tasks[i]? = some task) ∧
    ∀ clients eventName event now t, s.step (.event clients eventName event now) = some t →
      ∃ added, t.tasks = s.tasks ++ added ∧ (added.map TypingTask.clientId).Nodup ∧
        ∀ task, task ∈ added ↔ ∃ clientId channelId, task = .spawned clientId channelId now ∧
          eventName = "MESSAGE_CREATE".toList ∧ event.channelId = some channelId ∧
            ∃ guildId, event.guildId = some guildId ∧
              WokenFor clients s.inner guildId clientId := by
  have hInv : ∀ task ∈ s.tasks, TypingInv task :=
    exec_invariant (P := fun s => ∀ task ∈ s.tasks, TypingInv task)
      (fun _ _ _ h hStep => typingInv_step h hStep)
      (fun task hMem => absurd hMem List.not_mem_nil) hRun
  refine ⟨fun task hMem => ⟨?_, (hInv task hMem).spaced, fun e hPulse => ?_⟩, ?_, ?_, ?_⟩
  · have hRoom := length_of_gaps (by decide : 0 < typingMax + typingPulse)
      (hInv task hMem).spaced fun e hPulse => ⟨Nat.zero_le e, (mem_wakeTyping hPulse).2⟩
    unfold typingMax typingPulse at hRoom
    omega
  · exact ⟨(mem_wakeTyping hPulse).2, (mem_wakeTyping hPulse).1⟩
  · intro i task due hAt hChannel hDue now answered hClock hNow hAnswered
    obtain ⟨task', hTurn, hStarted, hPulses⟩ :=
      exists_turn (s.inner.isClientConnected task.clientId)
        (hInv task (List.mem_of_getElem? hAt)) hChannel hDue hNow hAnswered
    have hStep : s.step (.turn i now answered) =
        some { s with clock := now, tasks := s.tasks.set i task' } := by
      rw [Typing.step, if_pos hClock, hAt, Option.bind_some, hTurn]
      rfl
    exact ⟨_, task', hStep, List.getElem?_set_self (List.getElem?_eq_some_iff.mp hAt).1,
      hStarted, hPulses⟩
  · intro i task hAt hOver more t hMore
    exact exec_invariant (P := fun t => t.tasks[i]? = some task)
      (fun _ _ _ h hStep => returned_step h hOver hStep) hAt hMore
  · exact fun clients eventName event now t hStep => tasks_of_event hStep

namespace SampleTyping

/-- Client `c` of guild 7, which can be woken. -/
def clients : Clients := (∅ : Clients).insert "c".toList ⟨"s".toList, {7}, some ['u'], none⟩

def away : Inner := Inner.new [] 1

def message : GatewayEvent where
  eventType := none
  op := ⟨0, ⟨0, 0⟩⟩
  sequence := none
  guildId := some 7
  channelId := some 5

/-- The loop first runs at 12. The client connects after its second pulse, and leaves
after its third turn. -/
def steps : List TypingStep :=
  [.event clients "MESSAGE_CREATE".toList message 10, .turn 0 12 300, .turn 0 7300 7400,
    .other (away.markClientConnected "c".toList), .turn 0 14400 14400, .other away]

def task : TypingTask :=
  ⟨"c".toList, 5, some 12, none, [(false, 0), (false, 7288), (true, 14388)]⟩

end SampleTyping

open SampleTyping in
/-- It gets no further typing. -/
theorem wake_typing_exact_connected :
    ∃ s, exec Typing.step (.new away 0) SampleTyping.steps = some s ∧
      s.tasks[0]? = some SampleTyping.task ∧
      ∀ more t, exec Typing.step s more = some t → t.tasks[0]? = some SampleTyping.task := by
  have hOutcome : (exec Typing.step (.new away 0) SampleTyping.steps).map
      (fun s => s.tasks[0]?) = some (some SampleTyping.task) := by
    decide +kernel
  obtain ⟨s, hRun, hTask⟩ := Option.map_eq_some_iff.mp hOutcome
  exact ⟨s, hRun, hTask, (wake_typing_exact hRun).2.2.1 0 _ hTask rfl⟩

end GatewayProxy
