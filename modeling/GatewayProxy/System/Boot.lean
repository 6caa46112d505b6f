import GatewayProxy.Lib.Progress
import GatewayProxy.Lib.Watch
import GatewayProxy.Source.Cache
import GatewayProxy.Sync.Freshness
import GatewayProxy.Sync.Provenance

/-!
# When the process begins to serve

`run` of `main.rs` from the spawned shard tasks to the listener. It waits for the
READY of each shard, all at once and for 30 s at most, then spawns the sync task, if a
database is configured, and waits 10 s at most for its first snapshot. Meanwhile
shards get READY and lose it again, and the sync task takes its own steps.

Main results:

* `bootInv_step`: what each wait has seen, or how late it is.
* `onlyTables_step`: once the first snapshot is written, no entry is from
  `config.json`.
* `leadsTo_serving`: from anywhere, by steps of its own, the process begins to serve.
* `gate_exact`: it serves neither too early nor never.
-/

namespace GatewayProxy

open Utf8 Assoc Watch Runs

def shardReadyDeadline : Nat := 30 * 1000

/-- The timeout on `initial_sync_ready_rx`. -/
def initialSyncDeadline : Nat := 10 * 1000

/-- `timeout(shard_ready_deadline, shard.ready.wait_until_ready())`. -/
inductive ShardWait
  | waiting (waiter : Waiter JsonObject)
  | timedOut

namespace ShardWait

def isDone : ShardWait → Bool
  | waiting (.returned _) => true
  | waiting _ => false
  | timedOut => true

/-- A step of the wait itself. -/
def move (step : Waiter JsonObject → Option (Waiter JsonObject)) : ShardWait → Option ShardWait
  | waiting waiter => (step waiter).map waiting
  | timedOut => none

/-- The timeout polls the wait first, and expires if that is asleep. -/
def expire (cell : Cell (Option JsonObject)) : ShardWait → Option ShardWait
  | waiting (.sleeping seen) => if seen = cell.version then some timedOut else none
  | _ => none

end ShardWait

inductive BootStage
  /-- in `join_all` -/
  | awaitingShards
  /-- the sync task was spawned at this time -/
  | awaitingSync (spawned : Nat)
  /-- the listener is open -/
  | serving (spawned : Option Nat)
  deriving DecidableEq

structure Boot where
  clock : Nat
  /-- the READY cells, in the order of the shards -/
  cells : List (Cell (Option JsonObject))
  waits : List ShardWait
  stage : BootStage
  /-- the sync task, from its spawn on -/
  sync : Option Dated
  /-- history: each READY with its shard -/
  published : List (Nat × JsonObject)

inductive BootStep
  /-- the task of a shard calls `set_ready` or `set_not_ready` -/
  | publish (i : Nat) (value : Option JsonObject)
  | look (i : Nat)
  | wake (i : Nat)
  | shardTimeout (i now : Nat)
  /-- `join_all` is over; this is the table of the database by now -/
  | joined (now : Nat) (table : Table)
  | sync (action : Sync.Action)
  /-- the signal of the sync task arrives -/
  | signalled
  | syncTimeout (now : Nat)

namespace Boot

/-- `join_all` begins to wait. -/
def new (started shardCount : Nat) : Boot where
  clock := started
  cells := List.replicate shardCount ⟨none, 0⟩
  waits := List.replicate shardCount (.waiting .looking)
  stage := .awaitingShards
  sync := none
  published := []

def moveWait (s : Boot) (i : Nat) (step : Cell (Option JsonObject) → ShardWait → Option ShardWait) :
    Option Boot :=
  (s.cells[i]?).bind fun cell => (s.waits[i]?).bind fun wait =>
    (step cell wait).map fun wait' => { s with waits := s.waits.set i wait' }

/-- `started` is when `join_all` began to wait. -/
def step (databaseUrl : Bool) (configClients : Clients) (started : Nat) (s : Boot) :
    BootStep → Option Boot
  | .publish i value =>
    (s.cells[i]?).map fun cell => { s with
      cells := s.cells.set i (cell.send value)
      published := s.published ++ value.toList.map fun ready => (i, ready) }
  | .look i => s.moveWait i fun cell => ShardWait.move (Waiter.look cell)
  | .wake i => s.moveWait i fun cell => ShardWait.move (Waiter.wake cell)
  | .shardTimeout i now =>
    if s.clock ≤ now ∧ started + shardReadyDeadline ≤ now then
      ({ s with clock := now } : Boot).moveWait i ShardWait.expire
    else none
  | .joined now table =>
    match s.stage with
    | .awaitingShards =>
      if s.waits.all ShardWait.isDone ∧ s.clock ≤ now then
        some (if databaseUrl then
          { s with
            clock := now, stage := .awaitingSync now, sync := some (.new table configClients) }
        else { s with clock := now, stage := .serving none })
      else none
    | _ => none
  | .sync action =>
    s.sync.bind fun d => (d.step action).map fun d => { s with sync := some d }
  | .signalled =>
    match s.stage, s.sync with
    | .awaitingSync spawned, some d =>
      if d.sync.initialSyncReady then some { s with stage := .serving (some spawned) } else none
    | _, _ => none
  | .syncTimeout now =>
    match s.stage, s.sync with
    | .awaitingSync spawned, some d =>
      if !d.sync.initialSyncReady ∧ s.clock ≤ now ∧ spawned + initialSyncDeadline ≤ now then
        some { s with clock := now, stage := .serving (some spawned) }
      else none
    | _, _ => none

/-- `CLIENTS`. -/
def clients (configClients : Clients) (s : Boot) : Clients :=
  s.sync.elim configClients fun d => d.sync.clients

end Boot

-- ---------------------------------------------------------------------------
-- The first snapshot
-- ---------------------------------------------------------------------------

namespace Dated

variable {configClients : Clients} {d e : Dated}

/-- Before the first snapshot the registry is that of `config.json`, and after it no
entry is. -/
def OnlyTables (configClients : Clients) (d : Dated) : Prop :=
  (d.sync.initialSyncReady = false ∧ Sync.FirstInv configClients d.sync) ∨
    d.sync.initialSyncReady = true ∧ ∀ clientId, (d.asOf clientId).isSome = true

theorem sync_of_step {action : Sync.Action} (hStep : d.step action = some e) :
    d.sync.step action = some e.sync := by
  obtain ⟨sync, hSync, rfl⟩ := Option.map_eq_some_iff.mp hStep
  cases action <;> exact hSync

/-- A write of all clients takes all of them from a table. -/
theorem asOf_writeClients (hStep : d.step .writeClients = some e) (clientId : Str) :
    e.asOf clientId = if d.sync.isLoading clientId then some d.read else d.asOf clientId := by
  obtain ⟨sync, -, rfl⟩ := Option.map_eq_some_iff.mp hStep
  rfl

/-- An entry that is from a table stays so. -/
theorem asOf_isSome_step {action : Sync.Action} {clientId : Str}
    (hSome : (d.asOf clientId).isSome = true) (hStep : d.step action = some e) :
    (e.asOf clientId).isSome = true := by
  cases action with
  | writeClients =>
    rw [asOf_writeClients hStep]
    split
    · rfl
    · exact hSome
  | _ =>
    obtain ⟨sync, -, rfl⟩ := Option.map_eq_some_iff.mp hStep
    exact hSome

/-- **Step lemma.** -/
theorem onlyTables_step {action : Sync.Action} (hInv : OnlyTables configClients d)
    (hStep : d.step action = some e) : OnlyTables configClients e := by
  have hSync := sync_of_step hStep
  rcases hInv with ⟨hReady, hFirst⟩ | ⟨hReady, hTables⟩
  · cases hNow : e.sync.initialSyncReady with
    | false =>
      refine .inl ⟨hNow, (Sync.firstInv_step hFirst hSync).resolve_right ?_⟩
      rw [hNow]
      exact Bool.false_ne_true
    | true =>
      -- the step has written the first snapshot
      refine .inr ⟨hNow, fun clientId => ?_⟩
      have hWrites : action = .writeClients ∧ ∃ load rows, d.sync.stage = .marked load rows := by
        generalize hEnd : e.sync = sync at hSync hNow
        cases Sync.steps_of_step hSync with
        | writeInitial hStage => exact ⟨rfl, _, _, hStage⟩
        | writePoll hStage => exact ⟨rfl, _, _, hStage⟩
        | _ =>
          have hBoth : false = true := hReady.symm.trans hNow
          cases hBoth
      obtain ⟨rfl, load, rows, hStage⟩ := hWrites
      rw [asOf_writeClients hStep, Sync.isLoading, hStage]
      rfl
  · exact .inr ⟨Sync.initialSyncReady_step hReady hSync,
      fun clientId => asOf_isSome_step (hTables clientId) hStep⟩

end Dated

-- ---------------------------------------------------------------------------
-- The invariant
-- ---------------------------------------------------------------------------

namespace Boot

/-- What is known of the stage. -/
def StageInv (databaseUrl : Bool) (started : Nat) (s : Boot) : Prop :=
  match s.stage with
  | .awaitingShards => s.sync = none
  | .awaitingSync spawned =>
    (∀ wait ∈ s.waits, wait.isDone = true) ∧ databaseUrl = true ∧ started ≤ spawned ∧
      spawned ≤ s.clock ∧ s.sync.isSome = true
  | .serving none =>
    (∀ wait ∈ s.waits, wait.isDone = true) ∧ databaseUrl = false ∧ s.sync = none
  | .serving (some spawned) =>
    (∀ wait ∈ s.waits, wait.isDone = true) ∧ databaseUrl = true ∧ started ≤ spawned ∧
      ∃ d, s.sync = some d ∧
        (d.sync.initialSyncReady = true ∨ spawned + initialSyncDeadline ≤ s.clock)

structure BootInv (databaseUrl : Bool) (configClients : Clients) (started shardCount : Nat)
    (s : Boot) : Prop where
  cellCount : s.cells.length = shardCount
  waitCount : s.waits.length = shardCount
  clock : started ≤ s.clock
  published : ∀ (i : Nat) cell ready, s.cells[i]? = some cell → cell.value = some ready →
    (i, ready) ∈ s.published
  sound : ∀ (i : Nat) cell waiter, s.cells[i]? = some cell →
    s.waits[i]? = some (ShardWait.waiting waiter) → waiter.Sound cell
  returned : ∀ (i : Nat) ready, s.waits[i]? = some (ShardWait.waiting (.returned ready)) →
    (i, ready) ∈ s.published
  timedOut : ∀ i : Nat, s.waits[i]? = some ShardWait.timedOut →
    started + shardReadyDeadline ≤ s.clock
  stage : StageInv databaseUrl started s
  sync : ∀ d, s.sync = some d → Dated.DatedInv configClients d ∧ Dated.OnlyTables configClients d

section Steps

variable {databaseUrl : Bool} {configClients : Clients} {started shardCount : Nat} {s t : Boot}

theorem bootInv_new : BootInv databaseUrl configClients started shardCount
    (new started shardCount) where
  cellCount := List.length_replicate
  waitCount := List.length_replicate
  clock := le_rfl
  published := by
    intro i cell ready hCell hValue
    obtain ⟨-, rfl⟩ := List.mem_replicate.mp (List.mem_of_getElem? hCell)
    cases hValue
  sound := by
    intro i cell waiter hCell hWait
    obtain ⟨-, hLooking⟩ := List.mem_replicate.mp (List.mem_of_getElem? hWait)
    obtain rfl := ShardWait.waiting.inj hLooking
    trivial
  returned := by
    intro i ready hWait
    obtain ⟨-, hLooking⟩ := List.mem_replicate.mp (List.mem_of_getElem? hWait)
    cases ShardWait.waiting.inj hLooking
  timedOut := by
    intro i hWait
    obtain ⟨-, hLooking⟩ := List.mem_replicate.mp (List.mem_of_getElem? hWait)
    cases hLooking
  stage := rfl
  sync := nofun

/-- What a step of a wait may lead to. -/
structure WaitStep (started clock : Nat) (cell : Cell (Option JsonObject))
    (wait wait' : ShardWait) : Prop where
  pending : wait.isDone = false
  sound : ∀ waiter, wait' = .waiting waiter → waiter.Sound cell
  returned : ∀ ready, wait' = .waiting (.returned ready) → cell.value = some ready
  timedOut : wait' = .timedOut → started + shardReadyDeadline ≤ clock

theorem waitStep_look {clock : Nat} {cell : Cell (Option JsonObject)} {wait wait' : ShardWait}
    (h : wait.move (Waiter.look cell) = some wait') : WaitStep started clock cell wait wait' := by
  cases wait with
  | timedOut => cases h
  | waiting waiter =>
    obtain ⟨waiter', hLook, rfl⟩ := Option.map_eq_some_iff.mp h
    refine ⟨?_, fun w hEq => ?_, fun ready hEq => ?_, nofun⟩
    · cases waiter with
      | looking => rfl
      | sleeping _ => rfl
      | returned _ => cases hLook
    · obtain rfl := ShardWait.waiting.inj hEq
      exact Waiter.look_sound hLook
    · rw [ShardWait.waiting.inj hEq] at hLook
      exact Waiter.look_eq_returned hLook

theorem waitStep_wake {clock : Nat} {cell : Cell (Option JsonObject)} {wait wait' : ShardWait}
    (h : wait.move (Waiter.wake cell) = some wait') : WaitStep started clock cell wait wait' := by
  cases wait with
  | timedOut => cases h
  | waiting waiter =>
    obtain ⟨waiter', hWake, rfl⟩ := Option.map_eq_some_iff.mp h
    have hLooking := Waiter.wake_eq_some hWake
    subst hLooking
    refine ⟨?_, fun w hEq => ?_, nofun, nofun⟩
    · cases waiter with
      | looking => rfl
      | sleeping _ => rfl
      | returned _ => cases hWake
    · obtain rfl := ShardWait.waiting.inj hEq
      trivial

theorem waitStep_expire {clock : Nat} {cell : Cell (Option JsonObject)} {wait wait' : ShardWait}
    (hLate : started + shardReadyDeadline ≤ clock) (h : wait.expire cell = some wait') :
    wait' = .timedOut ∧ WaitStep started clock cell wait wait' := by
  unfold ShardWait.expire at h
  split at h
  · split at h
    · obtain rfl := Option.some.inj h
      exact ⟨rfl, rfl, nofun, nofun, fun _ => hLate⟩
    · cases h
  · cases h

theorem moveWait_eq_some {i : Nat}
    {step : Cell (Option JsonObject) → ShardWait → Option ShardWait} :
    s.moveWait i step = some t ↔ ∃ cell wait wait', s.cells[i]? = some cell ∧
      s.waits[i]? = some wait ∧ step cell wait = some wait' ∧
      t = { s with waits := s.waits.set i wait' } := by
  constructor
  · intro h
    obtain ⟨cell, hCell, h⟩ := Option.bind_eq_some_iff.mp h
    obtain ⟨wait, hWait, h⟩ := Option.bind_eq_some_iff.mp h
    obtain ⟨wait', hStep, rfl⟩ := Option.map_eq_some_iff.mp h
    exact ⟨cell, wait, wait', hCell, hWait, hStep, rfl⟩
  · rintro ⟨cell, wait, wait', hCell, hWait, hStep, rfl⟩
    rw [moveWait, hCell, Option.bind_some, hWait, Option.bind_some, hStep, Option.map_some]

/-- A wait that is over does not move. -/
theorem StageInv.move {i : Nat} {wait wait' : ShardWait} (h : StageInv databaseUrl started s)
    (hWait : s.waits[i]? = some wait) (hPending : wait.isDone = false) :
    StageInv databaseUrl started { s with waits := s.waits.set i wait' } := by
  have hNot : ¬ ∀ wait ∈ s.waits, wait.isDone = true := by
    intro hAll
    rw [hAll wait (List.mem_of_getElem? hWait)] at hPending
    cases hPending
  unfold StageInv at h ⊢
  dsimp only
  split at h
  · exact h
  · exact absurd h.1 hNot
  · exact absurd h.1 hNot
  · exact absurd h.1 hNot

theorem bootInv_move {i : Nat} {step : Cell (Option JsonObject) → ShardWait → Option ShardWait}
    (hInv : BootInv databaseUrl configClients started shardCount s)
    (hStep : ∀ cell wait wait', step cell wait = some wait' →
      WaitStep started s.clock cell wait wait')
    (hMove : s.moveWait i step = some t) :
    BootInv databaseUrl configClients started shardCount t := by
  obtain ⟨cell, wait, wait', hCell, hWait, hNext, rfl⟩ := moveWait_eq_some.mp hMove
  have hNew := hStep cell wait wait' hNext
  have hBound := (List.getElem?_eq_some_iff.mp hWait).1
  -- what a wait is after the step
  have hAfter : ∀ (j : Nat) (w : ShardWait), (s.waits.set i wait')[j]? = some w →
      (j = i ∧ w = wait') ∨ s.waits[j]? = some w := by
    intro j w hAt
    by_cases hSame : i = j
    · subst hSame
      rw [List.getElem?_set_self hBound] at hAt
      exact .inl ⟨rfl, (Option.some.inj hAt).symm⟩
    · rw [List.getElem?_set_ne hSame] at hAt
      exact .inr hAt
  refine ⟨hInv.cellCount, ?_, hInv.clock, hInv.published, fun j cell' waiter hCell' hAt => ?_,
    fun j ready hAt => ?_, fun j hAt => ?_, hInv.stage.move hWait hNew.pending, hInv.sync⟩
  · rw [List.length_set]
    exact hInv.waitCount
  · rcases hAfter j _ hAt with ⟨rfl, hEq⟩ | hOld
    · obtain rfl : cell = cell' := Option.some.inj (hCell.symm.trans hCell')
      exact hNew.sound waiter hEq.symm
    · exact hInv.sound j cell' waiter hCell' hOld
  · rcases hAfter j _ hAt with ⟨rfl, hEq⟩ | hOld
    · exact hInv.published j cell ready hCell (hNew.returned ready hEq.symm)
    · exact hInv.returned j ready hOld
  · rcases hAfter j _ hAt with ⟨rfl, hEq⟩ | hOld
    · exact hNew.timedOut hEq.symm
    · exact hInv.timedOut j hOld

/-- The task of a shard sends into its cell. -/
theorem bootInv_publish {i : Nat} {value : Option JsonObject}
    (hInv : BootInv databaseUrl configClients started shardCount s)
    {cell : Cell (Option JsonObject)} (hCell : s.cells[i]? = some cell) :
    BootInv databaseUrl configClients started shardCount { s with
      cells := s.cells.set i (cell.send value)
      published := s.published ++ value.toList.map fun ready => (i, ready) } := by
  have hBound := (List.getElem?_eq_some_iff.mp hCell).1
  have hAfter : ∀ (j : Nat) (c : Cell (Option JsonObject)),
      (s.cells.set i (cell.send value))[j]? = some c →
      (j = i ∧ c = cell.send value) ∨ s.cells[j]? = some c := by
    intro j c hAt
    by_cases hSame : i = j
    · subst hSame
      rw [List.getElem?_set_self hBound] at hAt
      exact .inl ⟨rfl, (Option.some.inj hAt).symm⟩
    · rw [List.getElem?_set_ne hSame] at hAt
      exact .inr hAt
  refine ⟨?_, hInv.waitCount, hInv.clock, fun j c ready hAt hValue => ?_,
    fun j c waiter hAt hWait => ?_, fun j ready hWait => ?_, hInv.timedOut, hInv.stage,
    hInv.sync⟩
  · rw [List.length_set]
    exact hInv.cellCount
  · rcases hAfter j c hAt with ⟨rfl, rfl⟩ | hOld
    · have hSent : value = some ready := hValue
      rw [hSent]
      exact List.mem_append_right _ (List.mem_singleton.mpr rfl)
    · exact List.mem_append_left _ (hInv.published j c ready hOld hValue)
  · rcases hAfter j c hAt with ⟨rfl, rfl⟩ | hOld
    · exact (hInv.sound j cell waiter hCell hWait).send value
    · exact hInv.sound j c waiter hOld hWait
  · exact List.mem_append_left _ (hInv.returned j ready hWait)

/-- Time passes, and the process moves to a stage that is as it should be. -/
theorem BootInv.advance (hInv : BootInv databaseUrl configClients started shardCount s)
    {now : Nat} (hNow : s.clock ≤ now) {stage : BootStage} {sync : Option Dated}
    (hStage : StageInv databaseUrl started
      { s with clock := now, stage := stage, sync := sync })
    (hSync : ∀ d, sync = some d → Dated.DatedInv configClients d ∧
      Dated.OnlyTables configClients d) :
    BootInv databaseUrl configClients started shardCount
      { s with clock := now, stage := stage, sync := sync } :=
  ⟨hInv.cellCount, hInv.waitCount, hInv.clock.trans hNow, hInv.published, hInv.sound,
    hInv.returned, fun i hAt => (hInv.timedOut i hAt).trans hNow, hStage, hSync⟩

theorem StageInv.later {now : Nat} (h : StageInv databaseUrl started s) (hNow : s.clock ≤ now) :
    StageInv databaseUrl started { s with clock := now } := by
  unfold StageInv at h ⊢
  dsimp only
  split at h
  · exact h
  · obtain ⟨hDone, hUrl, hSpawned, hClock, hSome⟩ := h
    exact ⟨hDone, hUrl, hSpawned, hClock.trans hNow, hSome⟩
  · exact h
  · obtain ⟨hDone, hUrl, hSpawned, d, hSync, hReady | hLate⟩ := h
    · exact ⟨hDone, hUrl, hSpawned, d, hSync, .inl hReady⟩
    · exact ⟨hDone, hUrl, hSpawned, d, hSync, .inr (hLate.trans hNow)⟩

/-- The sync task takes a step. -/
theorem StageInv.sync {d e : Dated} (h : StageInv databaseUrl started s)
    (hSync : s.sync = some d)
    (hReady : d.sync.initialSyncReady = true → e.sync.initialSyncReady = true) :
    StageInv databaseUrl started { s with sync := some e } := by
  unfold StageInv at h ⊢
  dsimp only
  split at h
  · cases h.symm.trans hSync
  · obtain ⟨hDone, hUrl, hSpawned, hClock, -⟩ := h
    exact ⟨hDone, hUrl, hSpawned, hClock, rfl⟩
  · cases h.2.2.symm.trans hSync
  · obtain ⟨hDone, hUrl, hSpawned, d', hSync', hOr⟩ := h
    obtain rfl : d = d' := Option.some.inj (hSync.symm.trans hSync')
    exact ⟨hDone, hUrl, hSpawned, e, rfl, hOr.imp hReady id⟩

theorem spawned_inv (table : Table) (configClients : Clients) :
    Dated.DatedInv configClients (.new table configClients) ∧
      Dated.OnlyTables configClients (.new table configClients) :=
  ⟨Dated.datedInv_new table configClients, .inl ⟨rfl, Sync.firstInv_new table configClients⟩⟩

/-- **Step lemma.** -/
theorem bootInv_step {a : BootStep}
    (hInv : BootInv databaseUrl configClients started shardCount s)
    (hStep : s.step databaseUrl configClients started a = some t) :
    BootInv databaseUrl configClients started shardCount t := by
  cases a with
  | publish i value =>
    obtain ⟨cell, hCell, rfl⟩ := Option.map_eq_some_iff.mp hStep
    exact bootInv_publish hInv hCell
  | look i => exact bootInv_move hInv (fun _ _ _ => waitStep_look) hStep
  | wake i => exact bootInv_move hInv (fun _ _ _ => waitStep_wake) hStep
  | shardTimeout i now =>
    rw [step] at hStep
    split at hStep
    · rename_i hLate
      have hLater := hInv.advance hLate.1 (hInv.stage.later hLate.1) hInv.sync
      exact bootInv_move hLater (fun _ _ _ h => (waitStep_expire hLate.2 h).2) hStep
    · cases hStep
  | joined now table =>
    rw [step] at hStep
    split at hStep
    · rename_i hStage
      split at hStep
      · rename_i hJoined
        obtain ⟨hDone, hNow⟩ := hJoined
        have hAll := List.all_eq_true.mp hDone
        have hNone : s.sync = none := by
          have hAwaiting := hInv.stage
          rw [StageInv, hStage] at hAwaiting
          exact hAwaiting
        cases databaseUrl with
        | true =>
          obtain rfl := Option.some.inj hStep
          refine hInv.advance hNow ⟨hAll, rfl, hInv.clock.trans hNow, le_rfl, rfl⟩ fun d hSome => ?_
          obtain rfl := Option.some.inj hSome
          exact spawned_inv table configClients
        | false =>
          obtain rfl := Option.some.inj hStep
          exact hInv.advance hNow ⟨hAll, rfl, hNone⟩ hInv.sync
      · cases hStep
    · cases hStep
  | sync action =>
    obtain ⟨d, hSync, hMap⟩ := Option.bind_eq_some_iff.mp hStep
    obtain ⟨e, hTask, rfl⟩ := Option.map_eq_some_iff.mp hMap
    obtain ⟨hDated, hOnly⟩ := hInv.sync d hSync
    have hReady := fun h => Sync.initialSyncReady_step h (Dated.sync_of_step hTask)
    refine hInv.advance le_rfl (hInv.stage.sync hSync hReady) fun e' hSome => ?_
    obtain rfl := Option.some.inj hSome
    exact ⟨Dated.datedInv_step hDated hTask, Dated.onlyTables_step hOnly hTask⟩
  | signalled =>
    rw [step] at hStep
    split at hStep
    · rename_i spawned d hStage hSync
      split at hStep
      · rename_i hReady
        obtain rfl := Option.some.inj hStep
        have hAwaiting := hInv.stage
        rw [StageInv, hStage] at hAwaiting
        obtain ⟨hDone, hUrl, hSpawned, -, -⟩ := hAwaiting
        exact hInv.advance le_rfl ⟨hDone, hUrl, hSpawned, d, hSync, .inl hReady⟩ hInv.sync
      · cases hStep
    · cases hStep
  | syncTimeout now =>
    rw [step] at hStep
    split at hStep
    · rename_i spawned d hStage hSync
      split at hStep
      · rename_i hLate
        obtain rfl := Option.some.inj hStep
        obtain ⟨-, hNow, hDeadline⟩ := hLate
        have hAwaiting := hInv.stage
        rw [StageInv, hStage] at hAwaiting
        obtain ⟨hDone, hUrl, hSpawned, -, -⟩ := hAwaiting
        exact hInv.advance hNow ⟨hDone, hUrl, hSpawned, d, hSync, .inr hDeadline⟩ hInv.sync
      · cases hStep
    · cases hStep

end Steps

-- ---------------------------------------------------------------------------
-- Progress
-- ---------------------------------------------------------------------------

section Progress

variable {databaseUrl : Bool} {configClients : Clients} {started shardCount bound : Nat}
  {s t : Boot}

/-- The steps of the process itself, by a time. -/
def Own (bound : Nat) : BootStep → Prop
  | .publish _ _ => False
  | .sync _ => False
  | .look _ => True
  | .wake _ => True
  | .signalled => True
  | .shardTimeout _ now => now ≤ bound
  | .joined now _ => now ≤ bound
  | .syncTimeout now => now ≤ bound

/-- In `join_all`, with the waits for the first `k` shards over. -/
structure Pending (databaseUrl : Bool) (configClients : Clients) (started shardCount bound k : Nat)
    (s : Boot) : Prop where
  inv : BootInv databaseUrl configClients started shardCount s
  stage : s.stage = .awaitingShards
  clock : s.clock ≤ bound
  done : ∀ (i : Nat) wait, i < k → s.waits[i]? = some wait → wait.isDone = true

/-- The wait for shard `k` takes a step of its own. -/
theorem Pending.step {k now : Nat} {wait : ShardWait} {a : BootStep}
    (h : Pending databaseUrl configClients started shardCount bound k s) (hNow : now ≤ bound)
    (hStep : s.step databaseUrl configClients started a =
      some { s with clock := now, waits := s.waits.set k wait }) :
    Pending databaseUrl configClients started shardCount bound k
      { s with clock := now, waits := s.waits.set k wait } := by
  refine ⟨bootInv_step h.inv hStep, h.stage, hNow, fun i w hLess hAt => ?_⟩
  rw [List.getElem?_set_ne (Nat.ne_of_gt hLess)] at hAt
  exact h.done i w hLess hAt

theorem Pending.next {k : Nat} {wait : ShardWait}
    (h : Pending databaseUrl configClients started shardCount bound k s)
    (hWait : s.waits[k]? = some wait) (hDone : wait.isDone = true) :
    Pending databaseUrl configClients started shardCount bound (k + 1) s := by
  refine ⟨h.inv, h.stage, h.clock, fun i w hLess hAt => ?_⟩
  rcases Nat.lt_succ_iff_lt_or_eq.mp hLess with hOld | rfl
  · exact h.done i w hOld hAt
  · obtain rfl := Option.some.inj (hAt.symm.trans hWait)
    exact hDone

/-- A wait that is asleep, with nothing to wake it, times out. -/
theorem leadsTo_of_asleep {k : Nat} {cell : Cell (Option JsonObject)}
    (h : Pending databaseUrl configClients started shardCount bound k s)
    (hBound : started + shardReadyDeadline ≤ bound) (hCell : s.cells[k]? = some cell)
    (hWait : s.waits[k]? = some (ShardWait.waiting (.sleeping cell.version))) :
    LeadsTo (step databaseUrl configClients started) (Own bound)
      (Pending databaseUrl configClients started shardCount bound (k + 1)) 1 s := by
  have hLength := (List.getElem?_eq_some_iff.mp hWait).1
  have hNow : max s.clock (started + shardReadyDeadline) ≤ bound := max_le h.clock hBound
  have hStep : s.step databaseUrl configClients started
      (.shardTimeout k (max s.clock (started + shardReadyDeadline))) =
      some { s with
        clock := max s.clock (started + shardReadyDeadline)
        waits := s.waits.set k .timedOut } := by
    rw [step, if_pos ⟨le_max_left _ _, le_max_right _ _⟩]
    refine moveWait_eq_some.mpr ⟨cell, _, .timedOut, hCell, hWait, ?_, rfl⟩
    exact if_pos rfl
  have hNext := h.step hNow hStep
  refine .head hStep hNow (.here ?_)
  exact hNext.next (List.getElem?_set_self hLength) rfl

/-- A wait that looks returns READY, or goes to sleep. -/
theorem leadsTo_of_looking {k : Nat} {cell : Cell (Option JsonObject)}
    (h : Pending databaseUrl configClients started shardCount bound k s)
    (hBound : started + shardReadyDeadline ≤ bound) (hCell : s.cells[k]? = some cell)
    (hWait : s.waits[k]? = some (ShardWait.waiting .looking)) :
    LeadsTo (step databaseUrl configClients started) (Own bound)
      (Pending databaseUrl configClients started shardCount bound (k + 1)) 2 s := by
  have hLength := (List.getElem?_eq_some_iff.mp hWait).1
  cases hValue : cell.value with
  | some ready =>
    have hStep : s.step databaseUrl configClients started (.look k) =
        some { s with clock := s.clock, waits := s.waits.set k (.waiting (.returned ready)) } := by
      refine moveWait_eq_some.mpr ⟨cell, _, _, hCell, hWait, ?_, rfl⟩
      rw [ShardWait.move, Waiter.look, hValue]
      rfl
    have hNext := h.step h.clock hStep
    refine .head hStep trivial (.here ?_)
    exact hNext.next (List.getElem?_set_self hLength) rfl
  | none =>
    have hStep : s.step databaseUrl configClients started (.look k) =
        some { s with
          clock := s.clock, waits := s.waits.set k (.waiting (.sleeping cell.version)) } := by
      refine moveWait_eq_some.mpr ⟨cell, _, _, hCell, hWait, ?_, rfl⟩
      rw [ShardWait.move, Waiter.look, hValue]
      rfl
    have hNext := h.step h.clock hStep
    exact .head hStep trivial
      (leadsTo_of_asleep hNext hBound hCell (List.getElem?_set_self hLength))

/-- Every wait can be brought to its end. -/
theorem leadsTo_next {k : Nat} (hLess : k < shardCount)
    (h : Pending databaseUrl configClients started shardCount bound k s)
    (hBound : started + shardReadyDeadline ≤ bound) :
    LeadsTo (step databaseUrl configClients started) (Own bound)
      (Pending databaseUrl configClients started shardCount bound (k + 1)) 3 s := by
  have hLength : k < s.waits.length := by
    rw [h.inv.waitCount]
    exact hLess
  have hCells : k < s.cells.length := by
    rw [h.inv.cellCount]
    exact hLess
  have hCell := List.getElem?_eq_getElem hCells
  have hWait := List.getElem?_eq_getElem hLength
  generalize s.cells[k] = cell at hCell
  generalize s.waits[k] = wait at hWait
  cases wait with
  | timedOut => exact .here (h.next hWait rfl)
  | waiting waiter =>
    cases waiter with
    | returned ready => exact .here (h.next hWait rfl)
    | looking => exact (leadsTo_of_looking h hBound hCell hWait).mono (by omega)
    | sleeping seen =>
      by_cases hSeen : seen = cell.version
      · subst hSeen
        exact (leadsTo_of_asleep h hBound hCell hWait).mono (by omega)
      · have hStep : s.step databaseUrl configClients started (.wake k) =
            some { s with clock := s.clock, waits := s.waits.set k (.waiting .looking) } := by
          refine moveWait_eq_some.mpr ⟨cell, _, _, hCell, hWait, ?_, rfl⟩
          rw [ShardWait.move, Waiter.wake, if_neg hSeen]
          rfl
        have hNext := h.step h.clock hStep
        exact .head hStep trivial
          (leadsTo_of_looking hNext hBound hCell (List.getElem?_set_self hLength))

/-- All waits, one after the other. -/
theorem leadsTo_pending {k : Nat} (hLe : k ≤ shardCount)
    (h : Pending databaseUrl configClients started shardCount bound 0 s)
    (hBound : started + shardReadyDeadline ≤ bound) :
    LeadsTo (step databaseUrl configClients started) (Own bound)
      (Pending databaseUrl configClients started shardCount bound k) (3 * k) s := by
  induction k with
  | zero => exact .here h
  | succ k ih =>
    have hFirst := ih (Nat.le_of_succ_le hLe)
    exact hFirst.trans fun t hPending => leadsTo_next hLe hPending hBound

/-- With the sync task spawned, its signal or its timeout is one step away. -/
theorem leadsTo_of_awaitingSync {spawned : Nat}
    (hInv : BootInv databaseUrl configClients started shardCount s)
    (hStage : s.stage = .awaitingSync spawned) (hBound : s.clock ≤ bound) :
    LeadsTo (step databaseUrl configClients started) (Own (bound + initialSyncDeadline))
      (fun t => ∃ since, t.stage = .serving since) 1 s := by
  have hAwaiting := hInv.stage
  rw [StageInv, hStage] at hAwaiting
  obtain ⟨-, -, -, hSpawned, hSome⟩ := hAwaiting
  obtain ⟨d, hSync⟩ := Option.isSome_iff_exists.mp hSome
  cases hReady : d.sync.initialSyncReady with
  | true =>
    have hStep : s.step databaseUrl configClients started .signalled =
        some { s with stage := .serving (some spawned) } := by
      simp only [step, hStage, hSync, hReady, if_true]
    exact .head hStep trivial (.here ⟨_, rfl⟩)
  | false =>
    have hLate : s.clock ≤ s.clock + initialSyncDeadline ∧
        spawned + initialSyncDeadline ≤ s.clock + initialSyncDeadline := by omega
    have hStep : s.step databaseUrl configClients started
        (.syncTimeout (s.clock + initialSyncDeadline)) =
        some { s with
          clock := s.clock + initialSyncDeadline, stage := .serving (some spawned) } := by
      simp only [step, hStage, hSync, hReady]
      exact if_pos ⟨rfl, hLate⟩
    exact .head hStep (Nat.add_le_add_right hBound _) (.here ⟨_, rfl⟩)

/-- **Progress.** From anywhere, by its own steps, the process begins to serve. -/
theorem leadsTo_serving (hInv : BootInv databaseUrl configClients started shardCount s) :
    LeadsTo (step databaseUrl configClients started)
      (Own (max s.clock (started + shardReadyDeadline) + initialSyncDeadline))
      (fun t => ∃ since, t.stage = .serving since) (3 * shardCount + 2) s := by
  cases hStage : s.stage with
  | serving since => exact .here ⟨since, hStage⟩
  | awaitingSync spawned =>
    exact (leadsTo_of_awaitingSync hInv hStage (le_max_left _ _)).mono (by omega)
  | awaitingShards =>
    have hPending : Pending databaseUrl configClients started shardCount
        (max s.clock (started + shardReadyDeadline)) 0 s :=
      ⟨hInv, hStage, le_max_left _ _, fun i wait hLess => absurd hLess (Nat.not_lt_zero i)⟩
    have hWaits := leadsTo_pending le_rfl hPending (le_max_right _ _)
    refine (hWaits.weaken fun a hOwn => ?_).trans fun t hAll => ?_
    · cases a with
      | shardTimeout i now => exact Nat.le_add_right_of_le hOwn
      | joined now table => exact Nat.le_add_right_of_le hOwn
      | syncTimeout now => exact Nat.le_add_right_of_le hOwn
      | publish | sync => exact hOwn
      | look | wake | signalled => trivial
    · -- all waits are over
      have hDone : t.waits.all ShardWait.isDone = true := by
        rw [List.all_eq_true]
        intro wait hMem
        obtain ⟨i, hBound, rfl⟩ := List.getElem_of_mem hMem
        have hLess : i < shardCount := by
          rw [← hAll.inv.waitCount]
          exact hBound
        exact hAll.done i _ hLess (List.getElem?_eq_getElem hBound)
      have hNow : t.clock ≤ max s.clock (started + shardReadyDeadline) + initialSyncDeadline :=
        Nat.le_add_right_of_le hAll.clock
      cases databaseUrl with
      | false =>
        have hStep : t.step false configClients started (.joined t.clock []) =
            some { t with clock := t.clock, stage := .serving none } := by
          simp only [step, hAll.stage, hDone]
          exact if_pos ⟨trivial, le_rfl⟩
        exact (LeadsTo.here ⟨none, rfl⟩).head hStep hNow
      | true =>
        have hStep : t.step true configClients started (.joined t.clock []) =
            some { t with
              clock := t.clock, stage := .awaitingSync t.clock
              sync := some (.new [] configClients) } := by
          simp only [step, hAll.stage, hDone]
          exact if_pos ⟨trivial, le_rfl⟩
        have hNext := bootInv_step hAll.inv hStep
        exact (leadsTo_of_awaitingSync hNext rfl hAll.clock).head hStep hNow

end Progress

-- ---------------------------------------------------------------------------
-- What holds once the gate is open
-- ---------------------------------------------------------------------------

section Open

variable {databaseUrl : Bool} {configClients : Clients} {started shardCount : Nat} {s : Boot}

/-- When all waits are over, each shard had its READY or the deadline has passed. -/
theorem BootInv.shards (hInv : BootInv databaseUrl configClients started shardCount s)
    (hDone : ∀ wait ∈ s.waits, wait.isDone = true) {i : Nat} (hLess : i < shardCount) :
    (∃ ready, (i, ready) ∈ s.published) ∨ started + shardReadyDeadline ≤ s.clock := by
  have hLength : i < s.waits.length := by
    rw [hInv.waitCount]
    exact hLess
  have hWait := List.getElem?_eq_getElem hLength
  have hOver := hDone _ (List.getElem_mem hLength)
  generalize s.waits[i] = wait at hWait hOver
  cases wait with
  | timedOut => exact .inr (hInv.timedOut i hWait)
  | waiting waiter =>
    cases waiter with
    | returned ready => exact .inl ⟨ready, hInv.returned i ready hWait⟩
    | looking => cases hOver
    | sleeping seen => cases hOver

theorem BootInv.serving (hInv : BootInv databaseUrl configClients started shardCount s)
    {since : Option Nat} (hServing : s.stage = .serving since) :
    (∀ i < shardCount, (∃ ready, (i, ready) ∈ s.published) ∨
        started + shardReadyDeadline ≤ s.clock) ∧
      (databaseUrl = false → s.clients configClients = configClients) ∧
      (databaseUrl = true → ∃ d spawned, s.sync = some d ∧ since = some spawned ∧
        started ≤ spawned ∧ (d.sync.initialSyncReady = true ∨
          spawned + initialSyncDeadline ≤ s.clock)) := by
  have hStage := hInv.stage
  rw [StageInv, hServing] at hStage
  cases since with
  | none =>
    obtain ⟨hDone, hNoUrl, hNone⟩ := hStage
    refine ⟨fun i hLess => hInv.shards hDone hLess, fun _ => ?_, fun hUrl => ?_⟩
    · rw [clients, hNone]
      rfl
    · cases hUrl.symm.trans hNoUrl
  | some spawned =>
    obtain ⟨hDone, hWithUrl, hSpawned, d, hSync, hOr⟩ := hStage
    refine ⟨fun i hLess => hInv.shards hDone hLess, fun hUrl => ?_, fun _ => ?_⟩
    · cases hUrl.symm.trans hWithUrl
    · exact ⟨d, spawned, hSync, rfl, hSpawned, hOr⟩

end Open

-- ---------------------------------------------------------------------------
-- The result
-- ---------------------------------------------------------------------------

/-- **The gate opens neither too early nor never.** Over every run, with shards that
get READY and lose it and a sync task that fails and reconnects at any point. Once
the process serves, each shard has had a READY, or the wait for it lasted 30 s; and
with a database the first snapshot was written, or the wait for it lasted 10 s. Until
that snapshot the registry is that of `config.json`; after it, each client has one
table of the database, by whose rows alone its tokens authenticate. And from any state
the process begins to serve by its own steps, with no help from Discord or the
database, at most 40 s after it began to wait if no step is late. -/
theorem gate_exact {databaseUrl : Bool} {configClients : Clients} {started shardCount : Nat}
    {steps : List BootStep} {s : Boot}
    (hRun : exec (step databaseUrl configClients started) (new started shardCount) steps =
      some s) :
    (∀ since, s.stage = .serving since →
      (∀ i < shardCount, (∃ ready, (i, ready) ∈ s.published) ∨
        started + shardReadyDeadline ≤ s.clock) ∧
      (databaseUrl = false → s.clients configClients = configClients) ∧
      (databaseUrl = true → ∃ d spawned, s.sync = some d ∧ since = some spawned ∧
        started ≤ spawned ∧ (d.sync.initialSyncReady = true ∨
          spawned + initialSyncDeadline ≤ s.clock))) ∧
    (∀ d, s.sync = some d →
      (d.sync.initialSyncReady = false → s.clients configClients = configClients) ∧
      (d.sync.initialSyncReady = true → ∀ clientId, ∃ moment table,
        d.asOf clientId = some moment ∧ d.tables[moment]? = some table ∧
        ∀ state token guilds,
          authenticateClientWithId (s.clients configClients) state token = .ok clientId guilds →
          (∃ row ∈ table, row.clientId = clientId ∧
            splitOnce ':' token = some (clientId, row.secret)) ∧
          ∀ guildId ∈ guilds, ∃ row ∈ table, row.clientId = clientId ∧
            splitOnce ':' token = some (clientId, row.secret) ∧
            parseU64 row.guildId = some guildId)) ∧
    LeadsTo (step databaseUrl configClients started)
      (Own (max s.clock (started + shardReadyDeadline) + initialSyncDeadline))
      (fun t => ∃ since, t.stage = .serving since) (3 * shardCount + 2) s := by
  have hInv : BootInv databaseUrl configClients started shardCount s :=
    exec_invariant (fun _ _ _ h hStep => bootInv_step h hStep) bootInv_new hRun
  refine ⟨fun since hServing => hInv.serving hServing, fun d hSync => ?_, leadsTo_serving hInv⟩
  obtain ⟨hDated, hOnly⟩ := hInv.sync d hSync
  have hClients : s.clients configClients = d.sync.clients := by
    rw [clients, hSync]
    rfl
  rw [hClients]
  refine ⟨fun hNot => ?_, fun hReady clientId => ?_⟩
  · rcases hOnly with ⟨-, hFirst⟩ | ⟨hReady, -⟩
    · exact hFirst.clients
    · cases hNot.symm.trans hReady
  · have hTables : ∀ clientId, (d.asOf clientId).isSome = true := by
      rcases hOnly with ⟨hNot, -⟩ | ⟨-, hTables⟩
      · cases hNot.symm.trans hReady
      · exact hTables
    obtain ⟨moment, hMoment⟩ := Option.isSome_iff_exists.mp (hTables clientId)
    obtain ⟨table, hTable, hEntry⟩ := hDated.table hMoment
    exact ⟨moment, table, hMoment, hTable,
      fun state token guilds hAuth => Dated.rows_of_authenticated hEntry hAuth⟩

open SampleRows in
/-- The shard has READY and loses it before the wait looks, gets it again, and the
snapshot comes in time. -/
def inTime : List BootStep :=
  [.look 0, .publish 0 (some ∅), .publish 0 none, .wake 0, .look 0, .publish 0 (some ∅), .wake 0,
    .look 0, .joined 5 [row "a" "7"], .sync .connect, .sync (.answer [row "a" "7"]),
    .sync (.markSuccess (some 1)), .sync .writeClients, .signalled]

theorem gate_exact_in_time :
    ∃ s d, exec (step true ∅ 0) (new 0 1) inTime = some s ∧ s.sync = some d ∧
      s.stage = .serving (some 5) ∧ (∃ ready, (0, ready) ∈ s.published) ∧
      d.sync.initialSyncReady = true := by
  have hOutcome : (exec (step true ∅ 0) (new 0 1) inTime).map (fun s => (s.stage, s.clock)) =
      some (.serving (some 5), 5) := by
    decide +kernel
  obtain ⟨s, hRun, hEnd⟩ := Option.map_eq_some_iff.mp hOutcome
  obtain ⟨hStage, hClock⟩ := Prod.mk.inj hEnd
  obtain ⟨hShards, -, hTask⟩ := (gate_exact hRun).1 _ hStage
  obtain ⟨d, spawned, hSync, hSpawned, -, hReady⟩ := hTask rfl
  obtain rfl := Option.some.inj hSpawned
  -- no deadline has passed
  rw [hClock] at hShards hReady
  refine ⟨s, d, hRun, hSync, hStage, ?_, hReady.resolve_right (by decide)⟩
  exact (hShards 0 Nat.zero_lt_one).resolve_right (by decide)

end Boot

end GatewayProxy
