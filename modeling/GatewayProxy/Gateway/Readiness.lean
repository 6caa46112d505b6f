import GatewayProxy.Gateway.Pipeline
import GatewayProxy.Lib.Watch

/-!
# Waiting for READY

`Ready` of `state.rs`: the READY cell of a shard is a watched cell, which the
shard's task writes and `wait_until_ready` of any number of connections waits
for. The sender is never dropped, since a waiting task holds the shard. A session
can be lost and come back between any two steps of a waiting connection.

Main results:

* `readinessInv_step`: the watched cell is the READY cell of the shard, and no
  waiter misses a change of it.
* `wait_until_ready_exact`: a connection returns a scrubbed READY that the shard
  received; as long as the shard has one, no connection is stuck, and its own next
  steps return it.
-/

namespace GatewayProxy

open Utf8 Assoc Broadcast Watch Runs

structure Readiness where
  shard : ShardTask
  /-- the `watch` channel of `Ready` -/
  ready : Cell (Option JsonObject)
  /-- the calls of `wait_until_ready` so far -/
  waiters : List (Waiter JsonObject)

inductive ReadinessStep
  | shard (a : ShardStep)
  /-- a connection starts to wait -/
  | join
  | look (i : Nat)
  | wake (i : Nat)

/-- What a step of the shard's task sends into the cell: `set_ready` or
`set_not_ready`. -/
def ShardTask.publishes (cfg : Config) (lib : ShardLib) (s : ShardTask) :
    ShardStep → Option (Option JsonObject)
  | .handle _ =>
    match s.stage with
    | .received payload event _ =>
      if event.isReadyEvent then
        (lib.parseReady payload).map fun ready => some (scrubReady cfg lib ready)
      else none
    | _ => none
  | .parse =>
    match s.stage with
    | .parsing payload =>
      match lib.parse payload with
      | .invalidateSession false => some none
      | _ => none
    | _ => none
  | _ => none

namespace Readiness

def new (inner : Inner) : Readiness := ⟨.new inner, ⟨none, 0⟩, []⟩

/-- A step of one waiter. -/
def move (s : Readiness) (i : Nat) (step : Waiter JsonObject → Option (Waiter JsonObject)) :
    Option Readiness :=
  (s.waiters[i]?).bind fun w =>
    (step w).map fun w' => { s with waiters := s.waiters.set i w' }

def step (cfg : Config) (lib : ShardLib) (shardId : Nat) (s : Readiness) :
    ReadinessStep → Option Readiness
  | .shard a =>
    (s.shard.step cfg lib shardId a).map fun shard => { s with
      shard := shard
      ready := match s.shard.publishes cfg lib a with
        | some value => s.ready.send value
        | none => s.ready }
  | .join => some { s with waiters := s.waiters ++ [.looking] }
  | .look i => s.move i (Waiter.look s.ready)
  | .wake i => s.move i (Waiter.wake s.ready)

end Readiness

-- ---------------------------------------------------------------------------
-- The cell of the shard
-- ---------------------------------------------------------------------------

/-- The READY cell after a step is what the step sends, if it sends. -/
theorem ShardTask.cell_step {cfg : Config} {lib : ShardLib} {shardId : Nat} {s t : ShardTask}
    {a : ShardStep} (hHere : (s.inner.shard shardId).isSome = true)
    (hStep : s.step cfg lib shardId a = some t) :
    t.cell shardId = (s.publishes cfg lib a).getD (s.cell shardId) := by
  obtain ⟨shard, hShard⟩ := Option.isSome_iff_exists.mp hHere
  unfold step at hStep
  cases a with
  | next input =>
    dsimp only at hStep
    split at hStep
    · cases input with
      | text payload =>
        obtain rfl := Option.some.inj hStep
        unfold receive
        dsimp only
        split <;> rfl
      | close shutdown =>
        obtain rfl := Option.some.inj hStep
        cases shutdown <;> rfl
      | failed =>
        obtain rfl := Option.some.inj hStep
        rfl
      | ended =>
        obtain rfl := Option.some.inj hStep
        rfl
    · cases hStep
  | handle clients =>
    dsimp only at hStep
    split at hStep
    · rename_i payload event hEvent hStage
      rw [publishes, hStage]
      dsimp only
      unfold handle at hStep
      split at hStep
      · rename_i hType
        obtain rfl := Option.some.inj hStep
        rw [if_neg (by simp [GatewayEvent.isReadyEvent, hType])]
        rfl
      · rename_i info hType
        split at hStep
        · rename_i hName
          obtain ⟨inner, hHandle, rfl⟩ := Option.map_eq_some_iff.mp hStep
          obtain ⟨ready, hParse, hPut⟩ := handleReady_eq_some hHandle
          rw [if_pos ((isReadyEvent_iff hType).mpr hName), hParse]
          show (inner.shard shardId).bind Shard.ready = _
          rw [hPut, hShard]
          rfl
        · rename_i hName
          rw [if_neg fun h => hName ((isReadyEvent_iff hType).mp h)]
          split at hStep
          · obtain rfl := Option.some.inj hStep
            rfl
          · split at hStep
            · obtain rfl := Option.some.inj hStep
              show ((trackEvent _ _ _ _ _).shard shardId).bind Shard.ready = _
              rw [Inner.shard_of_shards_eq (trackEvent_shards _ _ _ _ _)]
              rfl
            · obtain rfl := Option.some.inj hStep
              rfl
    · cases hStep
  | buffer clients now =>
    dsimp only at hStep
    split at hStep
    · obtain rfl := Option.some.inj hStep
      show ((bufferEvent _ _ _ _ _).2.shard shardId).bind Shard.ready = _
      rw [Inner.shard_of_shards_eq (bufferEvent_shards _ _ _ _ _)]
      rfl
    · cases hStep
  | parse =>
    dsimp only at hStep
    split at hStep
    · rename_i payload hStage
      obtain rfl := Option.some.inj hStep
      rw [publishes, hStage]
      dsimp only
      unfold finish
      cases hParse : lib.parse payload with
      | dispatch =>
        have hUpdated := Inner.shard_updateShard (f := fun shard =>
          { shard with guilds := lib.update shard.guilds payload }) (fun _ => rfl) s.inner shardId
        show ((s.inner.updateShard shardId _).shard shardId).bind Shard.ready = s.cell shardId
        rw [hUpdated, hShard, cell, hShard]
        rfl
      | invalidateSession canResume =>
        cases canResume with
        | true => rfl
        | false =>
          show ((s.inner.setNotReady shardId).shard shardId).bind Shard.ready = none
          rw [shard_setNotReady, hShard]
          rfl
      | ignored => rfl
    · cases hStep
  | other inner =>
    dsimp only at hStep
    split at hStep
    · rename_i hSame
      obtain rfl := Option.some.inj hStep
      show (inner.shard shardId).bind Shard.ready = _
      rw [hSame]
      rfl
    · cases hStep

-- ---------------------------------------------------------------------------
-- The invariant
-- ---------------------------------------------------------------------------

structure ReadinessInv (cfg : Config) (lib : ShardLib) (shardId : Nat) (s : Readiness) : Prop where
  relay : RelayInv cfg lib shardId s.shard
  watched : s.ready.value = s.shard.cell shardId
  sound : ∀ w ∈ s.waiters, w.Sound s.ready
  returned : ∀ ready, .returned ready ∈ s.waiters → FromReceived cfg lib s.shard ready

theorem readinessInv_new (cfg : Config) (lib : ShardLib) {shardId : Nat} {inner : Inner}
    {shard : Shard} (hShard : inner.shard shardId = some shard) (hFresh : shard.ready = none) :
    ReadinessInv cfg lib shardId (Readiness.new inner) where
  relay := relayInv_new cfg lib hShard hFresh
  watched := by
    show none = (inner.shard shardId).bind Shard.ready
    rw [hShard]
    exact hFresh.symm
  sound := by
    intro w hMem
    cases hMem
  returned := by
    intro ready hMem
    cases hMem

section Steps

variable {cfg : Config} {lib : ShardLib} {shardId : Nat} {s t : Readiness}

/-- A waiter moves. -/
theorem readinessInv_move {i : Nat} {step : Waiter JsonObject → Option (Waiter JsonObject)}
    (hInv : ReadinessInv cfg lib shardId s)
    (hSound : ∀ w w', step w = some w' → w'.Sound s.ready)
    (hReturned : ∀ w ready, step w = some (.returned ready) → s.ready.value = some ready)
    (hMove : s.move i step = some t) : ReadinessInv cfg lib shardId t := by
  obtain ⟨w, -, hMap⟩ := Option.bind_eq_some_iff.mp hMove
  obtain ⟨w', hStep, rfl⟩ := Option.map_eq_some_iff.mp hMap
  refine ⟨hInv.relay, hInv.watched, fun v hMem => ?_, fun ready hMem => ?_⟩
  · rcases List.mem_or_eq_of_mem_set hMem with hOld | rfl
    · exact hInv.sound v hOld
    · exact hSound w v hStep
  · rcases List.mem_or_eq_of_mem_set hMem with hOld | hNew
    · exact hInv.returned ready hOld
    · have hValue := hReturned w ready (hNew ▸ hStep)
      exact hInv.relay.cell_eq_some (hInv.watched.symm.trans hValue)

/-- **Step lemma.** -/
theorem readinessInv_step {a : ReadinessStep} (hInv : ReadinessInv cfg lib shardId s)
    (hStep : s.step cfg lib shardId a = some t) : ReadinessInv cfg lib shardId t := by
  cases a with
  | shard a =>
    obtain ⟨shard, hShard, rfl⟩ := Option.map_eq_some_iff.mp hStep
    have hCell := ShardTask.cell_step hInv.relay.here hShard
    refine ⟨relayInv_step hInv.relay hShard, ?_, fun w hMem => ?_, fun ready hMem =>
      (hInv.returned ready hMem).mono (ShardTask.step_events hShard).2⟩
    · rw [hCell]
      dsimp only
      cases s.shard.publishes cfg lib a with
      | none => exact hInv.watched
      | some value => rfl
    · dsimp only
      cases s.shard.publishes cfg lib a with
      | none => exact hInv.sound w hMem
      | some value => exact (hInv.sound w hMem).send value
  | join =>
    obtain rfl := Option.some.inj hStep
    refine ⟨hInv.relay, hInv.watched, fun w hMem => ?_, fun ready hMem => ?_⟩
    · rcases List.mem_append.mp hMem with hOld | hNew
      · exact hInv.sound w hOld
      · rw [List.mem_singleton.mp hNew]
        trivial
    · rcases List.mem_append.mp hMem with hOld | hNew
      · exact hInv.returned ready hOld
      · cases List.mem_singleton.mp hNew
  | look i =>
    exact readinessInv_move hInv (fun _ _ => Waiter.look_sound)
      (fun _ _ => Waiter.look_eq_returned) hStep
  | wake i =>
    refine readinessInv_move hInv (fun w w' h => ?_) (fun w ready h => ?_) hStep
    · rw [Waiter.wake_eq_some h]
      trivial
    · cases Waiter.wake_eq_some h

/-- A waiter takes the steps of its own. -/
theorem move_eq_some {i : Nat} {w w' : Waiter JsonObject}
    {step : Waiter JsonObject → Option (Waiter JsonObject)} (hAt : s.waiters[i]? = some w)
    (hStep : step w = some w') :
    s.move i step = some { s with waiters := s.waiters.set i w' } ∧
      (s.waiters.set i w')[i]? = some w' := by
  constructor
  · rw [Readiness.move, hAt, Option.bind_some, hStep]
    rfl
  · exact List.getElem?_set_self (List.getElem?_eq_some_iff.mp hAt).1

end Steps

/-- Over every run: `wait_until_ready` returns only a scrubbed READY that the
shard received. While the shard has one, a waiting connection returns it by its
own next steps, at most a wake-up and a look; and a connection that cannot wake up
waits for a shard that has none. -/
theorem wait_until_ready_exact (cfg : Config) (lib : ShardLib) (shardId : Nat) (inner : Inner)
    (shard : Shard) (hShard : inner.shard shardId = some shard) (hFresh : shard.ready = none)
    (steps : List ReadinessStep) (s : Readiness)
    (hRun : exec (Readiness.step cfg lib shardId) (Readiness.new inner) steps = some s)
    (i : Nat) (w : Waiter JsonObject) (hWaiter : s.waiters[i]? = some w) :
    (∀ ready, w = .returned ready → FromReceived cfg lib s.shard ready) ∧
      (∀ ready, s.shard.cell shardId = some ready → (∀ other, w ≠ .returned other) →
        ∃ own, own.Sublist [.wake i, .look i] ∧ ∃ t,
          exec (Readiness.step cfg lib shardId) s own = some t ∧
            t.waiters[i]? = some (.returned ready)) ∧
      ∀ seen, w = .sleeping seen → w.wake s.ready = none → s.shard.cell shardId = none := by
  have hInv : ReadinessInv cfg lib shardId s :=
    exec_invariant (fun _ _ _ hInv hStep => readinessInv_step hInv hStep)
      (readinessInv_new cfg lib hShard hFresh) hRun
  have hMem := List.mem_of_getElem? hWaiter
  have hSound := hInv.sound w hMem
  -- a look finds the value, and returns it
  have hLook : ∀ (s' : Readiness) (ready : JsonObject), s'.ready.value = some ready →
      s'.waiters[i]? = some .looking → ∃ t, s'.step cfg lib shardId (.look i) = some t ∧
        t.waiters[i]? = some (.returned ready) := by
    intro s' ready hValue hAt
    have hReturns : Waiter.look s'.ready .looking = some (.returned ready) := by
      rw [Waiter.look, hValue]
    obtain ⟨hMove, hSet⟩ := move_eq_some hAt hReturns
    exact ⟨_, hMove, hSet⟩
  refine ⟨fun ready hReturned => hInv.returned ready (hReturned ▸ hMem), ?_, ?_⟩
  · intro ready hCell hNot
    have hValue := hInv.watched.trans hCell
    cases w with
    | looking =>
      obtain ⟨t, hStep, hReturned⟩ := hLook s ready hValue hWaiter
      exact ⟨[.look i], List.sublist_cons_self _ _, t,
        exec_cons_eq_some.mpr ⟨t, hStep, rfl⟩, hReturned⟩
    | sleeping seen =>
      obtain ⟨hMove, hSet⟩ := move_eq_some hWaiter (hSound.wakes hValue rfl)
      obtain ⟨t, hStep, hReturned⟩ := hLook { s with waiters := s.waiters.set i .looking } ready
        hValue hSet
      exact ⟨[.wake i, .look i], List.Sublist.refl _, t,
        exec_cons_eq_some.mpr ⟨_, hMove, exec_cons_eq_some.mpr ⟨t, hStep, rfl⟩⟩, hReturned⟩
    | returned other => exact absurd rfl (hNot other)
  · intro seen hSleeps hStuck
    cases hCell : s.shard.cell shardId with
    | none => rfl
    | some ready =>
      rw [hSound.wakes (hInv.watched.trans hCell) hSleeps] at hStuck
      cases hStuck

namespace SampleReadiness

/-- A connection goes to sleep before READY, and sleeps through the loss of one
session and into the next. -/
def steps : List ReadinessStep :=
  [.join, .look 0] ++ (SampleRelay.steps ++ SampleRelay.steps.take 6).map .shard

/-- Whether the shard has a READY, and the one waiter sleeps. -/
def outcome (s : Readiness) : Bool × Bool :=
  ((s.shard.cell 0).isSome, match s.waiters with
    | [.sleeping 0] => true
    | _ => false)

theorem sleeping_of_outcome {s : Readiness} (h : (outcome s).2 = true) :
    s.waiters = [.sleeping 0] := by
  unfold outcome at h
  dsimp only at h
  split at h
  · assumption
  · cases h

end SampleReadiness

open SampleRelay SampleReadiness in
/-- The sleeper returns the READY of the second session. -/
theorem wait_until_ready_exact_slept :
    ∃ s ready, ∃ t : Readiness,
      exec (Readiness.step config lib 0) (Readiness.new inner) SampleReadiness.steps = some s ∧
      s.shard.cell 0 = some ready ∧ s.waiters[0]? = some (.sleeping 0) ∧
      t.waiters[0]? = some (.returned ready) := by
  have hRun : (exec (Readiness.step config lib 0) (Readiness.new inner)
      SampleReadiness.steps).map SampleReadiness.outcome = some (true, true) := by
    decide +kernel
  obtain ⟨s, hRun, hSome⟩ := Option.map_eq_some_iff.mp hRun
  obtain ⟨ready, hCell⟩ := Option.isSome_iff_exists.mp (congrArg Prod.fst hSome)
  have hAt : s.waiters[0]? = some (.sleeping 0) := by
    rw [sleeping_of_outcome (congrArg Prod.snd hSome)]
    rfl
  obtain ⟨-, hReturns, -⟩ := wait_until_ready_exact config lib 0 inner ⟨0, none, ⟨[], [], []⟩⟩ rfl
    rfl _ s hRun 0 (.sleeping 0) hAt
  obtain ⟨own, -, t, -, hReturned⟩ := hReturns ready hCell (by simp)
  exact ⟨s, ready, t, hRun, hCell, hAt, hReturned⟩

end GatewayProxy
