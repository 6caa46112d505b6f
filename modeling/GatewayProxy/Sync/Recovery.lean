import GatewayProxy.Lib.Progress
import GatewayProxy.Sync.Provenance

/-!
# The sync task recovers

Whatever happened before, a few steps of the task that go well bring the whole
registry to the current table.

Main results:

* `rank_step`: from every stage such a step comes closer to a full load.
* `Dated.catches_up`: at most eight of them make every entry one of the current
  table.
-/

namespace GatewayProxy

open Utf8 Assoc Runs

/-- A step of the task that goes well. -/
def Sync.Action.isOwn : Sync.Action → Bool
  | .commit _ | .fail => false
  | _ => true

/-- How many steps that go well lie before the query of a full load. -/
def Stage.rank : Stage → Nat
  | .loading _ => 0
  | .connecting _ | .idle | .marked .poll _ => 1
  | .marked .initial _ | .loaded .poll _ | .flushMarked | .reconcileWritten | .checked => 2
  | .marked .reconcile _ | .loaded .initial _ | .flushWritten | .checking => 3
  | .loaded .reconcile _ | .flushLoaded _ => 4
  | .flushing => 5

theorem Stage.rank_le (stage : Stage) : stage.rank ≤ 5 := by
  cases stage with
  | loaded load _ | marked load _ => cases load <;> simp [Stage.rank]
  | _ => simp [Stage.rank]

theorem Stage.rank_eq_zero {stage : Stage} (h : stage.rank = 0) :
    ∃ load, stage = .loading load := by
  cases stage with
  | loading load => exact ⟨load, rfl⟩
  | loaded load _ | marked load _ => cases load <;> cases h
  | _ => cases h

/-- The rows of the wanted clients, in the order of the table. -/
theorem answers_filter (table : Table) (wanted : Str → Bool) :
    Sync.Answers table wanted (table.filter fun row => wanted row.clientId) := by
  intro clientId
  unfold rowsOf
  rw [List.filter_filter]
  split
  · rename_i hWanted
    refine List.filter_congr fun row _ => ?_
    by_cases hClient : row.clientId = clientId
    · simp [hClient, hWanted]
    · simp [hClient]
  · rename_i hUnwanted
    refine List.filter_eq_nil_iff.mpr fun row _ hBoth => ?_
    obtain ⟨hClient, hWanted⟩ := (Bool.and_eq_true_iff.mp hBoth)
    exact hUnwanted (of_decide_eq_true hClient ▸ hWanted)

/-- **Step lemma.** From every stage but a full load, a step that goes well comes
closer to one. -/
theorem rank_step (s : Sync) (hRank : s.stage.rank ≠ 0) :
    ∃ action t, action.isOwn = true ∧ s.step action = some t ∧ t.stage.rank < s.stage.rank := by
  obtain ⟨table, listening, notifications, lastSuccess, clients, ready, dirty, stage⟩ := s
  cases stage with
  | connecting realtime =>
    cases realtime with
    | true => exact ⟨.connect, _, rfl, rfl, Nat.lt_succ_self 0⟩
    | false => exact ⟨.connect, _, rfl, rfl, Nat.lt_succ_self 0⟩
  | loading load => exact absurd rfl hRank
  | loaded load rows =>
    cases load with
    | initial => exact ⟨.markSuccess none, _, rfl, rfl, Nat.lt_succ_self 2⟩
    | reconcile => exact ⟨.markSuccess none, _, rfl, rfl, Nat.lt_succ_self 3⟩
    | poll => exact ⟨.markSuccess none, _, rfl, rfl, Nat.lt_succ_self 1⟩
  | marked load rows =>
    cases load with
    | initial => exact ⟨.writeClients, _, rfl, rfl, Nat.lt_succ_self 1⟩
    | reconcile => exact ⟨.writeClients, _, rfl, rfl, Nat.lt_succ_self 2⟩
    | poll => exact ⟨.writeClients, _, rfl, rfl, Nat.lt_succ_self 0⟩
  | idle => exact ⟨.fullReconcileTick, _, rfl, rfl, Nat.lt_succ_self 0⟩
  | flushing =>
    -- the query may return the rows in the order of the table
    refine ⟨.answer (table.filter fun row => decide (row.clientId ∈ dirty)), _, rfl,
      if_pos (answers_filter table fun clientId => decide (clientId ∈ dirty)), ?_⟩
    exact Nat.lt_succ_self 4
  | flushLoaded rows => exact ⟨.writeClients, _, rfl, rfl, Nat.lt_succ_self 3⟩
  | flushWritten => exact ⟨.markSuccess none, _, rfl, rfl, Nat.lt_succ_self 2⟩
  | flushMarked => exact ⟨.clearDirty, _, rfl, rfl, Nat.lt_succ_self 1⟩
  | reconcileWritten => exact ⟨.clearDirty, _, rfl, rfl, Nat.lt_succ_self 1⟩
  | checking => exact ⟨.answer [], _, rfl, rfl, Nat.lt_succ_self 2⟩
  | checked => exact ⟨.markSuccess none, _, rfl, rfl, Nat.lt_succ_self 1⟩

namespace Dated

variable {d : Dated}

/-- A step that goes well commits nothing. -/
theorem own_step {action : Sync.Action} {sync : Sync} (hOwn : action.isOwn = true)
    (hStep : d.sync.step action = some sync) :
    ∃ e, d.step action = some e ∧ e.sync = sync ∧ e.tables = d.tables := by
  rw [step, hStep, Option.map_some]
  cases action with
  | commit changes => cases hOwn
  | _ => exact ⟨_, rfl, rfl, rfl⟩

/-- Up to the query of a full load. -/
theorem leadsTo_loading (d : Dated) :
    LeadsTo step (fun action => action.isOwn = true)
      (fun e => e.tables = d.tables ∧ ∃ load, e.sync.stage = .loading load) 5 d := by
  have hRank : LeadsTo step (fun action : Sync.Action => action.isOwn = true)
      (fun e => e.tables = d.tables ∧ e.sync.stage.rank = 0) d.sync.stage.rank d := by
    refine leadsTo_of_rank (fun e : Dated => e.sync.stage.rank) ?_ rfl
    intro s hTables hNot
    obtain ⟨action, sync, hOwn, hSync, hLower⟩ := rank_step s.sync hNot
    obtain ⟨t, hStep, rfl, hSame⟩ := own_step hOwn hSync
    exact ⟨action, t, hOwn, hStep, hSame.trans hTables, hLower⟩
  obtain ⟨actions, e, hLength, hOwn, hRun, hTables, hZero⟩ := hRank
  exact ⟨actions, e, hLength.trans d.sync.stage.rank_le, hOwn, hRun, hTables,
    Stage.rank_eq_zero hZero⟩

/-- A full load replaces every entry. -/
theorem leadsTo_loaded {load : Load} (hStage : d.sync.stage = .loading load) :
    LeadsTo step (fun action => action.isOwn = true)
      (fun e => e.tables = d.tables ∧ ∀ clientId, e.asOf clientId = some (d.tables.length - 1))
      3 d := by
  have hAnswers : Sync.Answers d.sync.table (fun _ => true) d.sync.table :=
    fun clientId => (if_pos rfl).symm
  have hAnswer : d.step (.answer d.sync.table) = some { d with
      sync := { d.sync with stage := .loaded load d.sync.table }
      read := d.tables.length - 1 } := by
    rw [step, Sync.step, hStage]
    dsimp only
    rw [if_pos hAnswers, Option.map_some]
  refine LeadsTo.head hAnswer rfl (LeadsTo.head (a := .markSuccess none) rfl rfl ?_)
  cases load with
  | initial => exact LeadsTo.head (a := .writeClients) rfl rfl (.here ⟨rfl, fun _ => rfl⟩)
  | reconcile => exact LeadsTo.head (a := .writeClients) rfl rfl (.here ⟨rfl, fun _ => rfl⟩)
  | poll => exact LeadsTo.head (a := .writeClients) rfl rfl (.here ⟨rfl, fun _ => rfl⟩)

/-- **The task catches up.** In whatever stage it is, eight steps that go well are
enough to make every entry one of the current table. -/
theorem catches_up (d : Dated) :
    LeadsTo step (fun action => action.isOwn = true)
      (fun e => e.tables = d.tables ∧ ∀ clientId, e.asOf clientId = some (d.tables.length - 1))
      8 d := by
  refine LeadsTo.trans (m := 5) (n := 3) (leadsTo_loading d) ?_
  rintro s ⟨hTables, load, hStage⟩
  rw [← hTables]
  exact leadsTo_loaded hStage

end Dated

end GatewayProxy
