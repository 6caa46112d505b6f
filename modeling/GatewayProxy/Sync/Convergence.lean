import GatewayProxy.Lib.Runs
import GatewayProxy.Sync.Grouping
import GatewayProxy.Sync.Notify

/-!
# The incremental sync agrees with a full reload

A client's entry depends on that client's rows alone, so a commit that leaves
its rows alone leaves its entry alone, and a commit that does not queues a
notification about it. What the loop holds (`CLIENTS`, or the rows of a query)
is therefore `Current` for a client as long as the notifications about it are
counted in, and the dirty set takes over when a notification is received.

Main results:

* `lookup_clientsOf_answer`: what a query says about each client.
* `Current.commit`: a commit that makes an entry out of date announces it.
* `Sync.converging_step`, `Sync.converges`: an entry that differs from the
  table is that of a dirty or announced client.
-/

namespace GatewayProxy

open Utf8 Assoc

-- ---------------------------------------------------------------------------
-- Entries and rows
-- ---------------------------------------------------------------------------

/-- The entry of a client is made of its own rows. -/
theorem lookup_clientsOf (rows : Table) (clientId : Str) :
    (clientsOf rows).lookup clientId =
      ((rowsOf clientId rows).map GatewayClientsRow.toSnapshotClientRow).foldl groupEntry none := by
  rw [clientsOf, lookup_groupRowsIntoClients, List.filter_map]
  rfl

theorem lookup_clientsOf_congr {rows rows' : Table} {clientId : Str}
    (h : rowsOf clientId rows = rowsOf clientId rows') :
    (clientsOf rows).lookup clientId = (clientsOf rows').lookup clientId := by
  rw [lookup_clientsOf, lookup_clientsOf, h]

/-- A query gives the table's entries for the clients it asks for, and none for
the others. -/
theorem lookup_clientsOf_answer {table rows : Table} {wanted : Str → Bool}
    (hAnswers : Sync.Answers table wanted rows) (clientId : Str) :
    (clientsOf rows).lookup clientId =
      if wanted clientId then (clientsOf table).lookup clientId else none := by
  have hRows := hAnswers clientId
  split at hRows
  · rename_i hWanted
    rw [if_pos hWanted, lookup_clientsOf_congr hRows]
  · rename_i hWanted
    rw [if_neg hWanted, lookup_clientsOf, hRows]
    rfl

/-- The refresh takes the dirty clients from the rows and keeps the others. -/
theorem lookup_refreshClients {clients : Clients} {dirtyClientIds : Finset Str} {rows : Table}
    {clientId : Str}
    (hOthers : clientId ∉ dirtyClientIds → (clientsOf rows).lookup clientId = none) :
    (refreshClients clients dirtyClientIds rows).lookup clientId =
      if clientId ∈ dirtyClientIds then (clientsOf rows).lookup clientId
      else clients.lookup clientId := by
  have hKept : (clients.lookup clientId).filter (fun _ => decide (clientId ∉ dirtyClientIds)) =
      if clientId ∈ dirtyClientIds then none else clients.lookup clientId := by
    cases clients.lookup clientId with
    | none => rw [Option.filter_none, ite_self]
    | some client => simp [Option.filter_some]
  rw [refreshClients, Map.lookup_union_eq, Map.lookup_retain, hKept]
  split
  · rw [Option.or_none]
  · rename_i hDirty
    rw [hOthers hDirty, Option.none_or]

-- ---------------------------------------------------------------------------
-- Which clients a commit is about
-- ---------------------------------------------------------------------------

theorem rowsOf_insertIdx {row : GatewayClientsRow} {clientId : Str}
    (hClient : row.clientId ≠ clientId)
    (table : Table) (position : Nat) :
    rowsOf clientId (table.insertIdx position row) = rowsOf clientId table := by
  induction table generalizing position with
  | nil =>
    cases position with
    | zero => exact List.filter_cons_of_neg (by simpa using hClient)
    | succ position => rfl
  | cons head rest ih =>
    cases position with
    | zero => exact List.filter_cons_of_neg (by simpa using hClient)
    | succ position =>
      have hRest := ih position
      unfold rowsOf at hRest ⊢
      rw [List.insertIdx_succ_cons, List.filter_cons, List.filter_cons, hRest]

theorem rowsOf_eraseIdx {table : Table} {position : Nat} {row : GatewayClientsRow} {clientId : Str}
    (hRow : table[position]? = some row) (hClient : row.clientId ≠ clientId) :
    rowsOf clientId (table.eraseIdx position) = rowsOf clientId table := by
  induction table generalizing position with
  | nil => rfl
  | cons head rest ih =>
    cases position with
    | zero =>
      obtain rfl := Option.some.inj hRow
      exact (List.filter_cons_of_neg (by simpa using hClient)).symm
    | succ position =>
      have hRest := ih hRow
      unfold rowsOf at hRest ⊢
      rw [List.eraseIdx_cons_succ, List.filter_cons, List.filter_cons, hRest]

/-- A row whose client and guild ids the notification carries unchanged. -/
structure PlainRow (row : GatewayClientsRow) : Prop where
  clientId : IsField row.clientId
  guildId : IsField row.guildId

/-- The rows of the call are plain, and an update keeps the client id. -/
def PlainCall : TriggerCall → Prop
  | .insert new => PlainRow new
  | .update old new => PlainRow old ∧ PlainRow new ∧ old.clientId = new.clientId
  | .delete old => PlainRow old

/-- Every change of the transaction makes a plain call. -/
def PlainChanges : Table → List RowChange → Prop
  | _, [] => True
  | table, change :: rest =>
    ∀ table' call, change.apply table = some (table', call) →
      PlainCall call ∧ PlainChanges table' rest

/-- Commits are plain; nothing is asked of the task's own steps. -/
def Sync.PlainCommit (s : Sync) : Sync.Action → Prop
  | .commit changes => PlainChanges s.table changes
  | _ => True

/-- Some notification makes the client dirty when it is received. -/
def Notified (notifications : List Str) (clientId : Str) : Prop :=
  ∃ notification ∈ notifications, noticeOf notification = .dirty clientId

theorem PlainCall.changed {call : TriggerCall} (hPlain : PlainCall call) :
    PlainRow call.changed := by
  cases call with
  | insert new => exact hPlain
  | update old new => exact hPlain.2.1
  | delete old => exact hPlain

/-- A plain call announces the client of its row. -/
theorem PlainCall.notice {call : TriggerCall} (hPlain : PlainCall call) :
    noticeOf call.payload = .dirty call.changed.clientId := by
  obtain ⟨hId, hGuild⟩ := hPlain.changed
  exact noticeOf_payload hId (text_of_trim hGuild.trimmed hGuild.nonempty).1

/-- A plain change leaves the rows of every other client as they are. -/
theorem PlainCall.rowsOf_eq {table table' : Table} {change : RowChange} {call : TriggerCall}
    (hPlain : PlainCall call) (hApply : change.apply table = some (table', call)) {clientId : Str}
    (hClient : call.changed.clientId ≠ clientId) :
    rowsOf clientId table' = rowsOf clientId table := by
  cases change with
  | insert row position =>
    rw [RowChange.apply] at hApply
    split at hApply
    · obtain ⟨rfl, rfl⟩ := Prod.mk.inj (Option.some.inj hApply)
      exact rowsOf_insertIdx hClient table position
    · cases hApply
  | update position row newPosition =>
    rw [RowChange.apply] at hApply
    obtain ⟨old, hOld, hApply⟩ := Option.bind_eq_some_iff.mp hApply
    split at hApply
    · obtain ⟨rfl, rfl⟩ := Prod.mk.inj (Option.some.inj hApply)
      have hNewClient : row.clientId ≠ clientId := hClient
      have hOldClient : old.clientId ≠ clientId := hPlain.2.2.symm ▸ hNewClient
      rw [rowsOf_insertIdx hNewClient, rowsOf_eraseIdx hOld hOldClient]
    · cases hApply
  | delete position =>
    rw [RowChange.apply] at hApply
    obtain ⟨old, hOld, hPair⟩ := Option.map_eq_some_iff.mp hApply
    obtain ⟨rfl, rfl⟩ := Prod.mk.inj hPair
    exact rowsOf_eraseIdx hOld hClient

/-- A transaction leaves the rows of a client as they are or announces it. -/
theorem rowsOf_applyChanges {changes : List RowChange} {table table' : Table} {payloads : List Str}
    (hPlain : PlainChanges table changes)
    (hApply : applyChanges table changes = some (table', payloads)) (clientId : Str) :
    rowsOf clientId table' = rowsOf clientId table ∨ Notified payloads clientId := by
  induction changes generalizing table payloads with
  | nil =>
    obtain ⟨rfl, -⟩ := Prod.mk.inj (Option.some.inj hApply)
    exact .inl rfl
  | cons change rest ih =>
    obtain ⟨⟨middle, call⟩, hChange, hApply⟩ := Option.bind_eq_some_iff.mp hApply
    obtain ⟨⟨final, later⟩, hRest, hPair⟩ := Option.bind_eq_some_iff.mp hApply
    obtain ⟨rfl, rfl⟩ := Prod.mk.inj (Option.some.inj hPair)
    obtain ⟨hCall, hPlainRest⟩ := hPlain middle call hChange
    by_cases hClient : call.changed.clientId = clientId
    · exact .inr ⟨call.payload, .head _, hClient ▸ hCall.notice⟩
    · rcases ih hPlainRest hRest with hSame | ⟨notification, hMem, hNotice⟩
      · exact .inl (hSame.trans (hCall.rowsOf_eq hChange hClient))
      · exact .inr ⟨notification, .tail _ hMem, hNotice⟩

-- ---------------------------------------------------------------------------
-- What the loop holds
-- ---------------------------------------------------------------------------

/-- The entry is that of the table, or a notification about its client is on
its way. -/
def Sync.Current (s : Sync) (clients : Clients) (clientId : Str) : Prop :=
  clients.lookup clientId = (clientsOf s.table).lookup clientId ∨ Notified s.notifications clientId

/-- The stages of the realtime loop, from LISTEN on. -/
def Stage.isRealtime : Stage → Bool
  | .connecting _ => false
  | .loading load => load != .poll
  | .loaded load _ => load != .poll
  | .marked load _ => load != .poll
  | _ => true

/-- The stages of the realtime loop once its initial snapshot is in `CLIENTS`. -/
def Stage.isSynced : Stage → Bool
  | .connecting _ => false
  | .loading load => load == .reconcile
  | .loaded load _ => load == .reconcile
  | .marked load _ => load == .reconcile
  | _ => true

/-- A refresh or a reconcile is in `CLIENTS` and the dirty set is about to be
cleared. -/
def Stage.isWritten : Stage → Bool
  | .flushWritten | .flushMarked | .reconcileWritten => true
  | _ => false

/-- The rows of a full snapshot that the realtime loop is about to write. -/
def Stage.snapshot : Stage → Option Table
  | .loaded load rows => if load = .poll then none else some rows
  | .marked load rows => if load = .poll then none else some rows
  | _ => none

namespace Sync

theorem Current.commit {s : Sync} {changes : List RowChange} {table : Table} {payloads : List Str}
    {clients : Clients} {clientId : Str} (hPlain : PlainChanges s.table changes)
    (hApply : applyChanges s.table changes = some (table, payloads))
    (hCurrent : s.Current clients clientId) :
    Current { s with table := table, notifications := s.notifications ++ payloads } clients
      clientId := by
  rcases hCurrent with hEntry | ⟨notification, hMem, hNotice⟩
  · rcases rowsOf_applyChanges hPlain hApply clientId with hRows | ⟨notification, hMem, hNotice⟩
    · exact .inl (hEntry.trans (lookup_clientsOf_congr hRows).symm)
    · exact .inr ⟨notification, List.mem_append_right _ hMem, hNotice⟩
  · exact .inr ⟨notification, List.mem_append_left _ hMem, hNotice⟩

/-- A full snapshot is current for every client when the query reads it. -/
theorem current_answer {s : Sync} {rows : Table} (hAnswers : Answers s.table (fun _ => true) rows)
    (clientId : Str) : s.Current (clientsOf rows) clientId :=
  .inl (lookup_clientsOf_answer hAnswers clientId)

/-- What holds of the loop at each of its stages. -/
structure Converging (s : Sync) : Prop where
  listening : s.stage.isRealtime = true → s.listening = true
  synced : s.stage.isSynced = true →
    ∀ clientId, s.Current s.clients clientId ∨ clientId ∈ s.dirtyClientIds
  snapshot : ∀ rows, s.stage.snapshot = some rows → ∀ clientId, s.Current (clientsOf rows) clientId
  flush : ∀ rows, s.stage = .flushLoaded rows → ∀ clientId,
    if clientId ∈ s.dirtyClientIds then s.Current (clientsOf rows) clientId
    else (clientsOf rows).lookup clientId = none
  written : s.stage.isWritten = true → ∀ clientId, s.Current s.clients clientId

theorem converging_new (table : Table) (configClients : Clients) :
    Converging (new table configClients) := by
  constructor <;> simp [new, Stage.isRealtime, Stage.isSynced, Stage.snapshot, Stage.isWritten]

variable {s t : Sync} {action : Action}

theorem Converging.commit (hInv : Converging s) {changes : List RowChange} {table : Table}
    {payloads : List Str} (hPlain : PlainChanges s.table changes)
    (hApply : applyChanges s.table changes = some (table, payloads)) :
    Converging { s with
      table := table
      notifications :=
        if s.listening then s.notifications ++ payloads else s.notifications } := by
  by_cases hListening : s.listening = true
  · rw [if_pos hListening]
    have hCurrent := @Current.commit s changes table payloads
    exact {
      listening := hInv.listening
      synced := fun hStage clientId =>
        (hInv.synced hStage clientId).imp (hCurrent hPlain hApply) id
      snapshot := fun rows hStage clientId =>
        hCurrent hPlain hApply (hInv.snapshot rows hStage clientId)
      flush := fun rows hStage clientId => by
        have hFlush := hInv.flush rows hStage clientId
        dsimp only
        split at hFlush
        · rename_i hDirty
          rw [if_pos hDirty]
          exact hCurrent hPlain hApply hFlush
        · rename_i hDirty
          rwa [if_neg hDirty]
      written := fun hStage clientId => hCurrent hPlain hApply (hInv.written hStage clientId) }
  · -- no stage of the realtime loop
    have hStage : s.stage.isRealtime = false := by
      simpa using mt hInv.listening hListening
    constructor <;> revert hStage <;> cases s.stage <;>
      simp_all [Stage.isRealtime, Stage.isSynced, Stage.snapshot, Stage.isWritten]

/-- A step that changes neither the table, the registry nor the dirty set, and
leaves the notifications waiting. -/
theorem Converging.move (hInv : Converging s) (stage : Stage)
    (hRealtime : stage.isRealtime = true → s.stage.isRealtime = true)
    (hSynced : stage.isSynced = true → s.stage.isSynced = true)
    (hSnapshot : stage.snapshot = none ∨ stage.snapshot = s.stage.snapshot)
    (hFlush : ∀ rows, stage ≠ .flushLoaded rows)
    (hWritten : stage.isWritten = true → s.stage.isWritten = true) (lastSuccess : Nat) :
    Converging { s with lastSuccess := lastSuccess, stage := stage } where
  listening := fun hStage => hInv.listening (hRealtime hStage)
  synced := fun hStage => hInv.synced (hSynced hStage)
  snapshot := fun rows hStage => by
    rcases hSnapshot with hNone | hSame
    · rw [hNone] at hStage
      cases hStage
    · exact hInv.snapshot rows (hSame ▸ hStage)
  flush := fun rows hStage => absurd hStage (hFlush rows)
  written := fun hStage => hInv.written (hWritten hStage)

/-- What a notification announced is in the dirty set once it is received. -/
theorem Current.receive {notification : Str} {rest : List Str} {clients : Clients} {clientId : Str}
    (hQueue : s.notifications = notification :: rest) (hCurrent : s.Current clients clientId) :
    Current { s with notifications := rest } clients clientId ∨
      noticeOf notification = .dirty clientId := by
  rcases hCurrent with hEntry | ⟨n, hMem, hNotice⟩
  · exact .inl (.inl hEntry)
  · rw [hQueue] at hMem
    rcases List.mem_cons.mp hMem with rfl | hRest
    · exact .inr hNotice
    · exact .inl (.inr ⟨n, hRest, hNotice⟩)

/-- A stage of the realtime loop that holds no rows of a query. -/
theorem converging_of_synced (hListening : t.listening = true)
    (hSynced : ∀ clientId, t.Current t.clients clientId ∨ clientId ∈ t.dirtyClientIds)
    (hSnapshot : t.stage.snapshot = none) (hFlush : ∀ rows, t.stage ≠ .flushLoaded rows)
    (hWritten : t.stage.isWritten = true → ∀ clientId, t.Current t.clients clientId) :
    Converging t where
  listening := fun _ => hListening
  synced := fun _ => hSynced
  snapshot := fun rows hStage => by
    rw [hSnapshot] at hStage
    cases hStage
  flush := fun rows hStage => absurd hStage (hFlush rows)
  written := hWritten

/-- A stage of the realtime loop right after a write, which was current. -/
theorem converging_of_written (hListening : t.listening = true)
    (hSnapshot : t.stage.snapshot = none) (hFlush : ∀ rows, t.stage ≠ .flushLoaded rows)
    (hWritten : ∀ clientId, t.Current t.clients clientId) : Converging t :=
  converging_of_synced hListening (fun clientId => .inl (hWritten clientId)) hSnapshot hFlush
    fun _ => hWritten

/-- Refreshing the dirty clients makes every client current. -/
theorem Converging.current_refreshed (hInv : Converging s) {rows : Table}
    (hStage : s.stage = .flushLoaded rows) (clientId : Str) :
    s.Current (refreshClients s.clients s.dirtyClientIds rows) clientId := by
  have hClient := hInv.flush rows hStage clientId
  have hSynced := hInv.synced (by rw [hStage]; rfl) clientId
  have hRefresh : (refreshClients s.clients s.dirtyClientIds rows).lookup clientId =
      if clientId ∈ s.dirtyClientIds then (clientsOf rows).lookup clientId
      else s.clients.lookup clientId :=
    lookup_refreshClients fun hDirty => (if_neg hDirty).mp hClient
  by_cases hDirty : clientId ∈ s.dirtyClientIds
  · rw [if_pos hDirty] at hClient hRefresh
    rw [Current, hRefresh]
    exact hClient
  · rw [if_neg hDirty] at hRefresh
    rw [Current, hRefresh]
    exact hSynced.resolve_right hDirty

/-- **Step lemma.** Every step of the task, and every plain commit, keeps the
invariant. -/
theorem converging_step (hInv : Converging s) (hPlain : PlainCommit s action)
    (hStep : s.step action = some t) : Converging t := by
  cases steps_of_step hStep with
  | commit hChanges => exact hInv.commit hPlain hChanges
  | listen hStage =>
    constructor <;> simp [Stage.isSynced, Stage.snapshot, Stage.isWritten]
  | startPoll hStage =>
    constructor <;> simp [Stage.isRealtime, Stage.isSynced, Stage.snapshot, Stage.isWritten]
  | fail hStage =>
    constructor <;>
      simp [failed, Stage.isRealtime, Stage.isSynced, Stage.snapshot, Stage.isWritten]
  | @load load rows hStage hAnswers =>
    exact {
      listening := fun h => hInv.listening (by rw [hStage]; exact h)
      synced := fun h => hInv.synced (by rw [hStage]; exact h)
      snapshot := fun rows' h clientId => by
        rw [Stage.snapshot] at h
        split at h
        · cases h
        · exact Option.some.inj h ▸ current_answer hAnswers clientId
      flush := fun rows' h => by cases h
      written := fun h => by cases h }
  | @loadFlush rows hStage hAnswers =>
    exact {
      listening := fun _ => hInv.listening (by rw [hStage]; rfl)
      synced := fun _ => hInv.synced (by rw [hStage]; rfl)
      snapshot := fun rows' h => by cases h
      flush := fun rows' h clientId => by
        obtain rfl := Stage.flushLoaded.inj h
        have hEntry := lookup_clientsOf_answer hAnswers clientId
        dsimp only
        split
        · rename_i hDirty
          rw [if_pos (decide_eq_true hDirty)] at hEntry
          exact .inl hEntry
        · rename_i hDirty
          rwa [if_neg (by simpa using hDirty)] at hEntry
      written := fun h => by cases h }
  | check hStage =>
    exact hInv.move .checked (by simp [hStage, Stage.isRealtime]) (by simp [hStage, Stage.isSynced])
      (.inl rfl) (by simp) (by simp [Stage.isWritten]) s.lastSuccess
  | @markLoad now load rows hStage =>
    exact hInv.move (.marked load rows) (by simp [hStage, Stage.isRealtime])
      (by simp [hStage, Stage.isSynced]) (.inr (by rw [hStage]; rfl)) (by simp)
      (by simp [Stage.isWritten]) _
  | markFlush hStage =>
    exact hInv.move .flushMarked (by simp [hStage, Stage.isRealtime])
      (by simp [hStage, Stage.isSynced]) (.inl rfl) (by simp) (by simp [hStage, Stage.isWritten]) _
  | markCheck hStage =>
    exact hInv.move .idle (by simp [hStage, Stage.isRealtime]) (by simp [hStage, Stage.isSynced])
      (.inl rfl) (by simp) (by simp [Stage.isWritten]) _
  | @writeInitial rows hStage =>
    have hWritten := hInv.snapshot rows (by rw [hStage]; rfl)
    exact converging_of_written (hInv.listening (by rw [hStage]; rfl)) rfl (by simp) hWritten
  | @writeReconcile rows hStage =>
    have hWritten := hInv.snapshot rows (by rw [hStage]; rfl)
    exact converging_of_written (hInv.listening (by rw [hStage]; rfl)) rfl (by simp) hWritten
  | writePoll hStage =>
    constructor <;> simp [Stage.isRealtime, Stage.isSynced, Stage.snapshot, Stage.isWritten]
  | @writeFlush rows hStage =>
    have hWritten := hInv.current_refreshed hStage
    exact converging_of_written (hInv.listening (by rw [hStage]; rfl)) rfl (by simp) hWritten
  | clear hStage =>
    have hRealtime : s.stage.isRealtime = true := by
      rcases hStage with hStage | hStage <;> rw [hStage] <;> rfl
    have hWritten := hInv.written (by rcases hStage with hStage | hStage <;> rw [hStage] <;> rfl)
    exact converging_of_written (hInv.listening hRealtime) rfl (by simp) hWritten
  | @receiveFull notification rest hStage hQueue hNotice =>
    have hSynced := hInv.synced (by rw [hStage]; rfl)
    refine converging_of_synced (hInv.listening (by rw [hStage]; rfl)) (fun clientId => ?_) rfl
      (by simp) (by simp [Stage.isWritten])
    refine (hSynced clientId).imp_left fun hCurrent => ?_
    rcases hCurrent.receive hQueue with hKept | hDirty
    · exact hKept
    · rw [hNotice] at hDirty
      cases hDirty
  | @receiveDirty notification changed rest hStage hQueue hNotice =>
    have hSynced := hInv.synced (by rw [hStage]; rfl)
    refine converging_of_synced (hInv.listening (by rw [hStage]; rfl)) (fun clientId => ?_)
      (by simp [hStage, Stage.snapshot]) (by simp [hStage]) (by simp [hStage, Stage.isWritten])
    rcases hSynced clientId with hCurrent | hDirty
    · rcases hCurrent.receive hQueue with hKept | hDirty
      · exact .inl hKept
      · obtain rfl : changed = clientId := Notice.dirty.inj (hNotice.symm.trans hDirty)
        exact .inr (Finset.mem_insert_self _ _)
    · exact .inr (Finset.mem_insert_of_mem hDirty)
  | flushNothing hStage => exact hInv
  | flush hStage =>
    exact hInv.move .flushing (by simp [hStage, Stage.isRealtime])
      (by simp [hStage, Stage.isSynced]) (.inl rfl) (by simp) (by simp [Stage.isWritten])
      s.lastSuccess
  | reconcile hStage =>
    exact hInv.move (.loading .reconcile) (by simp [hStage, Stage.isRealtime])
      (by simp [hStage, Stage.isSynced]) (.inl rfl) (by simp) (by simp [Stage.isWritten])
      s.lastSuccess
  | startCheck hStage =>
    exact hInv.move .checking (by simp [hStage, Stage.isRealtime])
      (by simp [hStage, Stage.isSynced]) (.inl rfl) (by simp) (by simp [Stage.isWritten])
      s.lastSuccess

/-- **The registry converges.** In every state that the sync reaches under plain
commits, with its first snapshot in `CLIENTS`, and for whatever a full reload
would return there: an entry that differs from the reload is that of a dirty
client or of one in a notification not yet received. With neither left the
registry is the reload, and a flush gives the reload's entry to every client
without a waiting notification. -/
theorem converges {table : Table} {configClients : Clients} {actions : List Action}
    (hRun : Runs.exec step (new table configClients) actions = some s)
    (hPlain : Runs.Meets step PlainCommit (new table configClients) actions)
    (hSynced : s.stage.isSynced = true) {snapshot : Table}
    (hSnapshot : Answers s.table (fun _ => true) snapshot) :
    (∀ clientId, s.clients.lookup clientId ≠ (clientsOf snapshot).lookup clientId →
      clientId ∈ s.dirtyClientIds ∨ Notified s.notifications clientId) ∧
    (s.dirtyClientIds = ∅ → s.notifications = [] →
      ∀ clientId, s.clients.lookup clientId = (clientsOf snapshot).lookup clientId) ∧
    ∀ rows, Answers s.table (· ∈ s.dirtyClientIds) rows →
      ∀ clientId, ¬ Notified s.notifications clientId →
        (refreshClients s.clients s.dirtyClientIds rows).lookup clientId =
          (clientsOf snapshot).lookup clientId := by
  have hInv : Converging s :=
    Runs.exec_invariant_of_meets (P := Converging) (C := PlainCommit)
      (fun _ _ _ hInv hPlain hStep => converging_step hInv hPlain hStep)
      (converging_new table configClients) hPlain hRun
  have hReload : ∀ clientId,
      (clientsOf snapshot).lookup clientId = (clientsOf s.table).lookup clientId :=
    fun clientId => lookup_clientsOf_answer hSnapshot clientId
  have hDiffers : ∀ clientId, s.clients.lookup clientId ≠ (clientsOf snapshot).lookup clientId →
      clientId ∈ s.dirtyClientIds ∨ Notified s.notifications clientId := by
    intro clientId hNe
    rcases hInv.synced hSynced clientId with (hEntry | hNotified) | hDirty
    · exact absurd (hEntry.trans (hReload clientId).symm) hNe
    · exact .inr hNotified
    · exact .inl hDirty
  refine ⟨hDiffers, fun hClean hQuiet clientId => ?_, fun rows hAnswers clientId hQuiet => ?_⟩
  · by_contra hNe
    rcases hDiffers clientId hNe with hDirty | ⟨notification, hMem, -⟩
    · rw [hClean] at hDirty
      exact absurd hDirty (Finset.notMem_empty _)
    · rw [hQuiet] at hMem
      cases hMem
  · have hEntry := lookup_clientsOf_answer hAnswers clientId
    rw [lookup_refreshClients fun hDirty => hEntry.trans (if_neg (by simpa using hDirty))]
    split
    · rename_i hDirty
      rw [hEntry, if_pos (decide_eq_true hDirty), hReload]
    · rename_i hDirty
      by_contra hNe
      rcases hDiffers clientId hNe with hMem | hNotified
      · exact hDirty hMem
      · exact hQuiet hNotified

open SampleRows in
/-- Client `a` is added while the loop waits, and after its notification is
received its entry is the only one out of date. -/
theorem converges_inserted :
    ∃ s, Runs.exec step (new [] ∅)
        [.connect, .answer [], .markSuccess (some 1), .writeClients,
          .commit [.insert (row "a" "7") 0], .receive] = some s ∧
      ∀ clientId, s.clients.lookup clientId ≠ (clientsOf [row "a" "7"]).lookup clientId →
        clientId ∈ s.dirtyClientIds ∨ Notified s.notifications clientId := by
  have hPlain : PlainChanges [] [.insert (row "a" "7") 0] := by
    intro table' call hApply
    obtain ⟨rfl, rfl⟩ := Prod.mk.inj (Option.some.inj hApply)
    exact ⟨⟨isField_a, by decide, by decide, by decide⟩, trivial⟩
  have hMeets : Runs.Meets step PlainCommit (new [] ∅)
      [.connect, .answer [], .markSuccess (some 1), .writeClients,
        .commit [.insert (row "a" "7") 0], .receive] := by
    refine (Runs.meets_cons rfl).mpr ⟨trivial, ?_⟩
    refine (Runs.meets_cons rfl).mpr ⟨trivial, ?_⟩
    refine (Runs.meets_cons rfl).mpr ⟨trivial, ?_⟩
    refine (Runs.meets_cons rfl).mpr ⟨trivial, ?_⟩
    refine (Runs.meets_cons rfl).mpr ⟨hPlain, ?_⟩
    exact (Runs.meets_cons rfl).mpr ⟨trivial, trivial⟩
  exact ⟨_, rfl, (converges rfl hMeets rfl (fun _ => rfl)).1⟩

end Sync

end GatewayProxy
