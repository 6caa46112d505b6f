import GatewayProxy.Source.Registry

/-!
# Keeping the registry in step with the database

The rest of `db_config.rs`: the rows of `gateway_clients` and their grouping,
the trigger that announces each change, the decoding of what it sends, and the
sync task. The task is one state machine (`Sync`) over both loops: a stage for
each place where the task waits or where another task can read between two of
its writes, and an action for each step from one to the next. The database
answers a query with the rows of one moment, and commits come at any point.

A table is kept in the order in which a query returns the rows of a client:
`updated_at` and `created_at` only decide where a written row lands. How the
rows of different clients are interleaved is left to the answer.
-/

namespace GatewayProxy

open Utf8 Assoc

-- ---------------------------------------------------------------------------
-- Rows and their grouping
-- ---------------------------------------------------------------------------

structure SnapshotClientRow where
  clientId : Str
  secret : Str
  guildId : Str
  reachableUrl : Option Str
  nextWakeAt : Option Nat
  deriving DecidableEq

/-- A row of `gateway_clients`; no query returns its last two columns. -/
structure GatewayClientsRow extends SnapshotClientRow where
  updatedAt : Option Nat
  createdAt : Option Nat
  deriving DecidableEq

abbrev Table := List GatewayClientsRow

/-- The rows of a client, in the order a query returns them. -/
def rowsOf (clientId : Str) (rows : Table) : Table := rows.filter fun row => row.clientId = clientId

def earliestWake : Option Nat → Option Nat → Option Nat
  | none, other => other
  | other, none => other
  | some left, some right => some (min left right)

/-- `and_modify`: a row of a client that has an entry. -/
def mergeRow (client : ClientConfig) (row : SnapshotClientRow) (guildId : Nat) : ClientConfig :=
  if client.secret ≠ row.secret then client
  else
    { client with
      guilds := insert guildId client.guilds
      reachableUrl :=
        if client.reachableUrl.isNone ∧ row.reachableUrl.isSome then row.reachableUrl
        else client.reachableUrl
      nextWakeAt := earliestWake client.nextWakeAt row.nextWakeAt }

/-- `or_insert_with`: the first row of a client. -/
def firstRow (row : SnapshotClientRow) (guildId : Nat) : ClientConfig :=
  ⟨row.secret, {guildId}, row.reachableUrl, row.nextWakeAt⟩

def groupRow (clients : Clients) (row : SnapshotClientRow) : Clients :=
  match parseU64 row.guildId with
  -- an invalid guild id is skipped
  | none => clients
  | some guildId =>
    match clients.lookup row.clientId with
    | some client => clients.insert row.clientId (mergeRow client row guildId)
    | none => clients.insert row.clientId (firstRow row guildId)

def groupRowsIntoClients (rows : List SnapshotClientRow) : Clients := rows.foldl groupRow ∅

/-- The registry that a query's rows stand for. -/
def clientsOf (rows : Table) : Clients :=
  groupRowsIntoClients (rows.map GatewayClientsRow.toSnapshotClientRow)

/-- What `refresh_clients_by_ids` does to the registry: the dirty clients go,
and come back as their rows have them. -/
def refreshClients (clients : Clients) (dirtyClientIds : Finset Str) (rows : Table) : Clients :=
  clientsOf rows ∪ clients.retain fun clientId _ => clientId ∉ dirtyClientIds

-- ---------------------------------------------------------------------------
-- The trigger
-- ---------------------------------------------------------------------------

/-- A call of `notify_gateway_clients_change`, with `OLD` and `NEW`. -/
inductive TriggerCall
  | insert (new : GatewayClientsRow)
  | update (old new : GatewayClientsRow)
  | delete (old : GatewayClientsRow)

namespace TriggerCall

/-- `TG_OP`. -/
def tgOp : TriggerCall → Str
  | insert _ => "INSERT".toList
  | update _ _ => "UPDATE".toList
  | delete _ => "DELETE".toList

def old : TriggerCall → Option GatewayClientsRow
  | insert _ => none
  | update old _ => some old
  | delete old => some old

def new : TriggerCall → Option GatewayClientsRow
  | insert new => some new
  | update _ new => some new
  | delete _ => none

/-- The row that the payload is about: `OLD` for a delete, else `NEW`. -/
def changed : TriggerCall → GatewayClientsRow
  | insert new => new
  | update _ new => new
  | delete old => old

/-- `format('%s\t%s\t%s', ...)`. -/
def payload (call : TriggerCall) : Str :=
  call.tgOp ++ '\t' :: (call.changed.clientId ++ '\t' :: call.changed.guildId)

end TriggerCall

/-- One row change of a statement. A position is that of the row in the table;
an update may move the row. -/
inductive RowChange
  | insert (row : GatewayClientsRow) (position : Nat)
  | update (position : Nat) (row : GatewayClientsRow) (newPosition : Nat)
  | delete (position : Nat)

/-- The table after the change, and the call of the trigger. -/
def RowChange.apply (table : Table) : RowChange → Option (Table × TriggerCall)
  | insert row position =>
    if position ≤ table.length then some (table.insertIdx position row, .insert row) else none
  | update position row newPosition =>
    (table[position]?).bind fun old =>
      if newPosition < table.length then
        some ((table.eraseIdx position).insertIdx newPosition row, .update old row)
      else none
  | delete position =>
    (table[position]?).map fun old => (table.eraseIdx position, .delete old)

/-- A transaction: its changes in order, and the payloads it queues. -/
def applyChanges : Table → List RowChange → Option (Table × List Str)
  | table, [] => some (table, [])
  | table, change :: rest => do
    let (table, call) ← change.apply table
    let (table, payloads) ← applyChanges table rest
    return (table, call.payload :: payloads)

-- ---------------------------------------------------------------------------
-- Decoding a notification
-- ---------------------------------------------------------------------------

inductive GatewayClientsChangeOperation
  | insert
  | update
  | delete
  | unknown
  deriving DecidableEq

def GatewayClientsChangeOperation.fromTgOp (raw : Str) : GatewayClientsChangeOperation :=
  if raw = "INSERT".toList then .insert
  else if raw = "UPDATE".toList then .update
  else if raw = "DELETE".toList then .delete
  else .unknown

structure GatewayClientsChangeEvent where
  operation : GatewayClientsChangeOperation
  clientId : Str
  guildId : Option Str
  deriving DecidableEq

def parseGatewayClientsChangePayload (payload : Str) : GatewayClientsChangeEvent :=
  match splitN '\t' 3 payload with
  | [operation, clientId, guildId] =>
    ⟨.fromTgOp operation, clientId, if guildId = [] then none else some guildId⟩
  -- an old trigger sent the client id only
  | _ => ⟨.unknown, payload, none⟩

/-- What the loop does about a notification. -/
inductive Notice
  | fullReconcile
  | dirty (clientId : Str)
  deriving DecidableEq

/-- The listener trims the payload, and the loop decodes it. -/
def noticeOf (notification : Str) : Notice :=
  let payload := trim notification
  if payload = [] then .fullReconcile
  else
    let changeEvent := parseGatewayClientsChangePayload payload
    if changeEvent.clientId = [] then .fullReconcile else .dirty changeEvent.clientId

-- ---------------------------------------------------------------------------
-- The sync task
-- ---------------------------------------------------------------------------

/-- Where a full snapshot is loaded. -/
inductive Load
  | initial
  | reconcile
  | poll
  deriving DecidableEq

inductive Stage
  /-- `start_polling` is about to connect, for LISTEN/NOTIFY or for polling -/
  | connecting (realtime : Bool)
  /-- `load_clients_snapshot` is running -/
  | loading (load : Load)
  /-- it returned these rows -/
  | loaded (load : Load) (rows : Table)
  /-- and `mark_sync_success` was called -/
  | marked (load : Load) (rows : Table)
  /-- in the `select!` of the realtime loop -/
  | idle
  /-- the query of `refresh_clients_by_ids` is running -/
  | flushing
  | flushLoaded (rows : Table)
  /-- the dirty clients are refreshed in `CLIENTS` -/
  | flushWritten
  | flushMarked
  /-- a full reconcile is in `CLIENTS`, `dirty_client_ids` not yet cleared -/
  | reconcileWritten
  /-- the health check `SELECT 1` is running -/
  | checking
  | checked
  deriving DecidableEq

structure Sync where
  table : Table
  /-- LISTEN is committed and its connection is open -/
  listening : Bool
  /-- sent to the listener and not yet received by the loop -/
  notifications : List Str
  /-- `LAST_SUCCESSFUL_SYNC_UNIX_SECS` -/
  lastSuccess : Nat
  clients : Clients
  /-- `signal_initial_sync_ready` was called -/
  initialSyncReady : Bool
  dirtyClientIds : Finset Str
  stage : Stage

namespace Sync

/-- The proxy starts with the clients of `config.json`. -/
def new (table : Table) (configClients : Clients) : Sync where
  table := table
  listening := false
  notifications := []
  lastSuccess := 0
  clients := configClients
  initialSyncReady := false
  dirtyClientIds := ∅
  stage := .connecting true

/-- The rows that a query for the wanted clients may return: of each client
its own rows, in their order. -/
def Answers (table : Table) (wanted : Str → Bool) (rows : Table) : Prop :=
  ∀ clientId, rowsOf clientId rows = if wanted clientId then rowsOf clientId table else []

instance (table : Table) (wanted : Str → Bool) (rows : Table) :
    Decidable (Answers table wanted rows) :=
  decidable_of_iff
    (∀ clientId ∈ (rows ++ table).map fun row : GatewayClientsRow => row.clientId,
      rowsOf clientId rows = if wanted clientId then rowsOf clientId table else []) <| by
    constructor
    · intro h clientId
      by_cases hMem : clientId ∈ (rows ++ table).map fun row : GatewayClientsRow => row.clientId
      · exact h clientId hMem
      · have hNone : ∀ part : Table, (∀ row ∈ part, row ∈ rows ++ table) →
            rowsOf clientId part = [] := by
          intro part hPart
          refine List.filter_eq_nil_iff.mpr fun row hRow hClient => hMem ?_
          exact List.mem_map.mpr ⟨row, hPart row hRow, of_decide_eq_true hClient⟩
        rw [hNone rows fun row hRow => List.mem_append_left _ hRow,
          hNone table fun row hRow => List.mem_append_right _ hRow, ite_self]
    · exact fun h clientId _ => h clientId

inductive Action
  /-- another session commits a transaction -/
  | commit (changes : List RowChange)
  /-- connects; in realtime mode also installs the trigger and listens -/
  | connect
  /-- a database call, or the listener connection, fails -/
  | fail
  /-- the running query reads the table -/
  | answer (rows : Table)
  /-- `mark_sync_success`, with the clock -/
  | markSuccess (now : Option Nat)
  | writeClients
  | clearDirty
  | receive
  | dirtyFlushTick
  | fullReconcileTick
  | healthCheckTick

/-- A failing loop returns, which drops its connections and its locals. -/
def failed (s : Sync) (realtime : Bool) : Sync :=
  { s with listening := false, notifications := [], dirtyClientIds := ∅
           stage := .connecting !realtime }

def step (s : Sync) : Action → Option Sync
  | .commit changes =>
    (applyChanges s.table changes).map fun p =>
      { s with table := p.1
               notifications := if s.listening then s.notifications ++ p.2 else s.notifications }
  | .connect =>
    match s.stage with
    -- LISTEN is committed before the initial snapshot is queried
    | .connecting true => some { s with listening := true, stage := .loading .initial }
    | .connecting false => some { s with stage := .loading .poll }
    | _ => none
  | .fail =>
    match s.stage with
    | .connecting realtime => some (s.failed realtime)
    | .loading .poll => some (s.failed false)
    | .loading _ | .idle | .flushing | .checking => some (s.failed true)
    | _ => none
  | .answer rows =>
    match s.stage with
    | .loading load =>
      if Answers s.table (fun _ => true) rows then some { s with stage := .loaded load rows }
      else none
    | .flushing =>
      if Answers s.table (· ∈ s.dirtyClientIds) rows then some { s with stage := .flushLoaded rows }
      else none
    | .checking => some { s with stage := .checked }
    | _ => none
  | .markSuccess now =>
    let marked := { s with lastSuccess := now.getD s.lastSuccess }
    match s.stage with
    | .loaded load rows => some { marked with stage := .marked load rows }
    | .flushWritten => some { marked with stage := .flushMarked }
    | .checked => some { marked with stage := .idle }
    | _ => none
  | .writeClients =>
    match s.stage with
    | .marked .initial rows =>
      some { s with clients := clientsOf rows, initialSyncReady := true, stage := .idle }
    | .marked .reconcile rows =>
      some { s with clients := clientsOf rows, stage := .reconcileWritten }
    | .marked .poll rows =>
      some { s with clients := clientsOf rows, initialSyncReady := true, stage := .loading .poll }
    | .flushLoaded rows =>
      some { s with clients := refreshClients s.clients s.dirtyClientIds rows
                    stage := .flushWritten }
    | _ => none
  | .clearDirty =>
    match s.stage with
    | .flushMarked | .reconcileWritten => some { s with dirtyClientIds := ∅, stage := .idle }
    | _ => none
  | .receive =>
    match s.stage, s.notifications with
    | .idle, notification :: rest =>
      match noticeOf notification with
      | .fullReconcile => some { s with notifications := rest, stage := .loading .reconcile }
      | .dirty clientId =>
        some { s with notifications := rest, dirtyClientIds := insert clientId s.dirtyClientIds }
    | _, _ => none
  | .dirtyFlushTick =>
    match s.stage with
    | .idle => some (if s.dirtyClientIds = ∅ then s else { s with stage := .flushing })
    | _ => none
  | .fullReconcileTick =>
    match s.stage with
    | .idle => some { s with stage := .loading .reconcile }
    | _ => none
  | .healthCheckTick =>
    match s.stage with
    | .idle => some { s with stage := .checking }
    | _ => none

-- ---------------------------------------------------------------------------
-- What a step can do
-- ---------------------------------------------------------------------------

/-- The steps by the stage they start in. -/
inductive Steps (s : Sync) : Action → Sync → Prop
  | commit {changes : List RowChange} {table : Table} {payloads : List Str}
      (hChanges : applyChanges s.table changes = some (table, payloads)) :
      Steps s (.commit changes)
        { s with table := table
                 notifications :=
                   if s.listening then s.notifications ++ payloads else s.notifications }
  | listen (hStage : s.stage = .connecting true) :
      Steps s .connect { s with listening := true, stage := .loading .initial }
  | startPoll (hStage : s.stage = .connecting false) :
      Steps s .connect { s with stage := .loading .poll }
  | fail {realtime : Bool}
      (hStage : s.stage = .connecting realtime ∨ (∃ load, s.stage = .loading load) ∨
        s.stage = .idle ∨ s.stage = .flushing ∨ s.stage = .checking) :
      Steps s .fail (s.failed realtime)
  | load {load : Load} {rows : Table} (hStage : s.stage = .loading load)
      (hAnswers : Answers s.table (fun _ => true) rows) :
      Steps s (.answer rows) { s with stage := .loaded load rows }
  | loadFlush {rows : Table} (hStage : s.stage = .flushing)
      (hAnswers : Answers s.table (· ∈ s.dirtyClientIds) rows) :
      Steps s (.answer rows) { s with stage := .flushLoaded rows }
  | check {rows : Table} (hStage : s.stage = .checking) :
      Steps s (.answer rows) { s with stage := .checked }
  | markLoad {now : Option Nat} {load : Load} {rows : Table}
      (hStage : s.stage = .loaded load rows) :
      Steps s (.markSuccess now)
        { s with lastSuccess := now.getD s.lastSuccess, stage := .marked load rows }
  | markFlush {now : Option Nat} (hStage : s.stage = .flushWritten) :
      Steps s (.markSuccess now)
        { s with lastSuccess := now.getD s.lastSuccess, stage := .flushMarked }
  | markCheck {now : Option Nat} (hStage : s.stage = .checked) :
      Steps s (.markSuccess now) { s with lastSuccess := now.getD s.lastSuccess, stage := .idle }
  | writeInitial {rows : Table} (hStage : s.stage = .marked .initial rows) :
      Steps s .writeClients
        { s with clients := clientsOf rows, initialSyncReady := true, stage := .idle }
  | writeReconcile {rows : Table} (hStage : s.stage = .marked .reconcile rows) :
      Steps s .writeClients { s with clients := clientsOf rows, stage := .reconcileWritten }
  | writePoll {rows : Table} (hStage : s.stage = .marked .poll rows) :
      Steps s .writeClients
        { s with clients := clientsOf rows, initialSyncReady := true, stage := .loading .poll }
  | writeFlush {rows : Table} (hStage : s.stage = .flushLoaded rows) :
      Steps s .writeClients
        { s with clients := refreshClients s.clients s.dirtyClientIds rows
                 stage := .flushWritten }
  | clear (hStage : s.stage = .flushMarked ∨ s.stage = .reconcileWritten) :
      Steps s .clearDirty { s with dirtyClientIds := ∅, stage := .idle }
  | receiveFull {notification : Str} {rest : List Str} (hStage : s.stage = .idle)
      (hQueue : s.notifications = notification :: rest)
      (hNotice : noticeOf notification = .fullReconcile) :
      Steps s .receive { s with notifications := rest, stage := .loading .reconcile }
  | receiveDirty {notification clientId : Str} {rest : List Str} (hStage : s.stage = .idle)
      (hQueue : s.notifications = notification :: rest)
      (hNotice : noticeOf notification = .dirty clientId) :
      Steps s .receive
        { s with notifications := rest, dirtyClientIds := insert clientId s.dirtyClientIds }
  | flushNothing (hStage : s.stage = .idle) : Steps s .dirtyFlushTick s
  | flush (hStage : s.stage = .idle) : Steps s .dirtyFlushTick { s with stage := .flushing }
  | reconcile (hStage : s.stage = .idle) :
      Steps s .fullReconcileTick { s with stage := .loading .reconcile }
  | startCheck (hStage : s.stage = .idle) :
      Steps s .healthCheckTick { s with stage := .checking }

theorem steps_of_step {s t : Sync} {action : Action} (h : s.step action = some t) :
    Steps s action t := by
  cases action with
  | commit changes =>
    obtain ⟨⟨table, payloads⟩, hChanges, rfl⟩ := Option.map_eq_some_iff.mp h
    exact .commit hChanges
  | connect =>
    rw [step] at h
    split at h
    · rename_i hStage
      exact Option.some.inj h ▸ .listen hStage
    · rename_i hStage
      exact Option.some.inj h ▸ .startPoll hStage
    · cases h
  | fail =>
    rw [step] at h
    split at h
    · rename_i hStage
      exact Option.some.inj h ▸ .fail (.inl hStage)
    · rename_i hStage
      exact Option.some.inj h ▸ .fail (.inr (.inl ⟨_, hStage⟩))
    · rename_i hStage
      exact Option.some.inj h ▸ .fail (.inr (.inl ⟨_, hStage⟩))
    · rename_i hStage
      exact Option.some.inj h ▸ .fail (.inr (.inr (.inl hStage)))
    · rename_i hStage
      exact Option.some.inj h ▸ .fail (.inr (.inr (.inr (.inl hStage))))
    · rename_i hStage
      exact Option.some.inj h ▸ .fail (.inr (.inr (.inr (.inr hStage))))
    · cases h
  | answer rows =>
    rw [step] at h
    split at h
    · rename_i load hStage
      split at h
      · rename_i hAnswers
        exact Option.some.inj h ▸ .load hStage hAnswers
      · cases h
    · rename_i hStage
      split at h
      · rename_i hAnswers
        exact Option.some.inj h ▸ .loadFlush hStage hAnswers
      · cases h
    · rename_i hStage
      exact Option.some.inj h ▸ .check hStage
    · cases h
  | markSuccess now =>
    rw [step] at h
    dsimp only at h
    split at h
    · rename_i load rows hStage
      exact Option.some.inj h ▸ .markLoad hStage
    · rename_i hStage
      exact Option.some.inj h ▸ .markFlush hStage
    · rename_i hStage
      exact Option.some.inj h ▸ .markCheck hStage
    · cases h
  | writeClients =>
    rw [step] at h
    split at h
    · rename_i rows hStage
      exact Option.some.inj h ▸ .writeInitial hStage
    · rename_i rows hStage
      exact Option.some.inj h ▸ .writeReconcile hStage
    · rename_i rows hStage
      exact Option.some.inj h ▸ .writePoll hStage
    · rename_i rows hStage
      exact Option.some.inj h ▸ .writeFlush hStage
    · cases h
  | clearDirty =>
    rw [step] at h
    split at h
    · rename_i hStage
      exact Option.some.inj h ▸ .clear (.inl hStage)
    · rename_i hStage
      exact Option.some.inj h ▸ .clear (.inr hStage)
    · cases h
  | receive =>
    rw [step] at h
    split at h
    · rename_i notification rest hStage hQueue
      split at h
      · rename_i hNotice
        exact Option.some.inj h ▸ .receiveFull hStage hQueue hNotice
      · rename_i clientId hNotice
        exact Option.some.inj h ▸ .receiveDirty hStage hQueue hNotice
    · cases h
  | dirtyFlushTick =>
    rw [step] at h
    split at h
    · rename_i hStage
      split at h
      · exact Option.some.inj h ▸ .flushNothing hStage
      · exact Option.some.inj h ▸ .flush hStage
    · cases h
  | fullReconcileTick =>
    rw [step] at h
    split at h
    · rename_i hStage
      exact Option.some.inj h ▸ .reconcile hStage
    · cases h
  | healthCheckTick =>
    rw [step] at h
    split at h
    · rename_i hStage
      exact Option.some.inj h ▸ .startCheck hStage
    · cases h

end Sync

end GatewayProxy
