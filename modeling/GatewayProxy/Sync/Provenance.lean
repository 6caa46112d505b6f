import Mathlib.Data.List.GetD
import GatewayProxy.Lib.Runs
import GatewayProxy.Sync.Convergence

/-!
# Where a tenant's access comes from

The registry is filled by full snapshots and by refreshes of single clients, and
the table goes on changing under both. `Dated` runs the sync task with its
history: the tables so far, and for each client which of them its entry was read
from.

Main results:

* `datedInv_step`: an entry is the whole of what one table says of the client.
* `moments_advance`: no entry is ever replaced by an older one.
* `access_has_one_moment`: both over any run, and what a token that authenticates
  rests on.
-/

namespace GatewayProxy

open Utf8 Assoc Runs

/-- The table of rows that the task has read and not yet written. -/
def Stage.held : Stage → Option Table
  | .loaded _ rows => some rows
  | .marked _ rows => some rows
  | .flushLoaded rows => some rows
  | _ => none

/-- The client is one of those that the running load is for. -/
def Sync.isLoading (s : Sync) (clientId : Str) : Bool :=
  match s.stage with
  | .flushing | .flushLoaded _ => clientId ∈ s.dirtyClientIds
  | _ => true

structure Dated where
  sync : Sync
  /-- the tables so far, the current one last -/
  tables : List Table
  /-- the one that the last query read -/
  read : Nat
  /-- the one that the entry of a client was read from; none while it is that of
  `config.json` -/
  asOf : Str → Option Nat

namespace Dated

def new (table : Table) (configClients : Clients) : Dated :=
  ⟨.new table configClients, [table], 0, fun _ => none⟩

/-- A step of the task, with what it does to the history. -/
def step (d : Dated) (action : Sync.Action) : Option Dated :=
  (d.sync.step action).map fun sync =>
    match action with
    | .commit _ => { d with sync := sync, tables := d.tables ++ [sync.table] }
    | .answer _ => { d with sync := sync, read := d.tables.length - 1 }
    | .writeClients =>
      { d with sync := sync, asOf := fun clientId =>
          if d.sync.isLoading clientId then some d.read else d.asOf clientId }
    | _ => { d with sync := sync }

/-- What a table of the history says of a client. -/
def entryAt (d : Dated) (moment : Nat) (clientId : Str) : Option ClientConfig :=
  (clientsOf (d.tables.getD moment [])).lookup clientId

/-- The entry of a client is the one of its moment. -/
def Entry (configClients : Clients) (d : Dated) (clientId : Str) : Prop :=
  d.sync.clients.lookup clientId =
    (d.asOf clientId).elim (configClients.lookup clientId) fun moment => d.entryAt moment clientId

structure DatedInv (configClients : Clients) (d : Dated) : Prop where
  current : d.tables.getLast? = some d.sync.table
  read : d.read < d.tables.length
  held : ∀ rows, d.sync.stage.held = some rows → ∀ clientId, (clientsOf rows).lookup clientId =
    if d.sync.isLoading clientId then d.entryAt d.read clientId else none
  entry : ∀ clientId, Entry configClients d clientId
  past : ∀ clientId moment, d.asOf clientId = some moment → moment ≤ d.read

theorem datedInv_new (table : Table) (configClients : Clients) :
    DatedInv configClients (new table configClients) where
  current := rfl
  read := Nat.zero_lt_one
  held := nofun
  entry := fun _ => rfl
  past := nofun

section Steps

variable {configClients : Clients} {d e : Dated}

/-- The history ends with the current table. -/
theorem DatedInv.entryAt_last (hInv : DatedInv configClients d) (clientId : Str) :
    d.entryAt (d.tables.length - 1) clientId = (clientsOf d.sync.table).lookup clientId := by
  have hLast : d.tables[d.tables.length - 1]? = some d.sync.table := by
    rw [← List.getLast?_eq_getElem?]
    exact hInv.current
  rw [entryAt, List.getD_eq_getElem?_getD, hLast, Option.getD_some]

theorem DatedInv.length_pos (hInv : DatedInv configClients d) : 0 < d.tables.length :=
  Nat.zero_lt_of_lt hInv.read

/-- A step that only changes the task: it neither reads nor writes. -/
theorem DatedInv.move (hInv : DatedInv configClients d) {sync : Sync}
    (hTable : sync.table = d.sync.table) (hClients : sync.clients = d.sync.clients)
    (hHeld : sync.stage.held = none ∨ (sync.stage.held = d.sync.stage.held ∧
      ∀ clientId, sync.isLoading clientId = d.sync.isLoading clientId)) :
    DatedInv configClients { d with sync := sync } where
  current := hInv.current.trans (by rw [hTable])
  read := hInv.read
  held := by
    intro rows hRows clientId
    rcases hHeld with hNone | ⟨hSame, hLoading⟩
    · cases hNone.symm.trans hRows
    · rw [hLoading]
      exact hInv.held rows (hSame.symm.trans hRows) clientId
  entry := by
    intro clientId
    have hEntry := hInv.entry clientId
    unfold Entry at hEntry ⊢
    rw [hClients]
    exact hEntry
  past := hInv.past

/-- A commit comes after everything that was read. -/
theorem DatedInv.commit (hInv : DatedInv configClients d) (table : Table)
    (notifications : List Str) :
    DatedInv configClients { d with
      sync := { d.sync with table := table, notifications := notifications }
      tables := d.tables ++ [table] } := by
  have hOld : ∀ moment ≤ d.read, (d.tables ++ [table]).getD moment [] =
      d.tables.getD moment [] := by
    intro moment hLe
    exact List.getD_append _ _ _ _ (Nat.lt_of_le_of_lt hLe hInv.read)
  refine ⟨List.getLast?_concat .., ?_, fun rows hRows clientId => ?_, fun clientId => ?_,
    hInv.past⟩
  · rw [List.length_append]
    exact Nat.lt_add_right _ hInv.read
  · have hHeld := hInv.held rows hRows clientId
    rw [hHeld, entryAt, entryAt]
    dsimp only
    rw [hOld d.read le_rfl]
    rfl
  · have hEntry := hInv.entry clientId
    unfold Entry at hEntry ⊢
    dsimp only
    cases hMoment : d.asOf clientId with
    | none =>
      rw [hMoment] at hEntry
      exact hEntry
    | some moment =>
      rw [hMoment] at hEntry
      rw [hEntry, Option.elim_some, Option.elim_some, entryAt, entryAt,
        hOld moment (hInv.past clientId moment hMoment)]

/-- A query reads the current table. -/
theorem DatedInv.answer (hInv : DatedInv configClients d) {stage : Stage}
    (hHeld : ∀ rows, stage.held = some rows → ∀ clientId, (clientsOf rows).lookup clientId =
      if ({ d.sync with stage := stage } : Sync).isLoading clientId then
        (clientsOf d.sync.table).lookup clientId else none) :
    DatedInv configClients { d with
      sync := { d.sync with stage := stage }
      read := d.tables.length - 1 } := by
  have hPos := hInv.length_pos
  refine ⟨hInv.current, ?_, fun rows hRows clientId => ?_, hInv.entry, fun clientId moment h => ?_⟩
  · show d.tables.length - 1 < d.tables.length
    omega
  · refine (hHeld rows hRows clientId).trans ?_
    rw [← hInv.entryAt_last clientId]
    rfl
  · have hPast := hInv.past clientId moment h
    have hRead := hInv.read
    show moment ≤ d.tables.length - 1
    omega

/-- A write of what was read. -/
theorem DatedInv.write (hInv : DatedInv configClients d) {sync : Sync}
    (hTable : sync.table = d.sync.table) (hHeld : sync.stage.held = none)
    (hClients : ∀ clientId, sync.clients.lookup clientId =
      if d.sync.isLoading clientId then d.entryAt d.read clientId
      else d.sync.clients.lookup clientId) :
    DatedInv configClients { d with
      sync := sync
      asOf := fun clientId =>
        if d.sync.isLoading clientId then some d.read else d.asOf clientId } := by
  refine ⟨hInv.current.trans (by rw [hTable]), hInv.read, fun rows hRows => ?_,
    fun clientId => ?_, fun clientId moment h => ?_⟩
  · cases hHeld.symm.trans hRows
  · unfold Entry
    dsimp only
    rw [hClients]
    split
    · rfl
    · exact hInv.entry clientId
  · dsimp only at h
    split at h
    · exact (Option.some.inj h).ge
    · exact hInv.past clientId moment h

/-- The write of a full snapshot. -/
theorem DatedInv.writeAll (hInv : DatedInv configClients d) {load : Load} {rows : Table}
    {sync : Sync} (hStage : d.sync.stage = .marked load rows)
    (hTable : sync.table = d.sync.table) (hHeld : sync.stage.held = none)
    (hClients : sync.clients = clientsOf rows) :
    DatedInv configClients { d with
      sync := sync
      asOf := fun clientId =>
        if d.sync.isLoading clientId then some d.read else d.asOf clientId } := by
  refine hInv.write hTable hHeld fun clientId => ?_
  have hLoading : d.sync.isLoading clientId = true := by rw [Sync.isLoading, hStage]
  rw [hClients, if_pos hLoading, hInv.held rows (by rw [hStage]; rfl) clientId, if_pos hLoading]

/-- **Step lemma.** -/
theorem datedInv_step {action : Sync.Action} (hInv : DatedInv configClients d)
    (hStep : d.step action = some e) : DatedInv configClients e := by
  obtain ⟨sync, hSync, rfl⟩ := Option.map_eq_some_iff.mp hStep
  cases Sync.steps_of_step hSync with
  | commit hChanges => exact hInv.commit _ _
  | listen hStage => exact hInv.move rfl rfl (.inl rfl)
  | startPoll hStage => exact hInv.move rfl rfl (.inl rfl)
  | fail hStage => exact hInv.move rfl rfl (.inl rfl)
  | load hStage hAnswers =>
    refine hInv.answer fun rows hRows clientId => ?_
    obtain rfl := Option.some.inj hRows
    exact lookup_clientsOf_answer hAnswers clientId
  | loadFlush hStage hAnswers =>
    refine hInv.answer fun rows hRows clientId => ?_
    obtain rfl := Option.some.inj hRows
    exact lookup_clientsOf_answer hAnswers clientId
  | check hStage => exact hInv.answer nofun
  | markLoad hStage =>
    refine hInv.move rfl rfl (.inr ⟨by rw [hStage]; rfl, fun clientId => ?_⟩)
    rw [Sync.isLoading, Sync.isLoading, hStage]
  | markFlush hStage => exact hInv.move rfl rfl (.inl rfl)
  | markCheck hStage => exact hInv.move rfl rfl (.inl rfl)
  | writeInitial hStage => exact hInv.writeAll hStage rfl rfl rfl
  | writeReconcile hStage => exact hInv.writeAll hStage rfl rfl rfl
  | writePoll hStage => exact hInv.writeAll hStage rfl rfl rfl
  | @writeFlush rows hStage =>
    refine hInv.write rfl rfl fun clientId => ?_
    have hLoading : d.sync.isLoading clientId = decide (clientId ∈ d.sync.dirtyClientIds) := by
      rw [Sync.isLoading, hStage]
    have hHeld := hInv.held rows (by rw [hStage]; rfl) clientId
    rw [hLoading] at hHeld ⊢
    have hOthers : clientId ∉ d.sync.dirtyClientIds →
        (clientsOf rows).lookup clientId = none := by
      intro hClean
      rw [hHeld, if_neg (by simpa using hClean)]
    show (refreshClients d.sync.clients d.sync.dirtyClientIds rows).lookup clientId = _
    rw [lookup_refreshClients hOthers]
    by_cases hDirty : clientId ∈ d.sync.dirtyClientIds
    · rw [if_pos hDirty, if_pos (decide_eq_true hDirty), hHeld, if_pos (decide_eq_true hDirty)]
    · rw [if_neg hDirty, if_neg (by simpa using hDirty)]
  | clear hStage => exact hInv.move rfl rfl (.inl rfl)
  | receiveFull hStage hQueue hNotice => exact hInv.move rfl rfl (.inl rfl)
  | receiveDirty hStage hQueue hNotice => exact hInv.move rfl rfl (.inl (by rw [hStage]; rfl))
  | flushNothing hStage => exact hInv.move rfl rfl (.inr ⟨rfl, fun _ => rfl⟩)
  | flush hStage => exact hInv.move rfl rfl (.inl rfl)
  | reconcile hStage => exact hInv.move rfl rfl (.inl rfl)
  | startCheck hStage => exact hInv.move rfl rfl (.inl rfl)

/-- **Moments advance.** A step takes an entry from no older table than before. -/
theorem moments_advance {action : Sync.Action} (hInv : DatedInv configClients d)
    (hStep : d.step action = some e) {clientId : Str} {moment : Nat}
    (hMoment : d.asOf clientId = some moment) :
    ∃ moment', moment ≤ moment' ∧ e.asOf clientId = some moment' := by
  obtain ⟨sync, hSync, rfl⟩ := Option.map_eq_some_iff.mp hStep
  cases action with
  | writeClients =>
    by_cases hLoading : d.sync.isLoading clientId = true
    · exact ⟨d.read, hInv.past clientId moment hMoment, if_pos hLoading⟩
    · exact ⟨moment, le_rfl, (if_neg hLoading).trans hMoment⟩
  | _ => exact ⟨moment, le_rfl, hMoment⟩

end Steps

-- ---------------------------------------------------------------------------
-- Any run
-- ---------------------------------------------------------------------------

section AnyRun

variable {configClients : Clients} {d e : Dated}

/-- The history does not steer the task. -/
theorem exec_sync (actions : List Sync.Action) (d : Dated) :
    exec Sync.step d.sync actions = (exec Dated.step d actions).map Dated.sync := by
  induction actions generalizing d with
  | nil => rfl
  | cons action actions ih =>
    rw [exec_cons, exec_cons, step, Option.bind_map]
    cases d.sync.step action with
    | none => rfl
    | some sync =>
      rw [Option.bind_some, Option.bind_some, Function.comp_apply, ← ih]
      cases action <;> rfl

/-- A guild of an entry has a row of the client, with the secret of the entry. -/
theorem row_of_entry {table : Table} {clientId : Str} {client : ClientConfig} {guildId : Nat}
    (hEntry : (clientsOf table).lookup clientId = some client) (hGuild : guildId ∈ client.guilds) :
    ∃ row ∈ table, row.clientId = clientId ∧ row.secret = client.secret ∧
      parseU64 row.guildId = some guildId := by
  rw [lookup_clientsOf, foldl_groupEntry] at hEntry
  obtain ⟨first, -, rfl⟩ := Option.map_eq_some_iff.mp hEntry
  obtain ⟨short, hKept, hParsed⟩ := List.mem_filterMap.mp (List.mem_toFinset.mp hGuild)
  obtain ⟨hOwn, -⟩ := List.mem_filter.mp hKept
  obtain ⟨hRow, hSecret⟩ := List.mem_filter.mp hOwn
  obtain ⟨row, hMem, rfl⟩ := List.mem_map.mp hRow
  obtain ⟨hTable, hClient⟩ := List.mem_filter.mp hMem
  exact ⟨row, hTable, of_decide_eq_true hClient, of_decide_eq_true hSecret, hParsed⟩

/-- A client in the registry of a table has a row there with its secret. -/
theorem row_of_client {table : Table} {clientId : Str} {client : ClientConfig}
    (hEntry : (clientsOf table).lookup clientId = some client) :
    ∃ row ∈ table, row.clientId = clientId ∧ row.secret = client.secret := by
  rw [lookup_clientsOf, foldl_groupEntry] at hEntry
  obtain ⟨first, hFirst, rfl⟩ := Option.map_eq_some_iff.mp hEntry
  obtain ⟨row, hMem, rfl⟩ := List.mem_map.mp (List.mem_of_find?_eq_some hFirst)
  obtain ⟨hTable, hClient⟩ := List.mem_filter.mp hMem
  exact ⟨row, hTable, of_decide_eq_true hClient, rfl⟩

/-- Who authenticates is in the registry, with the secret of the token. -/
theorem client_of_authenticated {clients : Clients} {state : ClientDataState}
    {token clientId : Str} {guilds : Finset Nat}
    (hAuth : authenticateClientWithId clients state token = .ok clientId guilds) :
    ∃ client, splitOnce ':' token = some (clientId, client.secret) ∧
      clients.lookup clientId = some client ∧ client.guilds = guilds := by
  unfold authenticateClientWithId at hAuth
  split at hAuth
  · cases hAuth
  · rename_i id secret hSplit
    split at hAuth
    · cases hAuth
    · split at hAuth
      · rename_i client hClient
        split at hAuth
        · rename_i hSecret
          obtain ⟨rfl, rfl⟩ := ClientAuthResult.ok.inj hAuth
          exact ⟨client, hSecret ▸ hSplit, hClient, rfl⟩
        · cases state <;> cases hAuth
      · cases state <;> cases hAuth

/-- What authenticates by a table, by its rows. -/
theorem rows_of_authenticated {table : Table} {clientId : Str} {clients : Clients}
    (hEntry : clients.lookup clientId = (clientsOf table).lookup clientId)
    {state : ClientDataState} {token : Str} {guilds : Finset Nat}
    (hAuth : authenticateClientWithId clients state token = .ok clientId guilds) :
    (∃ row ∈ table, row.clientId = clientId ∧
        splitOnce ':' token = some (clientId, row.secret)) ∧
      ∀ guildId ∈ guilds, ∃ row ∈ table, row.clientId = clientId ∧
        splitOnce ':' token = some (clientId, row.secret) ∧
        parseU64 row.guildId = some guildId := by
  obtain ⟨client, hSplit, hClient, rfl⟩ := client_of_authenticated hAuth
  have hRead := hEntry.symm.trans hClient
  refine ⟨?_, fun guildId hGuild => ?_⟩
  · obtain ⟨row, hRow, hId, hSecret⟩ := row_of_client hRead
    exact ⟨row, hRow, hId, hSecret ▸ hSplit⟩
  · obtain ⟨row, hRow, hId, hSecret, hParsed⟩ := row_of_entry hRead hGuild
    exact ⟨row, hRow, hId, hSecret ▸ hSplit, hParsed⟩

/-- The entry of a client that was read is what the table of its moment says. -/
theorem DatedInv.table (hInv : DatedInv configClients d) {clientId : Str} {moment : Nat}
    (hMoment : d.asOf clientId = some moment) :
    ∃ table, d.tables[moment]? = some table ∧
      d.sync.clients.lookup clientId = (clientsOf table).lookup clientId := by
  have hEntry := hInv.entry clientId
  unfold Entry at hEntry
  rw [hMoment] at hEntry
  have hPast := Nat.lt_of_le_of_lt (hInv.past clientId moment hMoment) hInv.read
  refine ⟨d.tables.getD moment [], ?_, hEntry⟩
  rw [List.getD_eq_getElem _ _ hPast]
  exact List.getElem?_eq_getElem hPast

/-- What a token that authenticates rests on: `config.json`, or rows of the one
table that the entry was read from. -/
def RestsOn (configClients : Clients) (d : Dated) (token clientId : Str) (guildId : Nat) : Prop :=
  (d.asOf clientId = none ∧ ∃ client, configClients.lookup clientId = some client ∧
    splitOnce ':' token = some (clientId, client.secret) ∧ guildId ∈ client.guilds) ∨
  ∃ moment table row, d.asOf clientId = some moment ∧ d.tables[moment]? = some table ∧
    row ∈ table ∧ row.clientId = clientId ∧ splitOnce ':' token = some (clientId, row.secret) ∧
    parseU64 row.guildId = some guildId

theorem DatedInv.restsOn (hInv : DatedInv configClients d) {state : ClientDataState}
    {token clientId : Str} {guilds : Finset Nat} {guildId : Nat}
    (hAuth : authenticateClientWithId d.sync.clients state token = .ok clientId guilds)
    (hGuild : guildId ∈ guilds) : RestsOn configClients d token clientId guildId := by
  cases hMoment : d.asOf clientId with
  | none =>
    obtain ⟨client, hSplit, hClient, rfl⟩ := client_of_authenticated hAuth
    have hEntry := hInv.entry clientId
    unfold Entry at hEntry
    rw [hMoment] at hEntry
    exact .inl ⟨hMoment, client, hEntry.symm.trans hClient, hSplit, hGuild⟩
  | some moment =>
    obtain ⟨table, hTable, hEntry⟩ := hInv.table hMoment
    obtain ⟨row, hRow, hId, hSplit, hParsed⟩ := (rows_of_authenticated hEntry hAuth).2 _ hGuild
    exact .inr ⟨moment, table, row, hMoment, hTable, hRow, hId, hSplit, hParsed⟩

/-- **Access has one moment.** Over any run of the task, with commits, failures
and reconnects between any two of its steps: the entry of a client is that of
`config.json` or the whole of what one table of the past says of the client, never
a mix of two; a later entry comes from no older table; and a token authenticates
for a guild only with the secret and the guild id of a row of that table, or by
`config.json` as long as no table was read for the client. -/
theorem access_has_one_moment {table : Table} {actions : List Sync.Action}
    (hRun : exec step (new table configClients) actions = some d) :
    exec Sync.step (.new table configClients) actions = some d.sync ∧
    (∀ clientId, Entry configClients d clientId) ∧
    (∀ clientId moment, d.asOf clientId = some moment → moment < d.tables.length) ∧
    (∀ more e, exec step d more = some e → ∀ clientId moment, d.asOf clientId = some moment →
      ∃ moment', moment ≤ moment' ∧ e.asOf clientId = some moment') ∧
    ∀ state token clientId guilds,
      authenticateClientWithId d.sync.clients state token = .ok clientId guilds →
      ∀ guildId ∈ guilds, RestsOn configClients d token clientId guildId := by
  have hInv : DatedInv configClients d :=
    exec_invariant (fun _ _ _ h hStep => datedInv_step h hStep)
      (datedInv_new table configClients) hRun
  refine ⟨?_, hInv.entry, fun clientId moment hMoment => ?_, fun more e hMore clientId moment
    hMoment => ?_, fun state token clientId guilds hAuth guildId hGuild =>
      hInv.restsOn hAuth hGuild⟩
  · exact (exec_sync actions (new table configClients)).trans (by rw [hRun]; rfl)
  · exact Nat.lt_of_le_of_lt (hInv.past clientId moment hMoment) hInv.read
  · have hEnd : DatedInv configClients e ∧
        ∃ moment', moment ≤ moment' ∧ e.asOf clientId = some moment' := by
      refine exec_invariant (P := fun e => DatedInv configClients e ∧
        ∃ moment', moment ≤ moment' ∧ e.asOf clientId = some moment') ?_
        ⟨hInv, moment, le_rfl, hMoment⟩ hMore
      rintro s action t ⟨hS, moment', hLe, hS'⟩ hStep
      obtain ⟨moment'', hLe', hT⟩ := moments_advance hS hStep hS'
      exact ⟨datedInv_step hS hStep, moment'', hLe.trans hLe', hT⟩
    exact hEnd.2

end AnyRun

open SampleRows in
/-- Client `b` is added after the first snapshot and refreshed alone: `a` stays
with the first table, `b` is from the second. -/
theorem access_has_one_moment_refreshed :
    ∃ d, exec step (new [row "a" "7"] ∅)
        [.connect, .answer [row "a" "7"], .markSuccess (some 1), .writeClients,
          .commit [.insert (row "b" "8") 1], .receive, .dirtyFlushTick, .answer [row "b" "8"],
          .writeClients] = some d ∧
      d.asOf "a".toList = some 0 ∧ d.asOf "b".toList = some 1 ∧ Entry ∅ d "b".toList := by
  have hOutcome : (exec step (new [row "a" "7"] ∅)
      [.connect, .answer [row "a" "7"], .markSuccess (some 1), .writeClients,
        .commit [.insert (row "b" "8") 1], .receive, .dirtyFlushTick, .answer [row "b" "8"],
        .writeClients]).map (fun d => (d.asOf "a".toList, d.asOf "b".toList)) =
      some (some 0, some 1) := by
    decide +kernel
  obtain ⟨d, hRun, hMoments⟩ := Option.map_eq_some_iff.mp hOutcome
  obtain ⟨hFirst, hSecond⟩ := Prod.mk.inj hMoments
  exact ⟨d, hRun, hFirst, hSecond, (access_has_one_moment hRun).2.1 _⟩

end Dated

end GatewayProxy
