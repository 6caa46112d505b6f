import GatewayProxy.Source.Sync
import Mathlib.Data.Finset.Lattice.Lemmas

/-!
# What a client's rows give it access to

`group_rows_into_clients` folds the rows into one entry for each client. The rows
of a client come newest first, and its newest row has the secret that counts: the
entry should be made of the rows with that secret. The fold skips a row whose
guild id is invalid before it looks at its secret, so that the secret that is
kept is the one of the newest row among the others.

Main results:

* `lookup_groupRowsIntoClients`: a client's entry is the fold of its own rows.
* `foldl_groupEntry`: the fold, as the rows that it keeps.
* `grouping_keeps_newest_iff`: when that is the access of the newest secret.
* `grouping_keeps_old_secret`: an old secret that is kept.
-/

namespace GatewayProxy

open Utf8 Assoc

-- ---------------------------------------------------------------------------
-- One row
-- ---------------------------------------------------------------------------

/-- What a row makes of the entry of its client. -/
def groupEntry (entry : Option ClientConfig) (row : SnapshotClientRow) : Option ClientConfig :=
  match parseU64 row.guildId with
  | none => entry
  | some guildId =>
    some (entry.elim (firstRow row guildId) fun client => mergeRow client row guildId)

theorem lookup_groupRow (clients : Clients) (row : SnapshotClientRow) (clientId : Str) :
    (groupRow clients row).lookup clientId =
      if clientId = row.clientId then groupEntry (clients.lookup clientId) row
      else clients.lookup clientId := by
  rw [groupRow, groupEntry]
  cases parseU64 row.guildId with
  | none => exact (ite_self _).symm
  | some guildId =>
    dsimp only
    by_cases hClient : clientId = row.clientId
    · subst hClient
      rw [if_pos rfl]
      cases clients.lookup row.clientId with
      | none => exact AList.lookup_insert _
      | some client => exact AList.lookup_insert _
    · rw [if_neg hClient]
      split <;> exact AList.lookup_insert_ne hClient

/-- The entry of a client is the fold of its own rows. -/
theorem lookup_groupRowsIntoClients (rows : List SnapshotClientRow) (clientId : Str) :
    (groupRowsIntoClients rows).lookup clientId =
      (rows.filter fun row => row.clientId = clientId).foldl groupEntry none := by
  rw [groupRowsIntoClients, Map.lookup_foldl lookup_groupRow, AList.lookup_empty]

-- ---------------------------------------------------------------------------
-- What rows say
-- ---------------------------------------------------------------------------

/-- The guild id of the row is valid. -/
def hasGuild (row : SnapshotClientRow) : Bool := (parseU64 row.guildId).isSome

/-- The valid guild ids. -/
def guildIds (rows : List SnapshotClientRow) : Finset Nat :=
  (rows.filterMap fun row => parseU64 row.guildId).toFinset

/-- The first reachable URL that is present. -/
def firstUrl (rows : List SnapshotClientRow) : Option Str :=
  rows.findSome? SnapshotClientRow.reachableUrl

/-- The earliest wake time that is present. -/
def firstWake (rows : List SnapshotClientRow) : Option Nat :=
  (rows.filterMap SnapshotClientRow.nextWakeAt).min?

/-- The rows with a secret. -/
def withSecret (secret : Str) (rows : List SnapshotClientRow) : List SnapshotClientRow :=
  rows.filter fun row => row.secret = secret

/-- The access that rows of one client give, newest first: to the guilds of the
rows with the secret of the newest row, and to nothing if there are none. The URL
and the wake time are those of the rows given by `details`. -/
def newestAccess (details : SnapshotClientRow → Bool) (rows : List SnapshotClientRow) :
    Option ClientConfig :=
  rows.head?.bind fun newest =>
    let own := withSecret newest.secret rows
    if own.any hasGuild then
      some ⟨newest.secret, guildIds own, firstUrl (own.filter details),
        firstWake (own.filter details)⟩
    else none

-- ---------------------------------------------------------------------------
-- The fold
-- ---------------------------------------------------------------------------

theorem earliestWake_assoc (a b c : Option Nat) :
    earliestWake (earliestWake a b) c = earliestWake a (earliestWake b c) := by
  rcases a with - | a <;> rcases b with - | b <;> rcases c with - | c <;> try rfl
  show some (min (min a b) c) = some (min a (min b c))
  rw [Nat.min_assoc]

theorem firstWake_cons (row : SnapshotClientRow) (rows : List SnapshotClientRow) :
    firstWake (row :: rows) = earliestWake row.nextWakeAt (firstWake rows) := by
  rw [firstWake, firstWake, List.filterMap_cons]
  cases row.nextWakeAt with
  | none => rfl
  | some wake =>
    dsimp only
    rw [List.min?_cons]
    cases (rows.filterMap SnapshotClientRow.nextWakeAt).min? with
    | none => rfl
    | some other => rfl

theorem firstUrl_cons (row : SnapshotClientRow) (rows : List SnapshotClientRow) :
    firstUrl (row :: rows) = row.reachableUrl.or (firstUrl rows) := by
  rw [firstUrl, firstUrl, List.findSome?_cons]
  cases row.reachableUrl <;> rfl

theorem guildIds_cons {row : SnapshotClientRow} {guildId : Nat}
    (h : parseU64 row.guildId = some guildId) (rows : List SnapshotClientRow) :
    guildIds (row :: rows) = insert guildId (guildIds rows) := by
  rw [guildIds, guildIds, List.filterMap_cons, h, List.toFinset_cons]

/-- The rows of a list that an entry takes in: those with its secret and a valid
guild id. -/
def kept (secret : Str) (rows : List SnapshotClientRow) : List SnapshotClientRow :=
  (withSecret secret rows).filter hasGuild

theorem kept_cons (secret : Str) (row : SnapshotClientRow) (rows : List SnapshotClientRow) :
    kept secret (row :: rows) =
      if row.secret = secret ∧ hasGuild row = true then row :: kept secret rows
      else kept secret rows := by
  rw [kept, withSecret, List.filter_cons]
  by_cases hSecret : row.secret = secret
  · rw [if_pos (decide_eq_true hSecret), List.filter_cons]
    by_cases hGuild : hasGuild row = true
    · rw [if_pos hGuild, if_pos ⟨hSecret, hGuild⟩]
      rfl
    · rw [if_neg hGuild, if_neg fun h => hGuild h.2]
      rfl
  · rw [if_neg (by simpa using hSecret), if_neg fun h => hSecret h.1]
    rfl

/-- An entry with what a list of rows adds to it. -/
def addRows (client : ClientConfig) (rows : List SnapshotClientRow) : ClientConfig :=
  ⟨client.secret, client.guilds ∪ guildIds rows, client.reachableUrl.or (firstUrl rows),
    earliestWake client.nextWakeAt (firstWake rows)⟩

/-- A row with the secret of the entry adds what it says. -/
theorem addRows_mergeRow {client : ClientConfig} {row : SnapshotClientRow} {guildId : Nat}
    (hGuild : parseU64 row.guildId = some guildId) (hSecret : client.secret = row.secret)
    (rows : List SnapshotClientRow) :
    addRows (mergeRow client row guildId) rows = addRows client (row :: rows) := by
  have hUrl : (if client.reachableUrl.isNone = true ∧ row.reachableUrl.isSome = true
      then row.reachableUrl else client.reachableUrl) =
        client.reachableUrl.or row.reachableUrl := by
    cases client.reachableUrl <;> cases row.reachableUrl <;> rfl
  rw [mergeRow, if_neg (not_not.mpr hSecret), addRows, addRows, firstUrl_cons, firstWake_cons,
    guildIds_cons hGuild, ← earliestWake_assoc, ← Option.or_assoc, Finset.union_insert]
  dsimp only
  rw [hUrl, Finset.insert_union]

/-- **An entry takes in the rows with its secret and a valid guild id.** The
induction is on the rows. -/
theorem foldl_groupEntry_some (client : ClientConfig) (rows : List SnapshotClientRow) :
    rows.foldl groupEntry (some client) = some (addRows client (kept client.secret rows)) := by
  induction rows generalizing client with
  | nil =>
    have hWake : earliestWake client.nextWakeAt none = client.nextWakeAt := by
      cases client.nextWakeAt <;> rfl
    show some client = some ⟨client.secret, client.guilds ∪ ∅, client.reachableUrl.or none,
      earliestWake client.nextWakeAt none⟩
    rw [Finset.union_empty, Option.or_none, hWake]
  | cons row rows ih =>
    rw [List.foldl_cons, kept_cons]
    cases hGuild : parseU64 row.guildId with
    | none =>
      have hEntry : groupEntry (some client) row = some client := by rw [groupEntry, hGuild]
      rw [hEntry, ih, if_neg]
      rintro ⟨-, hValid⟩
      rw [hasGuild, hGuild] at hValid
      cases hValid
    | some guildId =>
      have hEntry : groupEntry (some client) row = some (mergeRow client row guildId) := by
        rw [groupEntry, hGuild]
        rfl
      rw [hEntry, ih]
      by_cases hSecret : client.secret = row.secret
      · have hKeeps : (mergeRow client row guildId).secret = client.secret := by
          rw [mergeRow, if_neg (not_not.mpr hSecret)]
        have hValid : hasGuild row = true := by rw [hasGuild, hGuild]; rfl
        rw [hKeeps, if_pos ⟨hSecret.symm, hValid⟩, addRows_mergeRow hGuild hSecret]
      · have hSkips : mergeRow client row guildId = client := if_pos hSecret
        rw [hSkips, if_neg fun h => hSecret h.1.symm]

/-- **The fold is made by the newest row with a valid guild id.** -/
theorem foldl_groupEntry (rows : List SnapshotClientRow) :
    rows.foldl groupEntry none =
      (rows.find? hasGuild).map fun first =>
        ⟨first.secret, guildIds (kept first.secret rows), firstUrl (kept first.secret rows),
          firstWake (kept first.secret rows)⟩ := by
  induction rows with
  | nil => rfl
  | cons row rows ih =>
    rw [List.foldl_cons, List.find?_cons]
    cases hGuild : parseU64 row.guildId with
    | none =>
      have hEntry : groupEntry none row = none := by rw [groupEntry, hGuild]
      have hInvalid : hasGuild row = false := by rw [hasGuild, hGuild]; rfl
      have hSame : ∀ secret, kept secret (row :: rows) = kept secret rows := by
        intro secret
        rw [kept_cons, if_neg]
        rintro ⟨-, hValid⟩
        rw [hInvalid] at hValid
        cases hValid
      rw [hEntry, ih, hInvalid]
      simp only [hSame]
    | some guildId =>
      have hEntry : groupEntry none row = some (firstRow row guildId) := by
        rw [groupEntry, hGuild]
        rfl
      have hValid : hasGuild row = true := by rw [hasGuild, hGuild]; rfl
      rw [hEntry, hValid, foldl_groupEntry_some, Option.map_some, kept_cons,
        if_pos ⟨rfl, hValid⟩, guildIds_cons hGuild, firstUrl_cons, firstWake_cons]
      rfl

-- ---------------------------------------------------------------------------
-- The newest secret
-- ---------------------------------------------------------------------------

/-- The guild ids of rows are those of the rows with a valid one. -/
theorem guildIds_filter (rows : List SnapshotClientRow) :
    guildIds (rows.filter hasGuild) = guildIds rows := by
  rw [guildIds, guildIds, List.filterMap_filter]
  congr 2
  funext row
  rw [hasGuild]
  cases parseU64 row.guildId <;> rfl

/-- Of the rows of one client, newest first, the newest with a valid guild id has
the secret of the newest. -/
def NewestCounts (rows : List SnapshotClientRow) : Prop :=
  ∀ first ∈ rows.find? hasGuild, ∃ newest ∈ rows.head?, first.secret = newest.secret

/-- The rows of the newest secret have the same first URL and the same earliest wake
time with the skipped ones and without them. -/
def DetailsCount (rows : List SnapshotClientRow) : Prop :=
  rows.any hasGuild = true → ∀ newest ∈ rows.head?,
    firstUrl (withSecret newest.secret rows) = firstUrl (kept newest.secret rows) ∧
      firstWake (withSecret newest.secret rows) = firstWake (kept newest.secret rows)

/-- A list of rows without valid guild ids gives no access. -/
theorem newestAccess_of_find_none {rows : List SnapshotClientRow}
    (h : rows.find? hasGuild = none) (details : SnapshotClientRow → Bool) :
    newestAccess details rows = none := by
  rw [newestAccess]
  cases rows.head? with
  | none => rfl
  | some newest =>
    have hNone : (withSecret newest.secret rows).any hasGuild = false := by
      rw [List.any_eq_false]
      intro row hRow
      exact List.find?_eq_none.mp h row (List.mem_of_mem_filter hRow)
    rw [Option.bind_some]
    dsimp only
    rw [hNone, if_neg Bool.false_ne_true]

/-- With the newest row with a valid guild id of the newest secret, the rows with
that secret give access. -/
theorem newestAccess_of_find {rows : List SnapshotClientRow} {first newest : SnapshotClientRow}
    (hFirst : rows.find? hasGuild = some first) (hNewest : rows.head? = some newest)
    (hSecret : first.secret = newest.secret) (details : SnapshotClientRow → Bool) :
    newestAccess details rows =
      some ⟨newest.secret, guildIds (kept newest.secret rows),
        firstUrl ((withSecret newest.secret rows).filter details),
        firstWake ((withSecret newest.secret rows).filter details)⟩ := by
  have hAny : (withSecret newest.secret rows).any hasGuild = true := by
    rw [List.any_eq_true]
    exact ⟨first, List.mem_filter.mpr ⟨List.mem_of_find?_eq_some hFirst, decide_eq_true hSecret⟩,
      List.find?_some hFirst⟩
  rw [newestAccess, hNewest, Option.bind_some]
  dsimp only
  rw [hAny, if_pos rfl, kept, guildIds_filter]

/-- Access of the newest secret is to its secret. -/
theorem secret_of_newestAccess {details : SnapshotClientRow → Bool}
    {rows : List SnapshotClientRow} {client : ClientConfig}
    (h : newestAccess details rows = some client) :
    some client.secret = rows.head?.map SnapshotClientRow.secret := by
  obtain ⟨newest, hNewest, hAccess⟩ := Option.bind_eq_some_iff.mp h
  dsimp only at hAccess
  split at hAccess
  · obtain rfl := Option.some.inj hAccess
    rw [hNewest]
    rfl
  · cases hAccess

/-- **When the fold keeps the access of the newest secret.** -/
theorem foldl_groupEntry_eq_iff (rows : List SnapshotClientRow) :
    (rows.foldl groupEntry none = newestAccess hasGuild rows ↔ NewestCounts rows) ∧
      (rows.foldl groupEntry none = newestAccess (fun _ => true) rows ↔
        NewestCounts rows ∧ DetailsCount rows) := by
  rw [foldl_groupEntry]
  cases hFirst : rows.find? hasGuild with
  | none =>
    have hCounts : NewestCounts rows := by
      intro first hMem
      rw [hFirst] at hMem
      cases hMem
    have hDetails : DetailsCount rows := by
      intro hAny
      obtain ⟨row, hRow, hValid⟩ := List.any_eq_true.mp hAny
      exact absurd hValid (List.find?_eq_none.mp hFirst row hRow)
    rw [newestAccess_of_find_none hFirst, newestAccess_of_find_none hFirst]
    exact ⟨iff_of_true rfl hCounts, iff_of_true rfl ⟨hCounts, hDetails⟩⟩
  | some first =>
    obtain ⟨newest, hNewest⟩ : ∃ newest, rows.head? = some newest := by
      cases hHead : rows.head? with
      | none =>
        rw [List.head?_eq_none_iff] at hHead
        rw [hHead] at hFirst
        cases hFirst
      | some newest => exact ⟨newest, rfl⟩
    rw [Option.map_some]
    by_cases hSecret : first.secret = newest.secret
    · have hCounts : NewestCounts rows := by
        intro row hRow
        obtain rfl : first = row := Option.some.inj (hFirst.symm.trans hRow)
        exact ⟨newest, hNewest, hSecret⟩
      have hAny : rows.any hasGuild = true :=
        List.any_eq_true.mpr ⟨first, List.mem_of_find?_eq_some hFirst, List.find?_some hFirst⟩
      rw [newestAccess_of_find hFirst hNewest hSecret, newestAccess_of_find hFirst hNewest hSecret,
        hSecret, List.filter_true]
      refine ⟨iff_of_true rfl hCounts, ?_⟩
      rw [Option.some.injEq, ClientConfig.mk.injEq]
      constructor
      · rintro ⟨-, -, hUrl, hWake⟩
        refine ⟨hCounts, fun _ row hRow => ?_⟩
        obtain rfl : newest = row := Option.some.inj (hNewest.symm.trans hRow)
        exact ⟨hUrl.symm, hWake.symm⟩
      · rintro ⟨-, hDetails⟩
        obtain ⟨hUrl, hWake⟩ := hDetails hAny newest hNewest
        exact ⟨rfl, rfl, hUrl.symm, hWake.symm⟩
    · have hNot : ¬ NewestCounts rows := by
        intro hCounts
        obtain ⟨row, hRow, hSame⟩ := hCounts first hFirst
        obtain rfl : newest = row := Option.some.inj (hNewest.symm.trans hRow)
        exact hSecret hSame
      have hDiffers : ∀ details client, client.secret = first.secret →
          ¬ some client = newestAccess details rows := by
        intro details client hClient hEq
        have hAccess := secret_of_newestAccess hEq.symm
        rw [hNewest, hClient] at hAccess
        exact hSecret (Option.some.inj hAccess)
      exact ⟨iff_of_false (hDiffers _ _ rfl) hNot,
        iff_of_false (hDiffers _ _ rfl) fun h => hNot h.1⟩

/-- **When grouping keeps exactly the newest secret's access.** For all rows,
those of each client newest first, whatever their guild ids, secrets, URLs and
wake times: the entry of a client is the access of its newest secret, with the
URL and the wake time of all its rows, if and only if the newest row with a valid
guild id, if there is one, has the secret of the newest row, and no row with that
secret and an invalid guild id has the first URL or the earliest wake time. With
these taken from the rows with a valid guild id alone, the first condition is
exact. -/
theorem grouping_keeps_newest_iff (rows : List SnapshotClientRow) (clientId : Str) :
    let own := rows.filter fun row => row.clientId = clientId
    ((groupRowsIntoClients rows).lookup clientId = newestAccess (fun _ => true) own ↔
      NewestCounts own ∧ DetailsCount own) ∧
    ((groupRowsIntoClients rows).lookup clientId = newestAccess hasGuild own ↔
      NewestCounts own) := by
  intro own
  rw [lookup_groupRowsIntoClients]
  exact ⟨(foldl_groupEntry_eq_iff own).2, (foldl_groupEntry_eq_iff own).1⟩

/-- The newest row of client `c` changes its secret and has an invalid guild id.
The client should have no access; its old secret still authenticates it for guild
111. -/
theorem grouping_keeps_old_secret :
    let rows : List SnapshotClientRow :=
      [⟨"c".toList, "new".toList, "none".toList, none, none⟩,
        ⟨"c".toList, "old".toList, "111".toList, none, none⟩]
    newestAccess (fun _ => true) rows = none ∧
      (groupRowsIntoClients rows).lookup "c".toList = some ⟨"old".toList, {111}, none, none⟩ ∧
      authenticateClientWithId (groupRowsIntoClients rows) .fresh "c:old".toList =
        .ok "c".toList {111} := by
  decide +kernel

end GatewayProxy
