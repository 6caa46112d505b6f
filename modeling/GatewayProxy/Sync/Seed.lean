import GatewayProxy.Source.ConfigFile

/-!
# The registry that `config.json` gives

The clients of the configuration as an object of entries in document order.

Main results:

* `lookup_foldlM_readClient`: the last entry of a name is the client.
* `readClientConfig_write`: an entry is read back, however its guild ids are
  written.
* `config_clients_exact`: when the clients are read and what a token then gets, and
  that every registry can be written down and read back.
-/

namespace GatewayProxy

open Utf8 Assoc Serde

-- ---------------------------------------------------------------------------
-- The object of entries
-- ---------------------------------------------------------------------------

/-- The entry of a name that counts. -/
def lastEntry (entries : List ClientEntry) (clientId : Str) : Option ClientEntry :=
  (entries.filter fun entry => entry.1 = clientId).getLast?

section Entries

variable {clients clients' : Clients} {entries : List ClientEntry}

/-- Reading stops at the first entry that cannot be read. -/
theorem isSome_foldlM_readClient (entries : List ClientEntry) (clients : Clients) :
    (entries.foldlM readClient clients).isSome = true ↔
      ∀ entry ∈ entries, (readClientConfig entry.2).isSome = true := by
  induction entries generalizing clients with
  | nil => exact iff_of_true rfl fun entry hMem => absurd hMem List.not_mem_nil
  | cons entry rest ih =>
    rw [List.foldlM_cons, List.forall_mem_cons, readClient]
    cases hRead : readClientConfig entry.2 with
    | none => exact iff_of_false (fun h => by cases h) fun h => by cases h.1
    | some config => exact (ih _).trans (iff_and_self.mpr fun _ => rfl)

theorem lastEntry_cons (entry : ClientEntry) (rest : List ClientEntry) (clientId : Str) :
    lastEntry (entry :: rest) clientId =
      (lastEntry rest clientId).or (if entry.1 = clientId then some entry else none) := by
  unfold lastEntry
  rw [List.filter_cons]
  by_cases hName : entry.1 = clientId
  · rw [if_pos (decide_eq_true hName), if_pos hName, List.getLast?_cons]
    cases (rest.filter fun entry => entry.1 = clientId).getLast? <;> rfl
  · rw [if_neg (by simpa using hName), if_neg hName, Option.or_none]

/-- The last entry of a name is the client. -/
theorem lookup_foldlM_readClient (h : entries.foldlM readClient clients = some clients')
    (clientId : Str) :
    clients'.lookup clientId =
      (lastEntry entries clientId).elim (clients.lookup clientId) fun entry =>
        readClientConfig entry.2 := by
  induction entries generalizing clients with
  | nil =>
    obtain rfl := Option.some.inj h
    rfl
  | cons entry rest ih =>
    rw [List.foldlM_cons] at h
    obtain ⟨between, hFirst, hRest⟩ := Option.bind_eq_some_iff.mp h
    obtain ⟨config, hRead, rfl⟩ := Option.map_eq_some_iff.mp hFirst
    rw [ih hRest, lastEntry_cons]
    cases lastEntry rest clientId with
    | some last => rfl
    | none =>
      rw [Option.none_or, Option.elim_none, Map.lookup_insert_eq]
      by_cases hName : entry.1 = clientId
      · rw [if_pos hName, if_pos hName.symm, Option.elim_some, hRead]
      · rw [if_neg hName, if_neg (Ne.symm hName), Option.elim_none]

end Entries

-- ---------------------------------------------------------------------------
-- One entry
-- ---------------------------------------------------------------------------

/-- How a guild id is written, as a string or as a number. -/
def writeGuildId (asString : Nat → Bool) (guildId : Nat) : Json :=
  if asString guildId then .string (formatNat guildId) else .unsigned guildId

/-- The members of an entry, with the guild ids in some order. -/
def writeClientConfig (asString : Nat → Bool) (guildIds : List Nat) (config : ClientConfig) :
    List Member :=
  [("secret".toList, .string config.secret)] ++
    [("guilds".toList, .array (guildIds.map (writeGuildId asString)))] ++
    skipNone "reachable_url".toList .string config.reachableUrl

/-- What `config.json` can say of a client: its guild ids are snowflakes, and no
wake time. -/
structure Writable (config : ClientConfig) : Prop where
  guilds : ∀ guildId ∈ config.guilds, guildId < 2 ^ 64
  nextWakeAt : config.nextWakeAt = none

section Entry

variable {asString : Nat → Bool} {guildIds : List Nat} {config : ClientConfig}

theorem readGuildId_write {guildId : Nat} (hBound : guildId < 2 ^ 64) :
    readGuildId (writeGuildId asString guildId) = some guildId := by
  unfold writeGuildId
  split
  · exact parseUnsigned_formatNat hBound
  · exact if_pos hBound

theorem deserializeGuildIds_write (hBound : ∀ guildId ∈ guildIds, guildId < 2 ^ 64) :
    deserializeGuildIds (.array (guildIds.map (writeGuildId asString))) =
      some guildIds.toFinset := by
  have hRead : (guildIds.map (writeGuildId asString)).mapM readGuildId = some guildIds := by
    induction guildIds with
    | nil => rfl
    | cons guildId rest ih =>
      rw [List.forall_mem_cons] at hBound
      rw [List.map_cons, List.mapM_cons, readGuildId_write hBound.1, ih hBound.2]
      rfl
  rw [deserializeGuildIds, hRead, Option.map_some]

/-- An entry is read back, however its guild ids are written. -/
theorem readClientConfig_write (hWritable : Writable config)
    (hGuilds : guildIds.toFinset = config.guilds) :
    readClientConfig (writeClientConfig asString guildIds config) = some config := by
  have hNamed : Field.named "secret".toList (writeClientConfig asString guildIds config) =
        [("secret".toList, .string config.secret)] ∧
      Field.named "guilds".toList (writeClientConfig asString guildIds config) =
        [("guilds".toList, .array (guildIds.map (writeGuildId asString)))] ∧
      Field.named "reachable_url".toList (writeClientConfig asString guildIds config) =
        skipNone "reachable_url".toList .string config.reachableUrl := by
    refine ⟨?_, ?_, ?_⟩
    all_goals
      simp (disch := decide) only [writeClientConfig, Field.named_append, Field.named_self,
        Field.named_ne, Field.named_skipNone_self, Field.named_skipNone_ne, List.append_nil,
        List.nil_append]
  obtain ⟨hSecretNamed, hGuildsNamed, hUrlNamed⟩ := hNamed
  have hSecret : (Field.required "secret".toList readString).ofMembers
      (writeClientConfig asString guildIds config) = some config.secret :=
    Field.ofMembers_required hSecretNamed
  have hBound : ∀ guildId ∈ guildIds, guildId < 2 ^ 64 := by
    intro guildId hMem
    exact hWritable.guilds guildId (hGuilds ▸ List.mem_toFinset.mpr hMem)
  have hReadGuilds : guildsField.ofMembers (writeClientConfig asString guildIds config) =
      some config.guilds := by
    have hField : Field.named guildsField.name (writeClientConfig asString guildIds config) = _ :=
      hGuildsNamed
    rw [Field.ofMembers, hField]
    show deserializeGuildIds (.array (guildIds.map (writeGuildId asString))) = _
    rw [deserializeGuildIds_write hBound, hGuilds]
  have hUrl : (Field.optional "reachable_url".toList readString).ofMembers
      (writeClientConfig asString guildIds config) = some config.reachableUrl :=
    Field.ofMembers_skipped hUrlNamed (fun _ _ => rfl) fun _ h => by cases h
  have hWake := hWritable.nextWakeAt
  simp only [readClientConfig, hSecret, hReadGuilds, hUrl, Option.bind_eq_bind,
    Option.bind_some, Option.pure_def, ← hWake]

end Entry

-- ---------------------------------------------------------------------------
-- The registry
-- ---------------------------------------------------------------------------

theorem mem_of_lastEntry {entries : List ClientEntry} {clientId : Str} {entry : ClientEntry}
    (h : lastEntry entries clientId = some entry) : entry ∈ entries ∧ entry.1 = clientId := by
  obtain ⟨hMem, hName⟩ := List.mem_filter.mp (List.mem_of_getLast? h)
  exact ⟨hMem, of_decide_eq_true hName⟩

theorem not_mem_of_lastEntry {entries : List ClientEntry} {clientId : Str}
    (h : lastEntry entries clientId = none) : ∀ entry ∈ entries, entry.1 ≠ clientId := by
  intro entry hMem hName
  have hNone := List.filter_eq_nil_iff.mp (List.getLast?_eq_none_iff.mp h) entry hMem
  exact hNone (decide_eq_true hName)

/-- A registry as entries; `order` lists the guild ids of a client. -/
def writeClients (asString : Nat → Bool) (order : Str → List Nat) (clients : Clients) :
    List ClientEntry :=
  clients.entries.map fun e => (e.1, writeClientConfig asString (order e.1) e.2)

section Registry

variable {read : Json → Option Clients}

/-- Every registry that can be written is read back. -/
theorem read_writeClients (hRead : ReadsClients read) {asString : Nat → Bool}
    {order : Str → List Nat} {clients : Clients}
    (hOrder : ∀ clientId config, clients.lookup clientId = some config →
      Writable config ∧ (order clientId).toFinset = config.guilds) :
    ∃ clients', read (clientsObject (writeClients asString order clients)) = some clients' ∧
      ∀ clientId, clients'.lookup clientId = clients.lookup clientId := by
  have hEntry : ∀ e ∈ clients.entries,
      readClientConfig (writeClientConfig asString (order e.1) e.2) = some e.2 := by
    intro e hMem
    obtain ⟨hWritable, hGuilds⟩ := hOrder e.1 e.2 (Map.mem_entries_iff.mp hMem)
    exact readClientConfig_write hWritable hGuilds
  have hSome : ((writeClients asString order clients).foldlM readClient ∅).isSome = true := by
    refine (isSome_foldlM_readClient _ _).mpr fun entry hMem => ?_
    obtain ⟨e, hE, rfl⟩ := List.mem_map.mp hMem
    rw [hEntry e hE]
    rfl
  obtain ⟨clients', hClients⟩ := Option.isSome_iff_exists.mp hSome
  refine ⟨clients', (hRead _).trans hClients, fun clientId => ?_⟩
  rw [lookup_foldlM_readClient hClients clientId]
  cases hLast : lastEntry (writeClients asString order clients) clientId with
  | none =>
    rw [Option.elim_none, AList.lookup_empty]
    cases hLookup : clients.lookup clientId with
    | none => rfl
    | some config =>
      have hMem : (clientId, writeClientConfig asString (order clientId) config) ∈
          writeClients asString order clients :=
        List.mem_map.mpr ⟨⟨clientId, config⟩, Map.mem_entries_iff.mpr hLookup, rfl⟩
      exact absurd rfl (not_mem_of_lastEntry hLast _ hMem)
  | some entry =>
    obtain ⟨hMem, hName⟩ := mem_of_lastEntry hLast
    obtain ⟨e, hE, rfl⟩ := List.mem_map.mp hMem
    obtain rfl : e.1 = clientId := hName
    rw [Option.elim_some, hEntry e hE]
    exact (Map.mem_entries_iff.mp hE).symm

/-- A token gets the guilds of the last entry of its client, if the secret is the
one there. -/
theorem authenticate_read_iff (hReads : ReadsClients read) {entries : List ClientEntry}
    {clients : Clients} (hRead : read (clientsObject entries) = some clients)
    {token clientId : Str} {guilds : Finset Nat} :
    authenticateClientWithId clients .noDatabase token = .ok clientId guilds ↔
      ∃ secret entry config, splitOnce ':' token = some (clientId, secret) ∧
        lastEntry entries clientId = some entry ∧ readClientConfig entry.2 = some config ∧
        config.secret = secret ∧ config.guilds = guilds := by
  have hFold : entries.foldlM readClient ∅ = some clients := (hReads entries).symm.trans hRead
  have hLookup : ∀ id config, clients.lookup id = some config ↔
      ∃ entry, lastEntry entries id = some entry ∧ readClientConfig entry.2 = some config := by
    intro id config
    rw [lookup_foldlM_readClient hFold id]
    cases lastEntry entries id with
    | none => simp
    | some entry => simp
  unfold authenticateClientWithId
  cases splitOnce ':' token with
  | none => simp
  | some parts =>
    obtain ⟨id, secret⟩ := parts
    dsimp only
    rw [if_neg (by decide)]
    cases hFound : clients.lookup id with
    | none =>
      refine iff_of_false (fun h => by cases h) ?_
      rintro ⟨secret', entry, config, hSplit, hLast, hConfig, -, -⟩
      obtain ⟨rfl, rfl⟩ := Prod.mk.inj (Option.some.inj hSplit)
      cases hFound.symm.trans ((hLookup _ config).mpr ⟨entry, hLast, hConfig⟩)
    | some config =>
      obtain ⟨entry, hLast, hConfig⟩ := (hLookup id config).mp hFound
      dsimp only
      constructor
      · intro h
        split at h
        · rename_i hSecret
          obtain ⟨rfl, rfl⟩ := ClientAuthResult.ok.inj h
          exact ⟨secret, entry, config, rfl, hLast, hConfig, hSecret, rfl⟩
        · cases h
      · rintro ⟨secret', entry', config', hSplit, hLast', hConfig', hSecret, rfl⟩
        obtain ⟨rfl, rfl⟩ := Prod.mk.inj (Option.some.inj hSplit)
        obtain rfl := Option.some.inj (hLast.symm.trans hLast')
        obtain rfl := Option.some.inj (hConfig.symm.trans hConfig')
        rw [if_pos hSecret]

/-- **The clients of the configuration.** Clients that are written as objects are
read exactly when each can be read, a second entry of a name replaces the first,
and without a database a token gets exactly the guilds of the last entry of its
client with its secret there. Every registry without wake times can be written
down, its guild ids as strings or as numbers and in any order, and is read back. -/
theorem config_clients_exact (hReads : ReadsClients read) :
    (∀ entries, (read (clientsObject entries)).isSome = true ↔
      ∀ entry ∈ entries, (readClientConfig entry.2).isSome = true) ∧
    (∀ entries clients, read (clientsObject entries) = some clients →
      ∀ token clientId guilds,
        authenticateClientWithId clients .noDatabase token = .ok clientId guilds ↔
          ∃ secret entry config, splitOnce ':' token = some (clientId, secret) ∧
            lastEntry entries clientId = some entry ∧
            readClientConfig entry.2 = some config ∧
            config.secret = secret ∧ config.guilds = guilds) ∧
    ∀ (asString : Nat → Bool) (order : Str → List Nat) (clients : Clients),
      (∀ clientId config, clients.lookup clientId = some config →
        Writable config ∧ (order clientId).toFinset = config.guilds) →
      ∃ clients', read (clientsObject (writeClients asString order clients)) = some clients' ∧
        ∀ clientId, clients'.lookup clientId = clients.lookup clientId := by
  refine ⟨fun entries => ?_, fun _ _ hRead _ _ _ => authenticate_read_iff hReads hRead,
    fun _ _ _ hOrder => read_writeClients hReads hOrder⟩
  rw [hReads entries]
  exact isSome_foldlM_readClient entries ∅

end Registry

namespace SampleConfig

/-- The members of an entry that is an object. -/
def clientEntry (entry : Member) : Option ClientEntry :=
  match entry.2 with
  | .object members => some (entry.1, members)
  | _ => none

/-- A library that reads clients written as objects alone. -/
def read : Json → Option Clients
  | .object entries => (entries.mapM clientEntry).bind fun entries => entries.foldlM readClient ∅
  | _ => none

theorem readsClients : ReadsClients read := by
  intro entries
  have hEntries : (entries.map fun entry => (entry.1, Json.object entry.2)).mapM clientEntry =
      some entries := by
    induction entries with
    | nil => rfl
    | cons entry rest ih => rw [List.map_cons, List.mapM_cons, ih]; rfl
  rw [clientsObject, read, hEntries, Option.bind_some]

/-- Client `c` is configured twice, with guild 7 as a number and guild 8 as a string. -/
def configuredTwice : List ClientEntry :=
  [("c".toList, [("secret".toList, .string "r".toList), ("guilds".toList, .array [.unsigned 7])]),
    ("c".toList,
      [("secret".toList, .string "s".toList), ("guilds".toList, .array [.string "8".toList])])]

end SampleConfig

theorem config_clients_exact_twice :
    ∃ clients, SampleConfig.read (clientsObject SampleConfig.configuredTwice) = some clients ∧
      authenticateClientWithId clients .noDatabase "c:s".toList = .ok "c".toList {8} := by
  have hConfig : readClientConfig [("secret".toList, .string "s".toList),
      ("guilds".toList, .array [.string "8".toList])] =
        some ⟨"s".toList, {8}, none, none⟩ := by decide +kernel
  refine ⟨_, rfl, ((config_clients_exact SampleConfig.readsClients).2.1
    SampleConfig.configuredTwice _ rfl _ _ _).mpr ?_⟩
  exact ⟨"s".toList, _, _, by decide, rfl, hConfig, rfl, rfl⟩

end GatewayProxy
