import GatewayProxy.Gateway.Offline
import GatewayProxy.Source.Wake

/-!
# Waking clients

Two loops over the registry wake clients: the one that buffers an event and the
poll of the schedule. A round of either reads and changes what the state holds
for its own client only, so what a pass does for a client does not depend on the
order of the registry. The rounds of all the tasks interleave freely, and each
reads the clock before it takes the lock, so that the times need not be in order.

Main results:

* `wakeTargets_bufferEvent`: which clients a pass over the registry wakes after
  an event, and what it leaves for each client.
* `mem_scheduledWakes`: which clients a tick of the poll wakes.
* `wakes_apart`: over any run, a client is woken only without a connection, at
  least the cooldown after its last attempt, and is not woken only for lack of a
  URL or within the cooldown of an attempt.
-/

namespace GatewayProxy

open Utf8 Assoc KeyedLoop GatewayProxy.Inner

-- ---------------------------------------------------------------------------
-- What the loops see of one client
-- ---------------------------------------------------------------------------

/-- What the shared state holds for one client, as far as the loops over the
registry look at it. -/
structure ClientView where
  connections : Nat
  buffer : List BufferedClientEvent
  lastWake : Option Nat

namespace Inner

def viewOf (inner : Inner) (clientId : Str) : ClientView :=
  ⟨inner.connectionCount clientId, inner.offlineBuffer clientId,
    inner.lastWakeAttempts.lookup clientId⟩

end Inner

/-- No attempt counts against the client any more. -/
def readyToWake (lastWake : Option Nat) (now : Nat) : Bool :=
  lastWake.all fun last => last + wakeCooldown ≤ now

/-- The request for a client that has a URL. -/
def wakeTarget (clientId : Str) (config : ClientConfig) : Option (Str × Str × Str) :=
  config.reachableUrl.map fun url => (clientId, url, clientId ++ ':' :: config.secret)

theorem shouldWakeClient_eq (inner : Inner) (clientId : Str) (now : Nat) :
    inner.shouldWakeClient clientId wakeCooldown now =
      if readyToWake (inner.lastWakeAttempts.lookup clientId) now then
        (true, { inner with lastWakeAttempts := inner.lastWakeAttempts.insert clientId now })
      else (false, inner) := by
  unfold shouldWakeClient readyToWake
  cases inner.lastWakeAttempts.lookup clientId with
  | none => rfl
  | some last =>
    have hCooldown : now - last < wakeCooldown ↔ ¬ last + wakeCooldown ≤ now := by
      unfold wakeCooldown
      omega
    simp only [hCooldown, Option.all_some, decide_eq_true_eq]
    split <;> rename_i hReady <;> simp [hReady]

/-- The entry of a client after an attempt of its own. -/
theorem viewOf_woken (inner : Inner) (clientId c : Str) (now : Nat) :
    ({ inner with lastWakeAttempts := inner.lastWakeAttempts.insert clientId now }).viewOf c =
      if c = clientId then { inner.viewOf c with lastWake := some now } else inner.viewOf c := by
  unfold viewOf
  dsimp only
  rw [Map.lookup_insert_eq]
  split <;> rfl

theorem viewOf_push (inner : Inner) (clientId c : Str) (event : BufferedClientEvent) :
    (inner.pushOfflineEventForClient clientId event).viewOf c =
      if c = clientId then { inner.viewOf c with buffer := pushBounded (inner.viewOf c).buffer event }
      else inner.viewOf c := by
  unfold viewOf
  rw [offlineBuffer_push]
  split
  · rename_i hc
    subst hc
    rfl
  · rfl

-- ---------------------------------------------------------------------------
-- The rounds
-- ---------------------------------------------------------------------------

/-- What the round after an event does for its client. -/
def eventWake (guildId now : Nat) (clientId : Str) (config : ClientConfig) (view : ClientView) :
    Option (Str × Str × Str) :=
  if guildId ∈ config.guilds ∧ view.connections = 0 ∧ readyToWake view.lastWake now then
    wakeTarget clientId config
  else none

def afterEvent (event : BufferedClientEvent) (guildId now : Nat) (config : ClientConfig)
    (view : ClientView) : ClientView :=
  if guildId ∈ config.guilds ∧ view.connections = 0 then
    { view with
      buffer := pushBounded view.buffer event
      lastWake := if readyToWake view.lastWake now then some now else view.lastWake }
  else view

/-- The schedule of the client has come up. -/
def isDue (config : ClientConfig) (systemNow : Nat) : Bool :=
  config.nextWakeAt.any fun nextWakeAt => dueAt nextWakeAt ≤ systemNow

/-- What the round of the poll does for its client. -/
def pollWake (systemNow now : Nat) (clientId : Str) (config : ClientConfig) (view : ClientView) :
    Option (Str × Str × Str) :=
  if isDue config systemNow ∧ view.connections = 0 ∧ readyToWake view.lastWake now then
    wakeTarget clientId config
  else none

def afterPoll (systemNow now : Nat) (config : ClientConfig) (view : ClientView) : ClientView :=
  if isDue config systemNow ∧ view.connections = 0 ∧ readyToWake view.lastWake now then
    { view with lastWake := some now }
  else view

theorem isClientConnected_iff (inner : Inner) (clientId : Str) :
    inner.isClientConnected clientId = true ↔ inner.connectionCount clientId ≠ 0 := by
  unfold isClientConnected
  rw [decide_eq_true_eq]
  omega

theorem bufferEventForClient_eq (event : BufferedClientEvent) (guildId now : Nat) (inner : Inner)
    (clientId : Str) (config : ClientConfig) :
    (bufferEventForClient event guildId now inner clientId config).1 =
        eventWake guildId now clientId config (inner.viewOf clientId) ∧
      ∀ c, (bufferEventForClient event guildId now inner clientId config).2.viewOf c =
        if c = clientId then afterEvent event guildId now config (inner.viewOf c)
        else inner.viewOf c := by
  unfold bufferEventForClient eventWake afterEvent
  have hCount : (inner.viewOf clientId).connections = inner.connectionCount clientId := rfl
  have hLast : (inner.viewOf clientId).lastWake = inner.lastWakeAttempts.lookup clientId := rfl
  rw [hCount, hLast]
  by_cases hGuild : guildId ∈ config.guilds
  case neg => simp [hGuild]
  by_cases hConn : inner.connectionCount clientId = 0
  case neg =>
    have hConnected := (isClientConnected_iff _ _).mpr hConn
    refine ⟨by simp [hConn, hConnected], fun c => ?_⟩
    rw [if_neg (by simpa using hGuild), if_pos hConnected]
    split
    · rename_i hc
      rw [if_neg fun h => hConn (hc ▸ h.2)]
    · rfl
  have hNotConnected : ¬ inner.isClientConnected clientId = true := by
    rw [isClientConnected_iff]
    exact fun h => h hConn
  have hAttempts : (inner.pushOfflineEventForClient clientId event).lastWakeAttempts =
      inner.lastWakeAttempts := rfl
  rw [if_neg (by simpa using hGuild), if_neg hNotConnected]
  dsimp only
  rw [shouldWakeClient_eq, hAttempts]
  by_cases hReady : readyToWake (inner.lastWakeAttempts.lookup clientId) now = true
  · rw [if_pos hReady]
    refine ⟨(if_pos ⟨hGuild, hConn, hReady⟩).symm, fun c => ?_⟩
    show ({ inner.pushOfflineEventForClient clientId event with
      lastWakeAttempts := inner.lastWakeAttempts.insert clientId now }).viewOf c = _
    rw [← hAttempts, viewOf_woken, viewOf_push]
    split
    · rename_i hc
      subst hc
      rw [if_pos ⟨hGuild, hConn⟩, hLast, if_pos hReady]
    · rfl
  · rw [if_neg hReady]
    refine ⟨(if_neg fun h => hReady h.2.2).symm, fun c => ?_⟩
    show (inner.pushOfflineEventForClient clientId event).viewOf c = _
    rw [viewOf_push]
    split
    · rename_i hc
      subst hc
      rw [if_pos ⟨hGuild, hConn⟩, hLast, if_neg hReady]
      rfl
    · rfl

theorem scheduledWake_eq (systemNow now : Nat) (inner : Inner) (clientId : Str)
    (config : ClientConfig) :
    (scheduledWake systemNow now inner clientId config).1 =
        pollWake systemNow now clientId config (inner.viewOf clientId) ∧
      ∀ c, (scheduledWake systemNow now inner clientId config).2.viewOf c =
        if c = clientId then afterPoll systemNow now config (inner.viewOf c)
        else inner.viewOf c := by
  unfold scheduledWake pollWake afterPoll isDue
  have hCount : (inner.viewOf clientId).connections = inner.connectionCount clientId := rfl
  have hLast : (inner.viewOf clientId).lastWake = inner.lastWakeAttempts.lookup clientId := rfl
  rw [hCount, hLast]
  cases config.nextWakeAt with
  | none => simp
  | some nextWakeAt =>
    simp only [Option.any_some, decide_eq_true_eq]
    by_cases hDue : systemNow < dueAt nextWakeAt
    case pos => simp [hDue, Nat.not_le.mpr hDue]
    by_cases hConn : inner.connectionCount clientId = 0
    case neg =>
      have hConnected := (isClientConnected_iff _ _).mpr hConn
      refine ⟨by simp [hConn, hConnected], fun c => ?_⟩
      rw [if_neg hDue, if_pos hConnected]
      split
      · rename_i hc
        rw [if_neg fun h => hConn (hc ▸ h.2.1)]
      · rfl
    have hNotConnected : ¬ inner.isClientConnected clientId = true := by
      rw [isClientConnected_iff]
      exact fun h => h hConn
    rw [if_neg hDue, if_neg hNotConnected, shouldWakeClient_eq]
    by_cases hReady : readyToWake (inner.lastWakeAttempts.lookup clientId) now = true
    · rw [if_pos hReady]
      refine ⟨(if_pos ⟨Nat.not_lt.mp hDue, hConn, hReady⟩).symm, fun c => ?_⟩
      show ({ inner with
        lastWakeAttempts := inner.lastWakeAttempts.insert clientId now }).viewOf c = _
      rw [viewOf_woken]
      split
      · rename_i hc
        subst hc
        rw [if_pos ⟨Nat.not_lt.mp hDue, hConn, hReady⟩]
      · rfl
    · rw [if_neg hReady]
      refine ⟨(if_neg fun h => hReady h.2.2).symm, fun c => ?_⟩
      show inner.viewOf c = _
      split
      · rename_i hc
        subst hc
        rw [if_neg fun h => hReady h.2.2]
      · rfl

theorem local_event (event : BufferedClientEvent) (guildId : Nat) (now : Str → Nat) :
    Local (fun inner c => bufferEventForClient event guildId (now c) inner c) viewOf
      (fun c => eventWake guildId (now c) c) (fun c => afterEvent event guildId (now c)) where
  yields inner c config := (bufferEventForClient_eq event guildId (now c) inner c config).1
  own inner c config := by
    rw [(bufferEventForClient_eq event guildId (now c) inner c config).2, if_pos rfl]
  frame inner c config d hd := by
    rw [(bufferEventForClient_eq event guildId (now c) inner c config).2, if_neg hd]

theorem local_poll (systemNow now : Str → Nat) :
    Local (fun inner c => scheduledWake (systemNow c) (now c) inner c) viewOf
      (fun c => pollWake (systemNow c) (now c) c) (fun c => afterPoll (systemNow c) (now c)) where
  yields inner c config := (scheduledWake_eq (systemNow c) (now c) inner c config).1
  own inner c config := by
    rw [(scheduledWake_eq (systemNow c) (now c) inner c config).2, if_pos rfl]
  frame inner c config d hd := by
    rw [(scheduledWake_eq (systemNow c) (now c) inner c config).2, if_neg hd]

-- ---------------------------------------------------------------------------
-- A pass over the registry
-- ---------------------------------------------------------------------------

theorem bufferEventForClients_eq_collect (event : BufferedClientEvent) (guildId : Nat)
    (now : Str → Nat) (l : List (Str × ClientConfig)) (inner : Inner) :
    bufferEventForClients event guildId now l inner =
      collect (fun inner c => bufferEventForClient event guildId (now c) inner c) l inner := by
  induction l generalizing inner with
  | nil => rfl
  | cons entry rest ih =>
    rw [collect_cons, ← ih]
    rfl

/-- A client is woken for at most once, since its target carries its id. -/
theorem nodup_targets {l : List (Str × ClientConfig)} (hKeys : (l.map Prod.fst).Nodup)
    {yield : Str × ClientConfig → Option (Str × Str × Str)}
    (hYield : ∀ entry target, yield entry = some target → target.1 = entry.1) :
    ((l.filterMap yield).map Prod.fst).Nodup := by
  induction l with
  | nil => exact List.nodup_nil
  | cons entry rest ih =>
    obtain ⟨hFresh, hRest⟩ := List.nodup_cons.mp hKeys
    rw [List.filterMap_cons]
    cases hHere : yield entry with
    | none => exact ih hRest
    | some target =>
      refine List.nodup_cons.mpr ⟨fun hMem => ?_, ih hRest⟩
      obtain ⟨target', hTarget', hEq⟩ := List.mem_map.mp hMem
      obtain ⟨entry', hEntry', hYield'⟩ := List.mem_filterMap.mp hTarget'
      rw [hYield _ _ hYield', hYield _ _ hHere] at hEq
      exact hFresh (List.mem_map.mpr ⟨entry', hEntry', hEq⟩)

theorem wakeTarget_eq_some {clientId c url token : Str} {config : ClientConfig} :
    wakeTarget clientId config = some (c, url, token) ↔
      c = clientId ∧ config.reachableUrl = some url ∧ token = clientId ++ ':' :: config.secret := by
  unfold wakeTarget
  rw [Option.map_eq_some_iff]
  constructor
  · rintro ⟨url', hUrl, hEq⟩
    simp only [Prod.mk.injEq] at hEq
    obtain ⟨rfl, rfl, rfl⟩ := hEq
    exact ⟨rfl, hUrl, rfl⟩
  · rintro ⟨rfl, hUrl, rfl⟩
    exact ⟨url, hUrl, rfl⟩

theorem eventWake_eq_some {guildId now : Nat} {clientId c url token : Str} {config : ClientConfig}
    {view : ClientView} :
    eventWake guildId now clientId config view = some (c, url, token) ↔
      (guildId ∈ config.guilds ∧ view.connections = 0 ∧ readyToWake view.lastWake now = true) ∧
        c = clientId ∧ config.reachableUrl = some url ∧
        token = clientId ++ ':' :: config.secret := by
  rw [← wakeTarget_eq_some, eventWake]
  split
  · rename_i hCond
    exact (and_iff_right hCond).symm
  · rename_i hCond
    exact iff_of_false (fun h => by cases h) fun h => hCond h.1

theorem pollWake_eq_some {systemNow now : Nat} {clientId c url token : Str}
    {config : ClientConfig} {view : ClientView} :
    pollWake systemNow now clientId config view = some (c, url, token) ↔
      (isDue config systemNow = true ∧ view.connections = 0 ∧
        readyToWake view.lastWake now = true) ∧
        c = clientId ∧ config.reachableUrl = some url ∧
        token = clientId ++ ':' :: config.secret := by
  rw [← wakeTarget_eq_some, pollWake]
  split
  · rename_i hCond
    exact (and_iff_right hCond).symm
  · rename_i hCond
    exact iff_of_false (fun h => by cases h) fun h => hCond h.1

/-- Who is woken after an event. -/
theorem mem_targets_bufferEvent (clients : Clients) (inner : Inner) (eventName : Str)
    (message : BroadcastMessage) (now : Str → Nat) (c url token : Str) :
    (c, url, token) ∈ (bufferEvent clients inner eventName message now).1 ↔
      (isBufferedFor clients c eventName message = true ∧ inner.connectionCount c = 0 ∧
        readyToWake (inner.lastWakeAttempts.lookup c) (now c) = true) ∧
        ∃ config, clients.lookup c = some config ∧ config.reachableUrl = some url ∧
          token = c ++ ':' :: config.secret := by
  unfold bufferEvent isBufferedFor bufferEventForDisconnectedClients
  rw [← shouldBufferEvent_eq]
  cases shouldBufferEvent eventName with
  | false => simp
  | true =>
    cases hGuild : message.guildId with
    | none => simp [BroadcastMessage.buffered, hGuild]
    | some guildId =>
      have hBuffered : message.buffered.guildId = some guildId := hGuild
      simp only [if_true, hBuffered, bufferEventForClients_eq_collect, Bool.true_and,
        Option.any_some]
      rw [collect_yields (local_event message.buffered guildId now) clients.nodup_map_entries,
        List.mem_filterMap]
      constructor
      · rintro ⟨⟨clientId, config⟩, hMem, hYield⟩
        obtain ⟨⟨hHas, hConn, hReady⟩, rfl, hUrl, hToken⟩ := eventWake_eq_some.mp hYield
        have hLookup := Map.mem_map_entries_iff.mp hMem
        refine ⟨⟨?_, hConn, hReady⟩, config, hLookup, hUrl, hToken⟩
        unfold clientHasGuild
        rw [hLookup]
        exact decide_eq_true hHas
      · rintro ⟨⟨hHas, hConn, hReady⟩, config, hLookup, hUrl, hToken⟩
        refine ⟨(c, config), Map.mem_map_entries_iff.mpr hLookup,
          eventWake_eq_some.mpr ⟨⟨?_, hConn, hReady⟩, rfl, hUrl, hToken⟩⟩
        unfold clientHasGuild at hHas
        rw [hLookup] at hHas
        exact of_decide_eq_true hHas

/-- After an event, a pass over the registry buffers it for exactly the clients
that may have it and have no connection. Those of them that have a URL and that
no attempt of the last ten seconds counts against are woken, once each. The pass
reads the clock anew for each client. -/
theorem wakeTargets_bufferEvent (clients : Clients) (inner : Inner) (eventName : Str)
    (message : BroadcastMessage) (now : Str → Nat) :
    ((bufferEvent clients inner eventName message now).1.map Prod.fst).Nodup ∧
      (∀ c url token, (c, url, token) ∈ (bufferEvent clients inner eventName message now).1 ↔
        (isBufferedFor clients c eventName message = true ∧ inner.connectionCount c = 0 ∧
          readyToWake (inner.lastWakeAttempts.lookup c) (now c) = true) ∧
          ∃ config, clients.lookup c = some config ∧ config.reachableUrl = some url ∧
            token = c ++ ':' :: config.secret) ∧
      ∀ c, (bufferEvent clients inner eventName message now).2.viewOf c =
        if isBufferedFor clients c eventName message ∧ inner.connectionCount c = 0 then
          { inner.viewOf c with
            buffer := pushBounded (inner.offlineBuffer c) message.buffered
            lastWake :=
              if readyToWake (inner.lastWakeAttempts.lookup c) (now c) then some (now c)
              else inner.lastWakeAttempts.lookup c }
        else inner.viewOf c := by
  have hTargets := mem_targets_bufferEvent clients inner eventName message now
  unfold bufferEvent isBufferedFor bufferEventForDisconnectedClients at hTargets ⊢
  rw [← shouldBufferEvent_eq] at hTargets ⊢
  cases hName : shouldBufferEvent eventName with
  | false => simp
  | true =>
    cases hGuild : message.guildId with
    | none => simp [BroadcastMessage.buffered, hGuild]
    | some guildId =>
      have hBuffered : message.buffered.guildId = some guildId := hGuild
      have hLocal := local_event message.buffered guildId now
      have hKeys := clients.nodup_map_entries
      simp only [hName, hGuild, if_true, hBuffered, bufferEventForClients_eq_collect,
        Bool.true_and, Option.any_some] at hTargets ⊢
      refine ⟨?_, hTargets, fun c => ?_⟩
      · rw [collect_yields hLocal hKeys]
        refine nodup_targets hKeys ?_
        rintro ⟨c, config⟩ ⟨d, url, token⟩ hTarget
        exact (eventWake_eq_some.mp hTarget).2.1
      · unfold clientHasGuild
        cases hLookup : clients.lookup c with
        | none =>
          have hAbsent : c ∉ (clients.entries.map fun e => (e.1, e.2)).map Prod.fst := by
            rintro hMem
            obtain ⟨⟨_, config⟩, hEntry, rfl⟩ := List.mem_map.mp hMem
            rw [Map.mem_map_entries_iff.mp hEntry] at hLookup
            cases hLookup
          rw [view_collect_of_notMem hLocal hAbsent]
          simp
        | some config =>
          rw [view_collect_mem hLocal hKeys (Map.mem_map_entries_iff.mpr hLookup)]
          simp only [afterEvent, viewOf, decide_eq_true_eq]
          rfl

/-- Who is woken by a tick of the poll. -/
theorem mem_scheduledWakes (clients : Clients) (inner : Inner) (systemNow now : Str → Nat)
    (c url token : Str) :
    (c, url, token) ∈ (scheduledWakes clients inner systemNow now).1 ↔
      ∃ config, clients.lookup c = some config ∧
        (isDue config (systemNow c) = true ∧ inner.connectionCount c = 0 ∧
          readyToWake (inner.lastWakeAttempts.lookup c) (now c) = true) ∧
          config.reachableUrl = some url ∧ token = c ++ ':' :: config.secret := by
  rw [scheduledWakes, collect_yields (local_poll systemNow now) clients.nodup_map_entries,
    List.mem_filterMap]
  constructor
  · rintro ⟨⟨clientId, config⟩, hMem, hYield⟩
    obtain ⟨hWoken, rfl, hUrl, hToken⟩ := pollWake_eq_some.mp hYield
    exact ⟨config, Map.mem_map_entries_iff.mp hMem, hWoken, hUrl, hToken⟩
  · rintro ⟨config, hLookup, hWoken, hUrl, hToken⟩
    exact ⟨(c, config), Map.mem_map_entries_iff.mpr hLookup,
      pollWake_eq_some.mpr ⟨hWoken, rfl, hUrl, hToken⟩⟩

-- ---------------------------------------------------------------------------
-- Any run
-- ---------------------------------------------------------------------------

inductive WakeStep
  /-- a round of the loop after an event -/
  | event (event : BufferedClientEvent) (guildId now : Nat) (clientId : Str)
      (config : ClientConfig)
  /-- a round of the poll -/
  | poll (systemNow now : Nat) (clientId : Str) (config : ClientConfig)
  | connection (clientId : Str) (op : ConnOp)
  | prune (validClientIds : Finset Str)

structure Waking where
  inner : Inner
  /-- history: when a client was sent a request, and which -/
  requests : List (Nat × Str × Str × Str)
  /-- history: when an attempt was counted, and for whom -/
  attempts : List (Nat × Str)

namespace Waking

def new (shards : List Shard) (shardCount : Nat) : Waking :=
  ⟨Inner.new shards shardCount, [], []⟩

/-- A round that goes as far as asking for an attempt when `asks` holds. -/
def round (s : Waking) (now : Nat) (clientId : Str) (asks : Bool)
    (outcome : Option (Str × Str × Str) × Inner) : Waking where
  inner := outcome.2
  requests := s.requests ++ outcome.1.toList.map (now, ·)
  attempts :=
    if asks ∧ !s.inner.isClientConnected clientId ∧
        (s.inner.shouldWakeClient clientId wakeCooldown now).1 then
      s.attempts ++ [(now, clientId)]
    else s.attempts

def step (s : Waking) : WakeStep → Waking
  | .event event guildId now clientId config =>
    s.round now clientId (guildId ∈ config.guilds)
      (bufferEventForClient event guildId now s.inner clientId config)
  | .poll systemNow now clientId config =>
    s.round now clientId (isDue config systemNow)
      (scheduledWake systemNow now s.inner clientId config)
  | .connection clientId op => { s with inner := op.apply s.inner clientId }
  | .prune validClientIds => { s with inner := s.inner.pruneStaleClientState validClientIds }

/-- The times of the attempts for a client. -/
def attemptsOf (s : Waking) (c : Str) : List Nat :=
  (s.attempts.filter fun a => a.2 = c).map Prod.fst

/-- The times of the requests to a client. -/
def requestsTo (s : Waking) (c : Str) : List Nat :=
  (s.requests.filter fun r => r.2.1 = c).map Prod.fst

end Waking

open Waking

/-- What holds of a client that stays in the registry. -/
structure WakingInv (c : Str) (s : Waking) : Prop where
  last : s.inner.lastWakeAttempts.lookup c = (s.attemptsOf c).getLast?
  apart : (s.attemptsOf c).Pairwise fun a b => a + wakeCooldown ≤ b
  requests : (s.requestsTo c).Sublist (s.attemptsOf c)

/-- No attempt counts against the client exactly when each lies the cooldown back. -/
theorem WakingInv.ready_iff {c : Str} {s : Waking} (h : WakingInv c s) (now : Nat) :
    readyToWake (s.inner.lastWakeAttempts.lookup c) now = true ↔
      ∀ a ∈ s.attemptsOf c, a + wakeCooldown ≤ now := by
  rw [h.last]
  rcases List.eq_nil_or_concat (s.attemptsOf c) with hNone | ⟨earlier, last, hLast⟩
  · simp [hNone, readyToWake]
  · have hApart := h.apart
    rw [hLast, List.concat_eq_append, List.pairwise_append] at hApart
    rw [hLast, List.concat_eq_append, List.getLast?_append_of_ne_nil _ (by simp)]
    simp only [readyToWake, List.getLast?_singleton, Option.all_some, decide_eq_true_eq,
      List.mem_append, List.mem_singleton]
    constructor
    · rintro hReady a (hEarlier | rfl)
      · have := hApart.2.2 a hEarlier last (List.mem_singleton_self _)
        omega
      · exact hReady
    · exact fun hAll => hAll last (.inr rfl)

theorem wakingInv_new (c : Str) (shards : List Shard) (shardCount : Nat) :
    WakingInv c (Waking.new shards shardCount) where
  last := rfl
  apart := List.Pairwise.nil
  requests := List.Sublist.refl _

/-- A round keeps the invariant, if it does what `eventWake` and `pollWake` have
in common. -/
theorem wakingInv_round {c : Str} {s : Waking} (h : WakingInv c s) (now : Nat) (clientId : Str)
    (config : ClientConfig) (asks : Bool) (outcome : Option (Str × Str × Str) × Inner)
    (hYield : outcome.1 = if asks = true ∧ s.inner.connectionCount clientId = 0 ∧
        readyToWake (s.inner.lastWakeAttempts.lookup clientId) now then
      wakeTarget clientId config else none)
    (hLast : ∀ d, outcome.2.lastWakeAttempts.lookup d =
      if d = clientId ∧ asks = true ∧ s.inner.connectionCount clientId = 0 ∧
          readyToWake (s.inner.lastWakeAttempts.lookup clientId) now then some now
      else s.inner.lastWakeAttempts.lookup d) :
    WakingInv c (s.round now clientId asks outcome) := by
  have hAttempt : (asks = true ∧ (!s.inner.isClientConnected clientId) = true ∧
        (s.inner.shouldWakeClient clientId wakeCooldown now).1 = true) ↔
      asks = true ∧ s.inner.connectionCount clientId = 0 ∧
        readyToWake (s.inner.lastWakeAttempts.lookup clientId) now = true := by
    have hConn : (!s.inner.isClientConnected clientId) = true ↔
        s.inner.connectionCount clientId = 0 := by
      rw [Bool.not_eq_true', ← Bool.not_eq_true, isClientConnected_iff, not_not]
    rw [hConn, shouldWakeClient_eq]
    cases readyToWake (s.inner.lastWakeAttempts.lookup clientId) now <;> simp
  by_cases hCond : asks = true ∧ s.inner.connectionCount clientId = 0 ∧
      readyToWake (s.inner.lastWakeAttempts.lookup clientId) now = true
  case neg =>
    have hAttempts : (s.round now clientId asks outcome).attempts = s.attempts :=
      if_neg fun hAsked => hCond (hAttempt.mp hAsked)
    have hRequests : (s.round now clientId asks outcome).requests = s.requests := by
      show s.requests ++ outcome.1.toList.map (now, ·) = _
      rw [hYield, if_neg hCond]
      exact List.append_nil _
    refine ⟨?_, ?_, ?_⟩
    · rw [attemptsOf, hAttempts]
      exact ((hLast c).trans (if_neg fun hHere => hCond hHere.2)).trans h.last
    · rw [attemptsOf, hAttempts]
      exact h.apart
    · rw [attemptsOf, requestsTo, hAttempts, hRequests]
      exact h.requests
  have hAttempts : (s.round now clientId asks outcome).attempts =
      s.attempts ++ [(now, clientId)] := if_pos (hAttempt.mpr hCond)
  have hRequests : (s.round now clientId asks outcome).requests =
      s.requests ++ (wakeTarget clientId config).toList.map (now, ·) := by
    show s.requests ++ outcome.1.toList.map (now, ·) = _
    rw [hYield, if_pos hCond]
  by_cases hc : clientId = c
  · subst hc
    have hOf : (s.round now clientId asks outcome).attemptsOf clientId =
        s.attemptsOf clientId ++ [now] := by
      simp [attemptsOf, hAttempts, List.filter_append]
    refine ⟨?_, ?_, ?_⟩
    · rw [hOf, List.getLast?_append_of_ne_nil _ (by simp)]
      exact (hLast clientId).trans (if_pos ⟨rfl, hCond⟩)
    · rw [hOf, List.pairwise_append]
      refine ⟨h.apart, List.pairwise_singleton _ _, fun a ha b hb => ?_⟩
      rw [List.mem_singleton.mp hb]
      exact (h.ready_iff now).mp hCond.2.2 a ha
    · have hTo : (s.round now clientId asks outcome).requestsTo clientId =
          s.requestsTo clientId ++ if config.reachableUrl.isSome then [now] else [] := by
        rw [requestsTo, hRequests, List.filter_append, List.map_append]
        congr 1
        unfold wakeTarget
        cases config.reachableUrl <;> simp
      rw [hOf, hTo]
      refine h.requests.append ?_
      split
      · exact List.Sublist.refl _
      · exact List.nil_sublist _
  · have hOf : (s.round now clientId asks outcome).attemptsOf c = s.attemptsOf c := by
      simp [attemptsOf, hAttempts, List.filter_append, hc]
    have hTo : (s.round now clientId asks outcome).requestsTo c = s.requestsTo c := by
      rw [requestsTo, hRequests, List.filter_append, List.map_append]
      unfold wakeTarget
      cases config.reachableUrl <;> simp [requestsTo, hc]
    refine ⟨?_, ?_, ?_⟩
    · rw [hOf]
      exact ((hLast c).trans (if_neg fun hHere => hc hHere.1.symm)).trans h.last
    · rw [hOf]
      exact h.apart
    · rw [hOf, hTo]
      exact h.requests

theorem wakingInv_step {c : Str} {s : Waking} (h : WakingInv c s) (a : WakeStep)
    (hKept : ∀ valid, a = .prune valid → c ∈ valid) : WakingInv c (s.step a) := by
  cases a with
  | event event guildId now clientId config =>
    have hRound := bufferEventForClient_eq event guildId now s.inner clientId config
    refine wakingInv_round h now clientId config _ _ ?_ fun d => ?_
    · rw [hRound.1]
      simp only [eventWake, viewOf, decide_eq_true_eq]
      rfl
    · have hView := congrArg ClientView.lastWake (hRound.2 d)
      refine hView.trans ?_
      simp only [afterEvent, viewOf, decide_eq_true_eq]
      grind
  | poll systemNow now clientId config =>
    have hRound := scheduledWake_eq systemNow now s.inner clientId config
    refine wakingInv_round h now clientId config _ _ hRound.1 fun d => ?_
    have hView := congrArg ClientView.lastWake (hRound.2 d)
    refine hView.trans ?_
    simp only [afterPoll, viewOf]
    grind
  | connection clientId op =>
    have hSame : (op.apply s.inner clientId).lastWakeAttempts = s.inner.lastWakeAttempts := by
      cases op with
      | markConnected => rfl
      | drain => rfl
      | markDisconnected now =>
        show (s.inner.markClientDisconnected clientId now).lastWakeAttempts = _
        unfold markClientDisconnected countDisconnected
        split <;> rfl
    exact ⟨(congrArg (AList.lookup c) hSame).trans h.last, h.apart, h.requests⟩
  | prune valid =>
    refine ⟨?_, h.apart, h.requests⟩
    have hRetain : (s.inner.pruneStaleClientState valid).lastWakeAttempts.lookup c =
        s.inner.lastWakeAttempts.lookup c := by
      unfold pruneStaleClientState
      dsimp only
      rw [Map.lookup_retain, decide_eq_true (hKept valid rfl)]
      cases s.inner.lastWakeAttempts.lookup c <;> rfl
    exact hRetain.trans h.last

/-- Over any run, the requests to a client that stays in the registry are at
least the cooldown apart, whichever loop sends them. A round of either loop
sends one exactly when it is for the client, the client has a URL and no
connection, and every attempt so far lies the cooldown back. -/
theorem wakes_apart (shards : List Shard) (shardCount : Nat) (c : Str) (steps : List WakeStep)
    (hKept : ∀ valid, WakeStep.prune valid ∈ steps → c ∈ valid) (s : Waking)
    (hs : s = steps.foldl Waking.step (Waking.new shards shardCount)) :
    (s.requestsTo c).Pairwise (fun a b => a + wakeCooldown ≤ b) ∧
      (s.requestsTo c).Sublist (s.attemptsOf c) ∧
      (∀ event guildId now config,
        (bufferEventForClient event guildId now s.inner c config).1 =
          if guildId ∈ config.guilds ∧ s.inner.connectionCount c = 0 ∧
              ∀ a ∈ s.attemptsOf c, a + wakeCooldown ≤ now then wakeTarget c config
          else none) ∧
      ∀ systemNow now config,
        (scheduledWake systemNow now s.inner c config).1 =
          if isDue config systemNow ∧ s.inner.connectionCount c = 0 ∧
              ∀ a ∈ s.attemptsOf c, a + wakeCooldown ≤ now then wakeTarget c config
          else none := by
  have hInv : WakingInv c s := by
    rw [hs]
    refine List.foldlRecOn steps Waking.step (wakingInv_new c shards shardCount) ?_
    rintro s hInv a ha
    exact wakingInv_step hInv a fun valid hPrune => hKept valid (hPrune ▸ ha)
  refine ⟨hInv.apart.sublist hInv.requests, hInv.requests, ?_, ?_⟩
  · intro event guildId now config
    rw [(bufferEventForClient_eq event guildId now s.inner c config).1, eventWake]
    simp only [viewOf, hInv.ready_iff]
  · intro systemNow now config
    rw [(scheduledWake_eq systemNow now s.inner c config).1, pollWake]
    simp only [viewOf, hInv.ready_iff]

/-- Two events eleven seconds apart, with the poll in between. -/
theorem wakes_apart_twice :
    let config : ClientConfig :=
      ⟨"x".toList, ({7} : Finset Nat), some "https://k/".toList, some 40000⟩
    let event : BufferedClientEvent := ⟨[], none, some 7, by decide⟩
    let steps : List WakeStep :=
      [.event event 7 1000 "a".toList config, .prune ({"a".toList} : Finset Str),
        .poll 20000 9000 "a".toList config, .event event 7 12000 "a".toList config]
    (steps.foldl Waking.step (Waking.new [] 1)).requestsTo "a".toList = [1000, 12000] ∧
      ((steps.foldl Waking.step (Waking.new [] 1)).requestsTo "a".toList).Pairwise
        fun a b => a + wakeCooldown ≤ b := by
  intro config event steps
  refine ⟨by decide, (wakes_apart [] 1 "a".toList steps ?_ _ rfl).1⟩
  simp [steps]

end GatewayProxy
