import GatewayProxy.Gateway.Connection

/-!
# A tenant's connection is confined to its own guilds

A whole run of one connection: any inputs, each with any shared state, registry
and voice owners. A connection is `Fresh` until an IDENTIFY or RESUME succeeds,
and from then on `Serves` one principal; a round that would leave `Serves` ends
the loop, so what the RESUME arm writes over the scope is never acted upon.

Main results:

* `fresh_step`, `serves_step`: what one round does to the two states.
* `serves_run`: once a tenant's, every round acts only for the tenant.
* `tenant_commands_confined`: from a new connection, over whole runs, what goes
  upstream is the tenant's.
-/

namespace GatewayProxy

open Utf8 Assoc GatewayProxy.Inner

/-- One round with the locals before it and the reply. -/
structure Handled where
  conn : Conn
  turn : Turn
  reply : Reply

/-- The rounds of a connection, up to and including the one that ends it. -/
def serve (cfg : Config) (lib : JsonLib) : Conn → List Turn → List Handled
  | _, [] => []
  | conn, turn :: turns =>
    let reply := handleInput cfg lib turn.env conn turn.inner turn.input
    ⟨conn, turn, reply⟩ :: if reply.flow = .next then serve cfg lib reply.conn turns else []

/-- The round is a successful IDENTIFY or RESUME of the principal. -/
def Handled.AuthenticatesAs (cfg : Config) (lib : JsonLib) (h : Handled)
    (principal : SessionPrincipal) : Prop :=
  Credentials cfg lib h.turn principal ∧
    ∃ task, Effect.spawnForward task ∈ h.reply.effects ∧ task.clientId = principal.clientId

/-- The round acts for the tenant alone: it sends upstream nothing but the
tenant's confined commands, starts nothing, changes voice owners only by the
tenant's own claim, and leaves the connection to the tenant. -/
structure Handled.ActsOnlyFor (cfg : Config) (lib : JsonLib) (h : Handled) (clientId : Str) :
    Prop where
  upstream : ∀ shardId command, Effect.upstream shardId command ∈ h.reply.effects →
    ConfinedCommand cfg lib h.turn h.reply.inner clientId shardId command
  effects : ∀ effect ∈ h.reply.effects,
    effect.isLocal = true ∨ ∃ shardId command, effect = .upstream shardId command
  owners : OwnersClaimedBy cfg h.turn.inner h.reply.inner clientId
  scope : h.reply.flow = .next →
    h.reply.conn.commandScope = some clientId ∧ h.reply.conn.activeClientId = some clientId

/-- The number of forward tasks that a run starts. -/
def spawns (run : List Handled) : Nat :=
  (run.flatMap fun h => h.reply.effects).countP Effect.isSpawn

-- ---------------------------------------------------------------------------
-- The two states of a connection
-- ---------------------------------------------------------------------------

/-- No IDENTIFY or RESUME succeeded yet. -/
structure Conn.Fresh (conn : Conn) : Prop where
  compressPending : conn.compressPending = true
  shardSender : conn.shardSender = none
  activeClientId : conn.activeClientId = none

/-- The connection belongs to a principal; `clientId` is some for a tenant. -/
structure Conn.Serves (conn : Conn) (clientId : Option Str) : Prop where
  compressPending : conn.compressPending = false
  activeClientId : conn.activeClientId = clientId
  commandScope : conn.commandScope = clientId

theorem Conn.new_fresh : Conn.new.Fresh := ⟨rfl, rfl, rfl⟩

section Rounds

variable {cfg : Config} {lib : JsonLib} {conn : Conn} {turn : Turn}

theorem isSpawn_of_isLocal {effect : Effect} (h : effect.isLocal = true) :
    effect.isSpawn = false := by
  cases effect with
  | spawnForward task => simp [Effect.isLocal] at h
  | _ => rfl

theorem isSpawn_of_isLeave {effect : Effect} (h : effect.isLeave = true) :
    effect.isSpawn = false := by
  cases effect with
  | spawnForward task => simp [Effect.isLeave, Effect.isLocal] at h
  | _ => rfl

theorem countP_isSpawn_eq_zero {effects : List Effect}
    (h : ∀ effect ∈ effects, effect.isSpawn = false) : effects.countP Effect.isSpawn = 0 := by
  rw [List.countP_eq_zero]
  intro effect hMem
  simp [h effect hMem]

/-- A fresh connection sends nothing upstream. It stays fresh and starts
nothing, or comes to serve the principal whose task it starts. -/
theorem fresh_step {reply : Reply} (hFresh : conn.Fresh)
    (hHandles : Handles cfg lib turn conn reply) :
    (∀ shardId command, Effect.upstream shardId command ∉ reply.effects) ∧
    (((∀ effect ∈ reply.effects, effect.isSpawn = false) ∧
        (reply.flow = .next → reply.conn.Fresh)) ∨
      ∃ principal task leaves compress, Credentials cfg lib turn principal ∧
        task.clientId = principal.clientId ∧ reply.conn.Serves principal.clientId ∧
        reply.effects = leaves ++ [.spawnForward task, .compression compress] ∧
        ∀ effect ∈ leaves, effect.isLeave = true) := by
  cases hHandles with
  | quiet hAuthority hEffects hOwners =>
    refine ⟨fun shardId command hMem => ?_, .inl ⟨?_, ?_⟩⟩
    · have hLocal := hEffects _ hMem
      simp [Effect.isLocal] at hLocal
    · exact fun effect hMem => isSpawn_of_isLocal (hEffects effect hMem)
    · intro _
      exact ⟨hAuthority.compressPending.trans hFresh.compressPending,
        hAuthority.shardSender.trans hFresh.shardSender,
        hAuthority.activeClientId.trans hFresh.activeClientId⟩
  | accepts principal task leaves compress hPending hCredentials hTask hSender hScope hActive
      hDone hEffects hLeaves hFlow =>
    refine ⟨fun shardId command hMem => ?_,
      .inr ⟨principal, task, leaves, compress, hCredentials, hTask, ?_, hEffects, hLeaves⟩⟩
    · rw [hEffects, List.mem_append] at hMem
      rcases hMem with hMem | hMem
      · have hLeave := hLeaves _ hMem
        simp [Effect.isLeave, Effect.isLocal] at hLeave
      · simp at hMem
    · refine ⟨hDone, ?_, hScope⟩
      rw [hActive, hFresh.activeClientId]
      rfl
  | ends hFlow hEffects hLocal hLeaves hOwners =>
    refine ⟨fun shardId command hMem => ?_, .inl ⟨?_, fun hNext => absurd hNext hFlow⟩⟩
    · have hLeave := hEffects _ hMem
      simp [Effect.isLeave, Effect.isLocal] at hLeave
    · exact fun effect hMem => isSpawn_of_isLeave (hEffects effect hMem)
  | direct hSender hScope => exact absurd (hFresh.shardSender.symm.trans hSender) (by simp)
  | command hSender hScope hCommand hOwners =>
    exact absurd (hFresh.shardSender.symm.trans hSender) (by simp)

/-- A connection that serves a principal starts no task and goes on serving it. -/
theorem serves_step {reply : Reply} {clientId : Option Str} (hServes : conn.Serves clientId)
    (hHandles : Handles cfg lib turn conn reply) :
    (∀ effect ∈ reply.effects, effect.isSpawn = false) ∧
      (reply.flow = .next → reply.conn.Serves clientId) := by
  cases hHandles with
  | quiet hAuthority hEffects hOwners =>
    refine ⟨fun effect hMem => isSpawn_of_isLocal (hEffects effect hMem), fun _ => ?_⟩
    exact ⟨hAuthority.compressPending.trans hServes.compressPending,
      hAuthority.activeClientId.trans hServes.activeClientId,
      hAuthority.commandScope.trans hServes.commandScope⟩
  | accepts _ _ _ _ hPending =>
    exact absurd (hPending.symm.trans hServes.compressPending) (by simp)
  | ends hFlow hEffects hLocal hLeaves hOwners =>
    exact ⟨fun effect hMem => isSpawn_of_isLeave (hEffects effect hMem),
      fun hNext => absurd hNext hFlow⟩
  | direct hSender hScope => exact ⟨by simp [Effect.isSpawn], fun _ => hServes⟩
  | command hSender hScope hCommand hOwners =>
    exact ⟨by simp [Effect.isSpawn], fun _ => hServes⟩

/-- A round of a tenant's connection acts only for the tenant. -/
theorem actsOnlyFor_step {reply : Reply} {clientId : Str} (hServes : conn.Serves (some clientId))
    (hHandles : Handles cfg lib turn conn reply) :
    (Handled.mk conn turn reply).ActsOnlyFor cfg lib clientId := by
  have hNext := (serves_step hServes hHandles).2
  have hScopeNext : reply.flow = .next →
      reply.conn.commandScope = some clientId ∧ reply.conn.activeClientId = some clientId :=
    fun hFlow => ⟨(hNext hFlow).commandScope, (hNext hFlow).activeClientId⟩
  cases hHandles with
  | quiet hAuthority hEffects hOwners =>
    refine ⟨fun shardId command hMem => ?_, fun effect hMem => .inl (hEffects effect hMem),
      hOwners clientId hServes.commandScope, hScopeNext⟩
    have hLocal := hEffects _ hMem
    simp [Effect.isLocal] at hLocal
  | accepts _ _ _ _ hPending =>
    exact absurd (hPending.symm.trans hServes.compressPending) (by simp)
  | ends hFlow hEffects hLocal hLeaves hOwners =>
    have hLocals := hLocal hServes.compressPending
    have hSame := hOwners hServes.compressPending (by rw [hServes.activeClientId]; rfl)
    refine ⟨fun shardId command hMem => ?_, fun effect hMem => .inl (hLocals effect hMem),
      ⟨hSame.activeClientConnections, .inl hSame.voiceOwners⟩, hScopeNext⟩
    have hOne := hLocals _ hMem
    simp [Effect.isLocal] at hOne
  | direct hSender hScope => exact absurd (hScope.symm.trans hServes.commandScope) (by simp)
  | command hSender hScope hCommand hOwners =>
    obtain rfl := Option.some.inj (hScope.symm.trans hServes.commandScope)
    refine ⟨fun shardId command hMem => ?_, fun effect hMem => .inr ?_, hOwners, hScopeNext⟩
    · rw [List.mem_singleton, Effect.upstream.injEq] at hMem
      obtain ⟨rfl, rfl⟩ := hMem
      exact hCommand
    · exact ⟨_, _, List.mem_singleton.mp hMem⟩

-- ---------------------------------------------------------------------------
-- Whole runs
-- ---------------------------------------------------------------------------

theorem serves_run_spawn {clientId : Option Str} {turns : List Turn} {h : Handled}
    (hServes : conn.Serves clientId) (hMem : h ∈ serve cfg lib conn turns) :
    ∀ effect ∈ h.reply.effects, effect.isSpawn = false := by
  induction turns generalizing conn with
  | nil => simp [serve] at hMem
  | cons turn turns ih =>
    obtain ⟨hSpawn, hNext⟩ := serves_step hServes (handles_input cfg lib turn conn)
    rw [serve, List.mem_cons] at hMem
    rcases hMem with rfl | hMem
    · exact hSpawn
    · split at hMem
      · rename_i hFlow
        exact ih (hNext hFlow) hMem
      · simp at hMem

/-- Once a tenant's, every round acts only for the tenant. -/
theorem serves_run {clientId : Str} {turns : List Turn} {h : Handled}
    (hServes : conn.Serves (some clientId)) (hMem : h ∈ serve cfg lib conn turns) :
    h.ActsOnlyFor cfg lib clientId := by
  induction turns generalizing conn with
  | nil => simp [serve] at hMem
  | cons turn turns ih =>
    have hHandles := handles_input cfg lib turn conn
    rw [serve, List.mem_cons] at hMem
    rcases hMem with rfl | hMem
    · exact actsOnlyFor_step hServes hHandles
    · split at hMem
      · rename_i hFlow
        exact ih ((serves_step hServes hHandles).2 hFlow) hMem
      · simp at hMem

theorem spawns_cons (h : Handled) (run : List Handled) :
    spawns (h :: run) = h.reply.effects.countP Effect.isSpawn + spawns run := by
  rw [spawns, List.flatMap_cons, List.countP_append, spawns]

theorem serves_run_spawns {clientId : Option Str} {turns : List Turn}
    (hServes : conn.Serves clientId) : spawns (serve cfg lib conn turns) = 0 := by
  apply countP_isSpawn_eq_zero
  intro effect hMem
  obtain ⟨h, hRun, hEffect⟩ := List.mem_flatMap.mp hMem
  exact serves_run_spawn hServes hRun effect hEffect

theorem fresh_run_spawns {turns : List Turn} (hFresh : conn.Fresh) :
    spawns (serve cfg lib conn turns) ≤ 1 := by
  induction turns generalizing conn with
  | nil => simp [serve, spawns]
  | cons turn turns ih =>
    obtain ⟨-, hStep⟩ := fresh_step hFresh (handles_input cfg lib turn conn)
    rw [serve, spawns_cons]
    rcases hStep with ⟨hSpawn, hNext⟩ |
      ⟨principal, task, leaves, compress, -, -, hServes, hEffects, hLeaves⟩
    · rw [countP_isSpawn_eq_zero hSpawn, Nat.zero_add]
      split
      · rename_i hFlow
        exact ih (hNext hFlow)
      · simp [spawns]
    · have hLeavesZero : leaves.countP Effect.isSpawn = 0 :=
        countP_isSpawn_eq_zero fun effect hMem => isSpawn_of_isLeave (hLeaves effect hMem)
      have hOne : (handleInput cfg lib turn.env conn turn.inner turn.input).effects.countP
          Effect.isSpawn = 1 := by
        rw [hEffects, List.countP_append, hLeavesZero]
        rfl
      rw [hOne]
      split
      · rw [serves_run_spawns hServes]
      · simp [spawns]

/-- What a round may do, given the rounds before it. -/
def Confined (cfg : Config) (lib : JsonLib) (before : List Handled) (h : Handled) : Prop :=
  ((∃ shardId command, Effect.upstream shardId command ∈ h.reply.effects) →
    ∃ a ∈ before, ∃ principal, a.AuthenticatesAs cfg lib principal) ∧
  ∀ a ∈ before, ∀ clientId, a.AuthenticatesAs cfg lib (.client clientId) →
    h.ActsOnlyFor cfg lib clientId

theorem fresh_run_confined {turns : List Turn} {before after : List Handled} {h : Handled}
    (hFresh : conn.Fresh) (hRun : serve cfg lib conn turns = before ++ h :: after) :
    Confined cfg lib before h := by
  induction turns generalizing conn before with
  | nil => simp [serve] at hRun
  | cons turn turns ih =>
    obtain ⟨hUpstream, hStep⟩ :=
      fresh_step hFresh (handles_input cfg lib turn conn)
    rw [serve] at hRun
    cases before with
    | nil =>
      rw [List.nil_append, List.cons.injEq] at hRun
      obtain ⟨rfl, -⟩ := hRun
      refine ⟨?_, by simp⟩
      rintro ⟨shardId, command, hMem⟩
      exact absurd hMem (hUpstream shardId command)
    | cons first before =>
      rw [List.cons_append, List.cons.injEq] at hRun
      obtain ⟨rfl, hRest⟩ := hRun
      split at hRest
      · rename_i hFlow
        rcases hStep with ⟨hSpawn, hNext⟩ |
            ⟨principal, task, leaves, compress, hCredentials, hTask, hServes, hEffects, hLeaves⟩
        · -- the first round left the connection fresh, so it authenticated nobody
          obtain ⟨hAfter, hActs⟩ := ih (hNext hFlow) hRest
          refine ⟨fun hSent => ?_, fun a hMem clientId hAuth => ?_⟩
          · obtain ⟨a, hMem, hAuth⟩ := hAfter hSent
            exact ⟨a, List.mem_cons_of_mem _ hMem, hAuth⟩
          · rcases List.mem_cons.mp hMem with rfl | hMem
            · obtain ⟨-, task, hTask, -⟩ := hAuth
              simp [Effect.isSpawn] at hSpawn
              exact absurd (hSpawn _ hTask) (by simp)
            · exact hActs a hMem clientId hAuth
        · -- the first round authenticated the principal, and nobody comes after it
          have hSpawned : ∀ task', Effect.spawnForward task' ∈
              (handleInput cfg lib turn.env conn turn.inner turn.input).effects → task' = task := by
            intro task' hMem
            rw [hEffects, List.mem_append] at hMem
            rcases hMem with hMem | hMem
            · have hLeave := hLeaves _ hMem
              simp [Effect.isLeave, Effect.isLocal] at hLeave
            · simpa using hMem
          refine ⟨fun _ => ?_, fun a hMem clientId hAuth => ?_⟩
          · refine ⟨_, List.mem_cons_self .., principal, hCredentials, task, ?_, hTask⟩
            show Effect.spawnForward task ∈ _
            rw [hEffects]
            simp
          · obtain ⟨-, task', hTask', hClient⟩ := hAuth
            rcases List.mem_cons.mp hMem with rfl | hMem
            · rw [hSpawned task' hTask', hTask] at hClient
              rw [hClient] at hServes
              exact serves_run hServes (hRest ▸ List.mem_append_right _ (List.mem_cons_self ..))
            · have hNoSpawn := serves_run_spawn hServes
                (hRest ▸ List.mem_append_left _ hMem) _ hTask'
              simp [Effect.isSpawn] at hNoSpawn
      · simp at hRest

/-- Every round of a run is one of the five kinds. -/
theorem handles_of_mem {turns : List Turn} {h : Handled} (hMem : h ∈ serve cfg lib conn turns) :
    Handles cfg lib h.turn h.conn h.reply := by
  induction turns generalizing conn with
  | nil => simp [serve] at hMem
  | cons turn turns ih =>
    rw [serve, List.mem_cons] at hMem
    rcases hMem with rfl | hMem
    · exact handles_input ..
    · split at hMem
      · exact ih hMem
      · simp at hMem

/-- The proxy leaves a call for a client only in a round whose credentials hold. -/
theorem leave_needs_credentials {reply : Reply} {guildId : Nat} {sent : Option (Nat × Str)}
    (hHandles : Handles cfg lib turn conn reply)
    (hMem : Effect.voiceLeave guildId sent ∈ reply.effects) :
    ∃ principal, Credentials cfg lib turn principal := by
  cases hHandles with
  | quiet hAuthority hEffects hOwners =>
    have hLocal := hEffects _ hMem
    simp [Effect.isLocal] at hLocal
  | accepts principal _ _ _ _ hCredentials => exact ⟨principal, hCredentials⟩
  | ends hFlow hEffects hLocal hLeaves hOwners => exact hLeaves ⟨_, hMem, rfl⟩
  | direct hSender hScope => simp at hMem
  | command hSender hScope hCommand hOwners => simp at hMem

end Rounds

/-- **Tenant command confinement.** In every run of a new connection: nothing
goes upstream before a successful IDENTIFY or RESUME; after one of tenant
`clientId`, every round acts only for that tenant; the proxy's own voice leaves
need valid credentials; and the run starts at most one forward task. -/
theorem tenant_commands_confined (cfg : Config) (lib : JsonLib) (turns : List Turn) :
    (∀ before h after, serve cfg lib Conn.new turns = before ++ h :: after →
      Confined cfg lib before h) ∧
    (∀ h ∈ serve cfg lib Conn.new turns, ∀ guildId sent,
      Effect.voiceLeave guildId sent ∈ h.reply.effects →
        ∃ principal, Credentials cfg lib h.turn principal) ∧
    spawns (serve cfg lib Conn.new turns) ≤ 1 :=
  ⟨fun _ _ _ hRun => fresh_run_confined Conn.new_fresh hRun,
    fun _ hMem _ _ hLeave => leave_needs_credentials (handles_of_mem hMem) hLeave,
    fresh_run_spawns Conn.new_fresh⟩

-- ---------------------------------------------------------------------------
-- A run of a tenant
-- ---------------------------------------------------------------------------

namespace Sample

def config : Config := ⟨"bot".toList, true, true, "ws://proxy".toList, none⟩

/-- Client `c` with secret `s` and guild 7. -/
def clients : Clients := (∅ : Clients).insert "c".toList ⟨"s".toList, {7}, none, none⟩

def env : Env := ⟨clients, .noDatabase, 0, ["session".toList]⟩

/-- One shard with the given id, of two. -/
def inner (shardIds : List Nat) (shardCount : Nat) : Inner :=
  Inner.new (shardIds.map fun id => ⟨id, none, ⟨[], [], []⟩⟩) shardCount

def identify (shard : Nat × Nat) : Str :=
  "\x7b\"op\":2,\"d\":\x7b\"token\":\"c:s\",\"shard\":[".toList ++
    formatNat shard.1 ++ ',' :: formatNat shard.2 ++ "]\x7d\x7d".toList

def requestMembers : Str :=
  "\x7b\"op\":8,\"d\":\x7b\"guild_id\":\"7\",\"limit\":0\x7d\x7d".toList

def membersOfSeven : RequestGuildMembersInfo := ⟨"7".toList, none, some 0, none, none, none⟩

/-- The JSON library on the IDENTIFY of one shard and on the request above. -/
def lib (shard : Nat × Nat) : JsonLib where
  parseIdentify text := if text = identify shard then some ⟨none, shard, "c:s".toList⟩ else none
  parseResume _ := none
  parseRequestGuildMembers text := if text = requestMembers then some membersOfSeven else none
  parseVoiceStateUpdate _ := none
  parseVoiceStateEvent _ := none
  parseKeys _ := none
  objectGuildId _ := none
  requestGuildMembersToString command :=
    if command = ⟨8, membersOfSeven⟩ then some requestMembers else none
  voiceStateUpdateToString _ := none

def turns : List Turn :=
  [⟨inner [0] 1, env, .text (identify (0, 1))⟩, ⟨inner [0] 1, env, .text requestMembers⟩]

def forwardTask : ForwardTask := ⟨"session".toList, 0, true, 0, some {7}, some "c".toList⟩

end Sample

/-- The client identifies and requests members: the request goes upstream, and
it is the client's confined command. -/
theorem tenant_commands_confined_members :
    ∃ first second, serve Sample.config (Sample.lib (0, 1)) Conn.new Sample.turns =
        [first] ++ second :: [] ∧
      first.reply.effects = [.spawnForward Sample.forwardTask, .compression none] ∧
      second.reply.effects = [.upstream 0 Sample.requestMembers] ∧
      Confined Sample.config (Sample.lib (0, 1)) [first] second := by
  have hEffects : (serve Sample.config (Sample.lib (0, 1)) Conn.new Sample.turns).map
      (fun h => h.reply.effects) = [[.spawnForward Sample.forwardTask, .compression none],
        [.upstream 0 Sample.requestMembers]] := by
    decide +kernel
  obtain ⟨first, rest, hRun, hFirst, hRest⟩ := List.map_eq_cons_iff.mp hEffects
  obtain ⟨second, rest, rfl, hSecond, hNil⟩ := List.map_eq_cons_iff.mp hRest
  obtain rfl := List.map_eq_nil_iff.mp hNil
  refine ⟨first, second, hRun, hFirst, hSecond, ?_⟩
  exact (tenant_commands_confined _ _ _).1 [first] second [] hRun

end GatewayProxy
