import Mathlib.Data.Finset.Basic
import GatewayProxy.Lib.Assoc
import GatewayProxy.Lib.Utf8

/-!
# The client registry and token authentication

`config.rs`, the lookups and the authentication of `db_config.rs`, and
`auth.rs`. The registry `CLIENTS` maps a client id to its secret and guilds;
it is passed explicitly, since every function reads the value it has at that
moment. A token is either `client_id:secret` or the bot token. While the
database is the source of the registry, an unknown client is rejected for
good (`invalid`) only when the registry is known to be fresh.

A lock of the registry is never poisoned: a panic aborts the process.
-/

namespace GatewayProxy

open Utf8 Assoc

/-- The fields of `CONFIG` that the modelled functions read. -/
structure Config where
  token : Str
  validateToken : Bool
  /-- `cache.voice_states` -/
  voiceStates : Bool
  externallyAccessibleUrl : Str
  twilightHttpProxy : Option Str
  deriving DecidableEq

structure ClientConfig where
  secret : Str
  guilds : Finset Nat
  reachableUrl : Option Str
  nextWakeAt : Option Nat
  deriving DecidableEq

/-- The contents of `CLIENTS`. -/
abbrev Clients := Map Str ClientConfig

-- ---------------------------------------------------------------------------
-- Freshness of the registry
-- ---------------------------------------------------------------------------

def clientDataStaleAfterSecs : Nat := 120

inductive ClientDataState
  | noDatabase
  | neverSynced
  | fresh
  | stale
  deriving DecidableEq

/-- `databaseUrl`: one of the two variables is set. `lastSuccess` is
`LAST_SUCCESSFUL_SYNC_UNIX_SECS`; `now` is none when the clock is before the
epoch. -/
def clientDataState (databaseUrl : Bool) (lastSuccess : Nat) (now : Option Nat) :
    ClientDataState :=
  if !databaseUrl then .noDatabase
  else if lastSuccess = 0 then .neverSynced
  else match now with
    | none => .fresh
    | some nowSecs =>
      if clientDataStaleAfterSecs < nowSecs - lastSuccess then .stale else .fresh

inductive ClientAuthResult
  | ok (clientId : Str) (guilds : Finset Nat)
  | stale
  | invalid
  deriving DecidableEq

def unverified : ClientDataState → ClientAuthResult
  | .neverSynced | .stale => .stale
  | .noDatabase | .fresh => .invalid

-- ---------------------------------------------------------------------------
-- Lookups
-- ---------------------------------------------------------------------------

def clientGuilds (clients : Clients) (clientId : Str) : Option (Finset Nat) :=
  (clients.lookup clientId).map ClientConfig.guilds

def clientHasGuild (clients : Clients) (clientId : Str) (guildId : Nat) : Bool :=
  match clients.lookup clientId with
  | some client => guildId ∈ client.guilds
  | none => false

/-- A client has a guild exactly when its current guilds contain it. -/
theorem clientHasGuild_iff {clients : Clients} {clientId : Str} {guildId : Nat} :
    clientHasGuild clients clientId guildId = true ↔
      guildId ∈ (clientGuilds clients clientId).getD ∅ := by
  unfold clientHasGuild clientGuilds
  cases clients.lookup clientId <;> simp

-- ---------------------------------------------------------------------------
-- Authentication
-- ---------------------------------------------------------------------------

def authenticateClientWithId (clients : Clients) (state : ClientDataState) (token : Str) :
    ClientAuthResult :=
  match splitOnce ':' token with
  -- not a client_id:secret token, for example the raw bot token
  | none => .invalid
  | some (clientId, secret) =>
    if state = .stale then .stale
    else match clients.lookup clientId with
      | some client =>
        if client.secret = secret then .ok clientId client.guilds else unverified state
      | none => unverified state

inductive SessionPrincipal
  | botToken
  | client (clientId : Str)
  | unvalidated (token : Str)
  deriving DecidableEq

/-- `Some` for a tenant. -/
def SessionPrincipal.clientId : SessionPrincipal → Option Str
  | .client clientId => some clientId
  | _ => none

structure AuthContext where
  principal : SessionPrincipal
  authorizedGuilds : Option (Finset Nat)
  deriving DecidableEq

def normalizeGatewayToken (token : Str) : Str :=
  (splitWhitespace token).getLast?.getD []

inductive GatewayAuthResult
  | ok (ctx : AuthContext)
  | stale
  | invalid
  deriving DecidableEq

def authenticateGatewayToken (cfg : Config) (clients : Clients) (state : ClientDataState)
    (token : Str) : GatewayAuthResult :=
  match authenticateClientWithId clients state token with
  | .ok clientId guilds => .ok ⟨.client clientId, some guilds⟩
  | .stale => .stale
  | .invalid =>
    if token = cfg.token then .ok ⟨.botToken, none⟩
    else if cfg.validateToken then .invalid
    else .ok ⟨.unvalidated token, none⟩

/-- A client principal comes with the guilds the registry holds for it. -/
theorem authenticateGatewayToken_client {cfg : Config} {clients : Clients}
    {state : ClientDataState} {token : Str} {ctx : AuthContext} {clientId : Str}
    (hAuth : authenticateGatewayToken cfg clients state token = .ok ctx)
    (hClient : ctx.principal = .client clientId) :
    ∃ guilds, ctx.authorizedGuilds = some guilds ∧
      clientGuilds clients clientId = some guilds := by
  unfold authenticateGatewayToken at hAuth
  cases hId : authenticateClientWithId clients state token with
  | ok id guilds =>
    rw [hId] at hAuth
    simp only [GatewayAuthResult.ok.injEq] at hAuth
    subst hAuth
    simp only [SessionPrincipal.client.injEq] at hClient
    subst hClient
    refine ⟨guilds, rfl, ?_⟩
    unfold authenticateClientWithId at hId
    cases hSplit : splitOnce ':' token with
    | none =>
      rw [hSplit] at hId
      simp at hId
    | some pair =>
      rw [hSplit] at hId
      dsimp only at hId
      split at hId
      · simp at hId
      · split at hId
        · rename_i client hLookup
          split at hId
          · simp only [ClientAuthResult.ok.injEq] at hId
            rw [clientGuilds, ← hId.1, hLookup, Option.map_some, hId.2]
          · cases state <;> simp [unverified] at hId
        · cases state <;> simp [unverified] at hId
  | stale =>
    rw [hId] at hAuth
    simp at hAuth
  | invalid =>
    rw [hId] at hAuth
    dsimp only at hAuth
    split at hAuth
    · simp only [GatewayAuthResult.ok.injEq] at hAuth
      subst hAuth
      simp at hClient
    · split at hAuth
      · simp at hAuth
      · simp only [GatewayAuthResult.ok.injEq] at hAuth
        subst hAuth
        simp at hClient

end GatewayProxy
