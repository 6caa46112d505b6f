import GatewayProxy.Gateway.Accounting
import GatewayProxy.Gateway.SessionLife
import GatewayProxy.Gateway.Wakes

/-!
# What others cannot do to a tenant

All tenants share one state. `Undisturbed` says what it keeps for a tenant: its
connection count, offline buffer, last wake attempt and command window, the
guilds in which it wants voice, and its sessions, which others can only keep
alive longer. A session id is no secret from the registry's point of view: a
RESUME by someone else touches the session before it is rejected.

Main results:

* `handleInput_undisturbed`: a round of a connection without the tenant's
  credentials.
* `tenant_undisturbed`: any run of other connections and of the proxy's own tasks.
-/

namespace GatewayProxy

open Utf8 Assoc GatewayProxy.Inner Runs

/-- What the state holds for tenant `b` is the same before and after. Sessions
are followed as long as they were used `since` a moment. -/
structure Undisturbed (b : Str) (since : Nat) (inner inner' : Inner) : Prop where
  view : inner'.viewOf b = inner.viewOf b
  window : inner'.clientCommandWindows.lookup b = inner.clientCommandWindows.lookup b
  owned : ∀ g owner, inner.voiceOwners.lookup g = some owner → owner.clientId = b →
    owner.wantsVoice = true → inner'.voiceOwners.lookup g = some owner
  notGained : ∀ g owner, inner'.voiceOwners.lookup g = some owner → owner.clientId = b →
    inner.voiceOwners.lookup g = some owner
  session : ∀ id session, inner.sessions.lookup id = some session →
    session.principal = .client b → since ≤ session.lastAccessed →
    ∃ t, since ≤ t ∧ inner'.sessions.lookup id = some { session with lastAccessed := t }
  noSession : ∀ id session, inner'.sessions.lookup id = some session →
    session.principal = .client b →
    ∃ t, inner.sessions.lookup id = some { session with lastAccessed := t }

namespace Undisturbed

variable {b : Str} {since : Nat} {inner inner' inner'' : Inner}

theorem refl (b : Str) (since : Nat) (inner : Inner) : Undisturbed b since inner inner where
  view := rfl
  window := rfl
  owned := fun _ _ h _ _ => h
  notGained := fun _ _ h _ => h
  session := fun _ session h _ hSince => ⟨session.lastAccessed, hSince, h⟩
  noSession := fun _ session h _ => ⟨session.lastAccessed, h⟩

theorem trans (h : Undisturbed b since inner inner') (h' : Undisturbed b since inner' inner'') :
    Undisturbed b since inner inner'' where
  view := h'.view.trans h.view
  window := h'.window.trans h.window
  owned := fun g owner hOwner hId hWants =>
    h'.owned g owner (h.owned g owner hOwner hId hWants) hId hWants
  notGained := fun g owner hOwner hId => h.notGained g owner (h'.notGained g owner hOwner hId) hId
  session := by
    intro id session hFound hPrincipal hSince
    obtain ⟨t, ht, hFound'⟩ := h.session id session hFound hPrincipal hSince
    exact h'.session id { session with lastAccessed := t } hFound' hPrincipal ht
  noSession := by
    intro id session hFound hPrincipal
    obtain ⟨t, hFound'⟩ := h'.noSession id session hFound hPrincipal
    exact h.noSession id { session with lastAccessed := t } hFound' hPrincipal

/-- A change of the voice owners only. -/
theorem of_voice {owners : Map Nat VoiceOwner}
    (hOwned : ∀ g owner, inner.voiceOwners.lookup g = some owner → owner.clientId = b →
      owner.wantsVoice = true → owners.lookup g = some owner)
    (hNotGained : ∀ g owner, owners.lookup g = some owner → owner.clientId = b →
      inner.voiceOwners.lookup g = some owner) :
    Undisturbed b since inner { inner with voiceOwners := owners } where
  view := rfl
  window := rfl
  owned := hOwned
  notGained := hNotGained
  session := (refl b since inner).session
  noSession := (refl b since inner).noSession

/-- A change of the owners that are not the tenant's, in place. -/
theorem of_mapVals {f : Nat → VoiceOwner → VoiceOwner} (hSame : ∀ g owner, owner.clientId = b →
      f g owner = owner) (hKeeps : ∀ g owner, (f g owner).clientId = owner.clientId) :
    Undisturbed b since inner { inner with voiceOwners := inner.voiceOwners.mapVals f } := by
  refine of_voice (fun g owner hOwner hId _ => ?_) fun g owner hOwner hId => ?_
  · rw [Map.lookup_mapVals, hOwner, Option.map_some, hSame g owner hId]
  · rw [Map.lookup_mapVals] at hOwner
    obtain ⟨before, hBefore, rfl⟩ := Option.map_eq_some_iff.mp hOwner
    rw [hKeeps] at hId
    rw [hBefore, hSame g before hId]

end Undisturbed

-- ---------------------------------------------------------------------------
-- The operations on the shared state
-- ---------------------------------------------------------------------------

section Operations

variable {b a : Str} {since now : Nat} {inner : Inner}

theorem undisturbed_setVoiceOwnerDisconnected (hOther : a ≠ b) (at? : Option Nat) :
    Undisturbed b since inner (inner.setVoiceOwnerDisconnected a at?) := by
  refine Undisturbed.of_mapVals (fun g owner hId => if_neg fun h => hOther ?_) fun g owner => ?_
  · exact h.symm.trans hId
  · split <;> rfl

theorem undisturbed_countConnected (hOther : a ≠ b) :
    Undisturbed b since inner (inner.countConnected a) where
  view := by
    unfold viewOf
    rw [connectionCount_countConnected, if_neg hOther.symm]
    rfl
  window := rfl
  owned := fun _ _ h _ _ => h
  notGained := fun _ _ h _ => h
  session := (Undisturbed.refl b since inner).session
  noSession := (Undisturbed.refl b since inner).noSession

theorem undisturbed_countDisconnected (hOther : a ≠ b) :
    Undisturbed b since inner (inner.countDisconnected a) := by
  have hRest : ∃ counts, inner.countDisconnected a =
      { inner with activeClientConnections := counts } := by
    unfold countDisconnected
    split <;> exact ⟨_, rfl⟩
  have hCount : (inner.countDisconnected a).connectionCount b = inner.connectionCount b := by
    rw [connectionCount_countDisconnected, if_neg hOther.symm]
  obtain ⟨counts, hEq⟩ := hRest
  rw [hEq] at hCount ⊢
  refine ⟨?_, rfl, fun _ _ h _ _ => h, fun _ _ h _ => h, (Undisturbed.refl b since inner).session,
    (Undisturbed.refl b since inner).noSession⟩
  unfold viewOf
  rw [hCount]
  rfl

theorem undisturbed_markClientConnected (hOther : a ≠ b) :
    Undisturbed b since inner (inner.markClientConnected a) :=
  (undisturbed_countConnected hOther).trans (undisturbed_setVoiceOwnerDisconnected hOther none)

theorem undisturbed_markClientDisconnected (hOther : a ≠ b) :
    Undisturbed b since inner (inner.markClientDisconnected a now) := by
  unfold markClientDisconnected
  split
  · exact (undisturbed_countDisconnected hOther).trans
      (undisturbed_setVoiceOwnerDisconnected hOther (some now))
  · exact undisturbed_countDisconnected hOther

theorem undisturbed_leaveVoiceForClient (hOther : a ≠ b) (shardId : Nat) :
    Undisturbed b since inner (inner.leaveVoiceForClient a shardId).2 := by
  refine Undisturbed.of_mapVals (fun g owner hId => if_neg fun h => hOther ?_) fun g owner => ?_
  · rw [givesUpOn, Bool.and_eq_true, Bool.and_eq_true, beq_iff_eq] at h
    exact h.1.1.symm.trans hId
  · split <;> rfl

/-- A claim of someone else takes nothing that the tenant wants, and gives it
nothing. -/
theorem undisturbed_claimVoice {cfg : Config} (hOther : a ≠ b) (guildId : Nat) (joining : Bool) :
    Undisturbed b since inner (inner.claimVoice cfg guildId a joining).2 := by
  have hRest : ∃ owners, (inner.claimVoice cfg guildId a joining).2 =
      { inner with voiceOwners := owners } := by
    unfold claimVoice
    dsimp only
    split
    · split <;> exact ⟨_, rfl⟩
    · exact ⟨_, rfl⟩
  obtain ⟨owners, hEq⟩ := hRest
  have hLookup : ∀ g, owners.lookup g =
      if g = guildId ∧ (inner.claimVoice cfg guildId a joining).1 = .allow then
        claimOwner (inner.voiceOwners.lookup g) a joining
      else inner.voiceOwners.lookup g := by
    intro g
    rw [← lookup_claimVoice, hEq]
  rw [hEq]
  refine Undisturbed.of_voice (fun g owner hOwner hId hWants => ?_) fun g owner hOwner hId => ?_
  · rw [hLookup, if_neg, hOwner]
    rintro ⟨rfl, hAllow⟩
    rw [claimVoice_decision, hOwner, decideVoiceCommand, if_neg fun h => hOther (h.symm.trans hId),
      hWants] at hAllow
    simp at hAllow
  · rw [hLookup] at hOwner
    split at hOwner
    · unfold claimOwner at hOwner
      split at hOwner
      · obtain rfl := Option.some.inj hOwner
        exact absurd hId hOther
      · rename_i hAllowed _
        obtain ⟨before, hBefore, rfl⟩ := Option.map_eq_some_iff.mp hOwner
        -- the tenant's guild was free to take, so it had been given up already
        have hGaveUp : before.wantsVoice = false := by
          have hAllow := hAllowed.2
          rw [claimVoice_decision, ← hAllowed.1, hBefore, decideVoiceCommand,
            if_neg fun h => hOther (h.symm.trans hId)] at hAllow
          by_contra hWants
          simp [hWants] at hAllow
        rw [hBefore, ← hGaveUp]
    · exact hOwner

theorem undisturbed_allowClientCommand (hOther : a ≠ b) (limit window : Nat) :
    Undisturbed b since inner (inner.allowClientCommand a limit window now).2 := by
  have hRest : ∃ entry, (inner.allowClientCommand a limit window now).2 =
      { inner with clientCommandWindows := inner.clientCommandWindows.insert a entry } := by
    unfold allowClientCommand
    dsimp only
    split <;> split <;> exact ⟨_, rfl⟩
  obtain ⟨entry, hEq⟩ := hRest
  rw [hEq]
  exact ⟨rfl, AList.lookup_insert_ne hOther.symm, fun _ _ h _ _ => h, fun _ _ h _ => h,
    (Undisturbed.refl b since inner).session, (Undisturbed.refl b since inner).noSession⟩

-- ---------------------------------------------------------------------------
-- The sessions
-- ---------------------------------------------------------------------------

/-- Pruning takes no session that was used in time. -/
theorem undisturbed_prune (hNow : now ≤ since + sessionTtl) :
    Undisturbed b since inner
      { inner with sessions := pruneExpiredSessions inner.sessions now } where
  view := rfl
  window := rfl
  owned := fun _ _ h _ _ => h
  notGained := fun _ _ h _ => h
  session := by
    intro id session hFound _ hSince
    refine ⟨session.lastAccessed, hSince, ?_⟩
    show (pruneExpiredSessions inner.sessions now).lookup id = _
    rw [lookup_pruneExpiredSessions, hFound, Option.filter_some_pos]
    simp only [decide_eq_true_eq]
    omega
  noSession := by
    intro id session hFound _
    refine ⟨session.lastAccessed, ?_⟩
    have hFound' : (pruneExpiredSessions inner.sessions now).lookup id = some session := hFound
    rw [lookup_pruneExpiredSessions] at hFound'
    exact (Option.filter_eq_some_iff.mp hFound').1

/-- A session of someone else is stored under an id that no session has. -/
theorem undisturbed_insert {id : Str} {session : Session} (hOther : session.principal ≠ .client b)
    (hFree : inner.sessions.lookup id = none) :
    Undisturbed b since inner { inner with sessions := inner.sessions.insert id session } where
  view := rfl
  window := rfl
  owned := fun _ _ h _ _ => h
  notGained := fun _ _ h _ => h
  session := by
    intro id' session' hFound _ hSince
    refine ⟨session'.lastAccessed, hSince, ?_⟩
    have hNe : id' ≠ id := by
      rintro rfl
      cases hFree.symm.trans hFound
    exact (AList.lookup_insert_ne hNe).trans hFound
  noSession := by
    intro id' session' hFound hPrincipal
    refine ⟨session'.lastAccessed, ?_⟩
    by_cases hId : id' = id
    · subst hId
      obtain rfl := Option.some.inj ((AList.lookup_insert _).symm.trans hFound)
      exact absurd hPrincipal hOther
    · exact (AList.lookup_insert_ne hId).symm.trans hFound

theorem undisturbed_createSession {session : Session} {draws : List Str} {id : Str}
    {inner' : Inner} (hOther : session.principal ≠ .client b) (hNow : now ≤ since + sessionTtl)
    (hCreate : inner.createSession session now draws = some (id, inner')) :
    Undisturbed b since inner inner' := by
  obtain ⟨hFree, rfl⟩ := createSession_eq_some hCreate
  exact (undisturbed_prune hNow).trans (undisturbed_insert hOther hFree)

/-- A lookup by anyone keeps a session alive. -/
theorem undisturbed_getSession (hSince : since ≤ now) (hNow : now ≤ since + sessionTtl)
    (id : Str) : Undisturbed b since inner (inner.getSession id now).2 := by
  unfold getSession
  dsimp only
  cases hFound : (pruneExpiredSessions inner.sessions now).lookup id with
  | none => exact undisturbed_prune hNow
  | some found =>
    refine (undisturbed_prune hNow).trans ⟨rfl, rfl, fun _ _ h _ _ => h, fun _ _ h _ => h, ?_, ?_⟩
    · intro id' session hSession _ hUsed
      by_cases hId : id' = id
      · subst hId
        obtain rfl := Option.some.inj (hFound.symm.trans hSession)
        exact ⟨now, hSince, AList.lookup_insert _⟩
      · exact ⟨session.lastAccessed, hUsed, (AList.lookup_insert_ne hId).trans hSession⟩
    · intro id' session hSession _
      by_cases hId : id' = id
      · subst hId
        obtain rfl := Option.some.inj ((AList.lookup_insert _).symm.trans hSession)
        exact ⟨found.lastAccessed, hFound⟩
      · exact ⟨session.lastAccessed, (AList.lookup_insert_ne hId).symm.trans hSession⟩

end Operations

-- ---------------------------------------------------------------------------
-- A round of a connection
-- ---------------------------------------------------------------------------

/-- The connection is not the tenant's. -/
structure Conn.NotOf (conn : Conn) (b : Str) : Prop where
  scope : conn.commandScope ≠ some b
  active : conn.activeClientId ≠ some b

/-- What a round leaves alone, and what the connection stays. -/
structure Apart (b : Str) (since : Nat) (inner : Inner) (reply : Reply) : Prop where
  undisturbed : Undisturbed b since inner reply.inner
  conn : reply.conn.NotOf b

section Rounds

variable {cfg : Config} {lib : JsonLib} {env : Env} {conn : Conn} {inner : Inner} {b : Str}
  {since : Nat}

theorem clientId_ne {principal : SessionPrincipal} (h : principal ≠ .client b) :
    principal.clientId ≠ some b := by
  cases principal with
  | client a =>
    intro hSame
    exact h (congrArg SessionPrincipal.client (Option.some.inj hSame))
  | botToken => simp [SessionPrincipal.clientId]
  | unvalidated token => simp [SessionPrincipal.clientId]

theorem undisturbed_countConnection {clientId : Option Str} (hOther : clientId ≠ some b) :
    Undisturbed b since inner (countConnection conn inner clientId).2 := by
  unfold countConnection
  cases clientId with
  | none => exact .refl b since inner
  | some a =>
    dsimp only
    split
    · exact undisturbed_markClientConnected fun h => hOther (congrArg some h)
    · exact .refl b since inner

theorem undisturbed_leaveVoice {clientId : Option Str} (hOther : clientId ≠ some b)
    (shardId : Nat) : Undisturbed b since inner (leaveVoice inner shardId clientId).2 := by
  cases clientId with
  | none => exact .refl b since inner
  | some a => exact undisturbed_leaveVoiceForClient (fun h => hOther (congrArg some h)) shardId

theorem notOf_countConnection {clientId : Option Str} (hOther : clientId ≠ some b)
    (hActive : conn.activeClientId ≠ some b) :
    (countConnection conn inner clientId).1.activeClientId ≠ some b := by
  rw [countConnection_activeClientId]
  split
  · exact hOther
  · exact hActive

theorem undisturbed_acceptIdentify {info : IdentifyInfo} {auth : AuthContext}
    (hOther : auth.principal ≠ .client b) (hNow : env.now ≤ since + sessionTtl) :
    Undisturbed b since inner (acceptIdentify env conn inner info auth).inner := by
  have hClient := clientId_ne hOther
  have hLeft : Undisturbed b since inner (leaveVoice
      (countConnection conn inner auth.principal.clientId).2 info.shard.1
      auth.principal.clientId).2 :=
    (undisturbed_countConnection hClient).trans (undisturbed_leaveVoice hClient info.shard.1)
  unfold acceptIdentify
  dsimp only
  split
  · exact hLeft
  · rename_i hCreate
    have hCreated := hLeft.trans (undisturbed_createSession hOther hNow hCreate)
    split
    · exact hCreated
    · split <;> exact hCreated

theorem notOf_acceptIdentify {info : IdentifyInfo} {auth : AuthContext} (hConn : conn.NotOf b)
    (hOther : auth.principal ≠ .client b) :
    (acceptIdentify env conn inner info auth).conn.NotOf b := by
  have hClient := clientId_ne hOther
  have hActive : (countConnection conn inner auth.principal.clientId).1.activeClientId ≠ some b :=
    notOf_countConnection hClient hConn.active
  unfold acceptIdentify
  dsimp only
  split
  · exact ⟨hClient, hActive⟩
  · split
    · exact ⟨hClient, hActive⟩
    · split <;> exact ⟨hClient, hActive⟩

theorem undisturbed_acceptResume {info : ResumeInfo} {auth : AuthContext} {session : Session}
    {inner' : Inner} (hOther : session.principal ≠ .client b)
    (hFound : Undisturbed b since inner inner') :
    Undisturbed b since inner (acceptResume conn inner' info auth session).inner := by
  unfold acceptResume
  split
  · exact hFound
  · rename_i shard _
    have hCounted : Undisturbed b since inner (countConnection { conn with
        shardSender := some shard.id } inner' session.principal.clientId).2 :=
      hFound.trans (undisturbed_countConnection (clientId_ne hOther))
    dsimp only
    split <;> exact hCounted

theorem notOf_acceptResume {info : ResumeInfo} {auth : AuthContext} {session : Session}
    (hConn : conn.NotOf b) (hOther : session.principal ≠ .client b) :
    (acceptResume conn inner info auth session).conn.NotOf b := by
  have hClient := clientId_ne hOther
  unfold acceptResume
  split
  · exact hConn
  · rename_i shard _
    have hActive : (countConnection { conn with shardSender := some shard.id } inner
        session.principal.clientId).1.activeClientId ≠ some b :=
      notOf_countConnection hClient hConn.active
    dsimp only
    split <;> exact ⟨hClient, hActive⟩

theorem undisturbed_sendClientCommand {a : Str} {guildId : Nat}
    {voiceChannel : Option (Option Nat)} {command : Str} (hOther : a ≠ b) :
    Undisturbed b since inner
        (sendClientCommand cfg env conn inner a guildId voiceChannel command).inner ∧
      (sendClientCommand cfg env conn inner a guildId voiceChannel command).conn = conn := by
  have hCounted : Undisturbed b since inner (inner.allowClientCommand a clientCommandLimit
      clientCommandWindow env.now).2 := undisturbed_allowClientCommand hOther _ _
  unfold sendClientCommand
  split
  · exact ⟨.refl b since inner, rfl⟩
  · dsimp only
    split
    · exact ⟨hCounted, rfl⟩
    · cases voiceChannel with
      | none =>
        dsimp only
        split
        · exact ⟨hCounted, rfl⟩
        · split <;> exact ⟨hCounted, rfl⟩
      | some channelId =>
        have hClaimed : Undisturbed b since inner (claimVoice cfg (inner.allowClientCommand a
            clientCommandLimit clientCommandWindow env.now).2 guildId a channelId.isSome).2 :=
          hCounted.trans (undisturbed_claimVoice hOther guildId channelId.isSome)
        dsimp only
        split
        · exact ⟨hClaimed, rfl⟩
        · split <;> exact ⟨hClaimed, rfl⟩

theorem undisturbed_handleCommand {op : Nat} {payload : Str}
    (hScope : conn.commandScope ≠ some b) :
    Undisturbed b since inner (handleCommand cfg lib env conn inner op payload).inner ∧
      (handleCommand cfg lib env conn inner op payload).conn.commandScope = conn.commandScope ∧
      (handleCommand cfg lib env conn inner op payload).conn.activeClientId =
        conn.activeClientId := by
  unfold handleCommand
  split
  · exact ⟨.refl b since inner, rfl, rfl⟩
  · split
    · exact ⟨.refl b since inner, rfl, rfl⟩
    · rename_i a hOwn
      have hOther : a ≠ b := fun h => hScope (hOwn.trans (congrArg some h))
      dsimp only
      split
      · obtain ⟨hInner, hConn⟩ := undisturbed_sendClientCommand hOther
        exact ⟨hInner, by rw [hConn], by rw [hConn]⟩
      · obtain ⟨hInner, hConn⟩ := undisturbed_sendClientCommand hOther
        exact ⟨hInner, by rw [hConn], by rw [hConn]⟩
      · exact ⟨.refl b since inner, rfl, rfl⟩

/-- **Round lemma.** A connection that is not the tenant's and does not show its
credentials leaves it alone. -/
theorem handleInput_undisturbed {input : ClientInput} (hConn : conn.NotOf b)
    (hNot : ¬ Credentials cfg lib ⟨inner, env, input⟩ (.client b)) (hSince : since ≤ env.now)
    (hNow : env.now ≤ since + sessionTtl) :
    Apart b since inner (handleInput cfg lib env conn inner input) := by
  have hIdle : ∀ effects flow, Apart b since inner ⟨conn, inner, effects, flow⟩ :=
    fun _ _ => ⟨.refl b since inner, hConn⟩
  unfold handleInput
  split
  · exact hIdle _ _
  · exact ⟨.refl b since inner, hConn.scope, hConn.active⟩
  · exact hIdle _ _
  · exact hIdle _ _
  · rename_i payload
    split
    · exact hIdle _ _
    · rename_i event hEvent
      split
      · exact hIdle _ _
      · -- IDENTIFY
        rename_i hOp
        have hExit := handleIdentify_exit cfg lib env conn inner payload
        generalize handleIdentify cfg lib env conn inner payload = reply at hExit ⊢
        cases hExit with
        | @accepted info auth hPasses =>
          have hOther : auth.principal ≠ .client b := fun hPrincipal =>
            hNot ⟨payload, event, _, _, rfl, hEvent, .inl ⟨hOp, _, hPasses.parsed, rfl⟩,
              hPasses.authenticated, hPrincipal⟩
          exact ⟨undisturbed_acceptIdentify hOther hNow, notOf_acceptIdentify hConn hOther⟩
        | refused flow _ => exact hIdle _ _
      · -- RESUME
        rename_i hOp
        have hExit := handleResume_exit cfg lib env conn inner payload
        generalize handleResume cfg lib env conn inner payload = reply at hExit ⊢
        cases hExit with
        | @accepted info auth session hPasses =>
          have hOther : session.principal ≠ .client b := fun hPrincipal =>
            hNot ⟨payload, event, _, _, rfl, hEvent, .inr ⟨hOp, _, hPasses.parsed, rfl⟩,
              hPasses.authenticated, hPasses.own.symm.trans hPrincipal⟩
          exact ⟨undisturbed_acceptResume hOther (undisturbed_getSession hSince hNow _),
            notOf_acceptResume hConn hOther⟩
        | unread flow _ => exact hIdle _ _
        | rejected reason _ =>
          exact ⟨undisturbed_getSession hSince hNow _, hConn.scope, hConn.active⟩
      · obtain ⟨hInner, hScope, hActive⟩ := undisturbed_handleCommand hConn.scope
        exact ⟨hInner, fun h => hConn.scope (hScope.symm.trans h),
          fun h => hConn.active (hActive.symm.trans h)⟩

theorem undisturbed_teardown (hConn : conn.NotOf b) (now : Nat) :
    Undisturbed b since inner (teardown conn inner now) := by
  unfold teardown
  cases hActive : conn.activeClientId with
  | none => exact .refl b since inner
  | some a =>
    exact undisturbed_markClientDisconnected fun h => hConn.active (hActive.trans (congrArg some h))

end Rounds

-- ---------------------------------------------------------------------------
-- Any run
-- ---------------------------------------------------------------------------

inductive TenancyStep
  /-- of the connections -/
  | connection (a : CountingStep)
  /-- a round of the loop after an event -/
  | event (event : BufferedClientEvent) (guildId now : Nat) (clientId : Str)
      (config : ClientConfig)
  /-- a round of the poll -/
  | poll (systemNow now : Nat) (clientId : Str) (config : ClientConfig)
  /-- a shard's task saw a voice state -/
  | track (payload : Str) (guildId : Option Nat)
  /-- the shards' tasks wrote to their entries -/
  | cache (shards : List Shard) (botUserIdCell : Nat)
  | prune (validClientIds : Finset Str)

/-- The connections and the proxy's own tasks. -/
def tenancyStep (cfg : Config) (lib : JsonLib) (s : Counting) : TenancyStep → Option Counting
  | .connection (.other _) => none
  | .connection a => s.step cfg lib a
  | .event event guildId now clientId config => some { s with
      inner := (bufferEventForClient event guildId now s.inner clientId config).2 }
  | .poll systemNow now clientId config => some { s with
      inner := (scheduledWake systemNow now s.inner clientId config).2 }
  | .track payload guildId => some { s with
      inner := trackBotVoiceState lib s.inner payload guildId }
  | .cache shards botUserIdCell => some { s with
      inner := { s.inner with shards := shards, botUserIdCell := botUserIdCell } }
  | .prune validClientIds => some { s with
      inner := s.inner.pruneStaleClientState validClientIds }

/-- A step that is not for the tenant: a round does not show its credentials, and
comes while its sessions last; an event or a poll is for another client; a prune
finds the tenant in the registry. -/
def NotFor (cfg : Config) (lib : JsonLib) (b : Str) (since : Nat) (s : Counting) :
    TenancyStep → Prop
  | .connection (.round _ env input) => ¬ Credentials cfg lib ⟨s.inner, env, input⟩ (.client b) ∧
      since ≤ env.now ∧ env.now ≤ since + sessionTtl
  | .event _ _ _ clientId _ => clientId ≠ b
  | .poll _ _ clientId _ => clientId ≠ b
  | .prune validClientIds => b ∈ validClientIds
  | _ => True

/-- All connections are someone else's, and the tenant is as it was. -/
structure Aside (b : Str) (since : Nat) (start : Inner) (s : Counting) : Prop where
  undisturbed : Undisturbed b since start s.inner
  connections : ∀ k ∈ s.connections, k.conn.NotOf b

section Runs

variable {cfg : Config} {lib : JsonLib} {b : Str} {since : Nat} {start : Inner} {s t : Counting}

/-- A change of the shared state by the view of another client. -/
theorem undisturbed_of_view {inner inner' : Inner} (hView : inner'.viewOf b = inner.viewOf b)
    (hRest : ∃ buffers attempts, inner' = { inner with
      offlineEventBuffers := buffers, lastWakeAttempts := attempts }) :
    Undisturbed b since inner inner' := by
  obtain ⟨buffers, attempts, rfl⟩ := hRest
  exact ⟨hView, rfl, fun _ _ h _ _ => h, fun _ _ h _ => h, (Undisturbed.refl b since inner).session,
    (Undisturbed.refl b since inner).noSession⟩

theorem undisturbed_event {event : BufferedClientEvent} {guildId now : Nat} {a : Str}
    {config : ClientConfig} {inner : Inner} (hOther : a ≠ b) :
    Undisturbed b since inner (bufferEventForClient event guildId now inner a config).2 := by
  refine undisturbed_of_view ?_ ?_
  · rw [(bufferEventForClient_eq event guildId now inner a config).2, if_neg hOther.symm]
  · unfold bufferEventForClient
    split
    · exact ⟨_, _, rfl⟩
    · split
      · exact ⟨_, _, rfl⟩
      · dsimp only
        obtain ⟨attempts, hWoken⟩ := shouldWakeClient_lastWakeAttempts
          (inner.pushOfflineEventForClient a event) a wakeCooldown now
        split <;> rw [hWoken] <;> exact ⟨_, _, rfl⟩

theorem undisturbed_poll {systemNow now : Nat} {a : Str} {config : ClientConfig} {inner : Inner}
    (hOther : a ≠ b) :
    Undisturbed b since inner (scheduledWake systemNow now inner a config).2 := by
  refine undisturbed_of_view ?_ ?_
  · rw [(scheduledWake_eq systemNow now inner a config).2, if_neg hOther.symm]
  · unfold scheduledWake
    split
    · exact ⟨_, _, rfl⟩
    · split
      · exact ⟨_, _, rfl⟩
      · split
        · exact ⟨_, _, rfl⟩
        · dsimp only
          obtain ⟨attempts, hWoken⟩ := shouldWakeClient_lastWakeAttempts inner a wakeCooldown now
          split <;> rw [hWoken] <;> exact ⟨_, _, rfl⟩

/-- The bot's own leave frees no guild that its owner wants. -/
theorem undisturbed_onBotVoiceLeave {inner : Inner} (guildId : Nat) :
    Undisturbed b since inner (inner.onBotVoiceLeave guildId) := by
  have hRest : ∃ owners, inner.onBotVoiceLeave guildId =
      { inner with voiceOwners := owners } := by
    unfold onBotVoiceLeave
    split
    · split <;> exact ⟨_, rfl⟩
    · exact ⟨_, rfl⟩
  obtain ⟨owners, hEq⟩ := hRest
  have hLookup : ∀ g, owners.lookup g =
      if g = guildId then (inner.voiceOwners.lookup g).filter VoiceOwner.wantsVoice
      else inner.voiceOwners.lookup g := by
    intro g
    rw [← lookup_onBotVoiceLeave, hEq]
  rw [hEq]
  refine Undisturbed.of_voice (fun g owner hOwner _ hWants => ?_) fun g owner hOwner _ => ?_
  · rw [hLookup]
    split
    · rw [hOwner, Option.filter_some_pos hWants]
    · exact hOwner
  · rw [hLookup] at hOwner
    split at hOwner
    · exact (Option.filter_eq_some_iff.mp hOwner).1
    · exact hOwner

theorem undisturbed_track {inner : Inner} (payload : Str) (guildId : Option Nat) :
    Undisturbed b since inner (trackBotVoiceState lib inner payload guildId) := by
  unfold trackBotVoiceState
  split
  · split
    · split
      · exact undisturbed_onBotVoiceLeave _
      · exact .refl b since inner
    · exact .refl b since inner
  · exact .refl b since inner

theorem undisturbed_pruneStaleClientState {inner : Inner} {valid : Finset Str}
    (hValid : b ∈ valid) : Undisturbed b since inner (inner.pruneStaleClientState valid) := by
  have hKeeps : ∀ {ν : Type} (m : Map Str ν),
      (m.retain fun clientId _ => clientId ∈ valid).lookup b = m.lookup b := by
    intro ν m
    rw [Map.lookup_retain, decide_eq_true hValid]
    cases m.lookup b <;> rfl
  refine ⟨?_, hKeeps _, fun _ _ h _ _ => h, fun _ _ h _ => h,
    (Undisturbed.refl b since inner).session, (Undisturbed.refl b since inner).noSession⟩
  unfold viewOf offlineBuffer pruneStaleClientState
  dsimp only
  rw [hKeeps, hKeeps]
  rfl

/-- **Step lemma.** -/
theorem aside_step {a : TenancyStep} (hAside : Aside b since start s)
    (hNot : NotFor cfg lib b since s a) (hStep : tenancyStep cfg lib s a = some t) :
    Aside b since start t := by
  have hOwn : ∀ {inner : Inner}, Undisturbed b since s.inner inner →
      Aside b since start { s with inner := inner } :=
    fun h => ⟨hAside.undisturbed.trans h, hAside.connections⟩
  cases a with
  | connection a =>
    cases a with
    | accept =>
      obtain rfl := Option.some.inj hStep
      refine ⟨hAside.undisturbed, fun k hk => ?_⟩
      rcases List.mem_append.mp hk with hOld | hNew
      · exact hAside.connections k hOld
      · rw [List.mem_singleton.mp hNew]
        exact ⟨by simp [Counted.new, Conn.new], by simp [Counted.new, Conn.new]⟩
    | round i env input =>
      change s.step cfg lib (.round i env input) = some t at hStep
      rw [Counting.step] at hStep
      split at hStep
      · cases hStep
      · rename_i k hk
        dsimp only at hStep
        split at hStep
        · obtain rfl := Option.some.inj hStep
          obtain ⟨hCredentials, hSince, hNow⟩ := hNot
          have hRound := handleInput_undisturbed
            (hAside.connections k (List.mem_of_getElem? hk)) hCredentials hSince hNow
          refine ⟨hAside.undisturbed.trans hRound.undisturbed, fun k' hk' => ?_⟩
          rcases List.mem_or_eq_of_mem_set hk' with hOld | rfl
          · exact hAside.connections k' hOld
          · exact hRound.conn
        · cases hStep
    | teardown i now =>
      change s.step cfg lib (.teardown i now) = some t at hStep
      rw [Counting.step] at hStep
      split at hStep
      · cases hStep
      · rename_i k hk
        dsimp only at hStep
        split at hStep
        · obtain rfl := Option.some.inj hStep
          have hConn := hAside.connections k (List.mem_of_getElem? hk)
          refine ⟨hAside.undisturbed.trans (undisturbed_teardown hConn now), fun k' hk' => ?_⟩
          rcases List.mem_or_eq_of_mem_set hk' with hOld | rfl
          · exact hAside.connections k' hOld
          · exact hConn
        · cases hStep
    | other inner => cases hStep
  | event event guildId now clientId config =>
    obtain rfl := Option.some.inj hStep
    exact hOwn (undisturbed_event hNot)
  | poll systemNow now clientId config =>
    obtain rfl := Option.some.inj hStep
    exact hOwn (undisturbed_poll hNot)
  | track payload guildId =>
    obtain rfl := Option.some.inj hStep
    exact hOwn (undisturbed_track payload guildId)
  | cache shards botUserIdCell =>
    obtain rfl := Option.some.inj hStep
    exact hOwn ⟨rfl, rfl, fun _ _ h _ _ => h, fun _ _ h _ => h,
      (Undisturbed.refl b since s.inner).session, (Undisturbed.refl b since s.inner).noSession⟩
  | prune validClientIds =>
    obtain rfl := Option.some.inj hStep
    exact hOwn (undisturbed_pruneStaleClientState hNot)

/-- **Tenant isolation.** From any state, over any run of connections that are not
the tenant's and never show its credentials, of events and polls for other
clients, voice states and registry prunes: the tenant keeps its count, offline
buffer, last wake attempt, command window, the guilds in which it wants voice and
its sessions, as they were, and gains none; and no other connection becomes its
own. -/
theorem tenant_undisturbed (hStart : ∀ k ∈ s.connections, k.conn.NotOf b)
    (steps : List TenancyStep)
    (hNotFor : Meets (tenancyStep cfg lib) (NotFor cfg lib b since) s steps)
    (hRun : exec (tenancyStep cfg lib) s steps = some t) :
    Undisturbed b since s.inner t.inner ∧ ∀ k ∈ t.connections, k.conn.NotOf b := by
  have hAside : Aside b since s.inner t :=
    exec_invariant_of_meets (fun _ _ _ hAside hNot hStep => aside_step hAside hNot hStep)
      ⟨.refl b since s.inner, hStart⟩ hNotFor hRun
  exact ⟨hAside.undisturbed, hAside.connections⟩

end Runs

namespace SampleIsolation

def config : Config := ⟨"bot".toList, true, true, "ws://proxy".toList, none⟩

/-- Clients `c` and `d` of guild 7. -/
def clients : Clients :=
  ((∅ : Clients).insert "c".toList ⟨"s".toList, {7}, none, none⟩).insert "d".toList
    ⟨"r".toList, {7}, none, none⟩

def env : Env := ⟨clients, .noDatabase, 5, ["x".toList]⟩

def identify : Str :=
  "\x7b\"op\":2,\"d\":\x7b\"token\":\"c:s\",\"shard\":[0,1]\x7d\x7d".toList

/-- The JSON library on the payload above. -/
def lib : JsonLib where
  parseIdentify text := if text = identify then some ⟨none, (0, 1), "c:s".toList⟩ else none
  parseResume _ := none
  parseRequestGuildMembers _ := none
  parseVoiceStateUpdate _ := none
  parseVoiceStateEvent _ := none
  parseKeys _ := none
  objectGuildId _ := none
  requestGuildMembersToString _ := none
  voiceStateUpdateToString _ := none

/-- Client `d` has a session and owns the voice connection of guild 7. -/
def start : Counting where
  inner := { Inner.new [⟨0, none, ⟨[], [], []⟩⟩] 1 with
    sessions := (∅ : Map Str Session).insert "y".toList ⟨0, none, .client "d".toList, some {7}, 5⟩
    voiceOwners := (∅ : Map Nat VoiceOwner).insert 7 ⟨"d".toList, none, true⟩ }
  connections := [.new]

/-- Client `c` connects on the one connection, and leaves. -/
def steps : List TenancyStep :=
  [.connection (.round 0 env (.text identify)), .prune {"c".toList, "d".toList},
    .connection (.round 0 env .ended), .connection (.teardown 0 9)]

theorem authenticated : authenticateGatewayToken config env.clients env.dataState
    (normalizeGatewayToken "c:s".toList) = .ok ⟨.client "c".toList, some {7}⟩ := by decide

/-- Only `c` is known by the payload. -/
theorem not_credentials (inner : Inner) (input : ClientInput) :
    ¬ Credentials config lib ⟨inner, env, input⟩ (.client "d".toList) := by
  rintro ⟨payload, event, token, auth, -, -, hToken, hAuth, hPrincipal⟩
  rcases hToken with ⟨-, info, hParse, rfl⟩ | ⟨-, info, hParse, -⟩
  · obtain ⟨rfl⟩ : info = ⟨none, (0, 1), "c:s".toList⟩ := by
      have hIf : (if payload = identify then some ⟨none, (0, 1), "c:s".toList⟩ else none) =
          some info := hParse
      split at hIf
      · exact (Option.some.inj hIf).symm
      · cases hIf
    obtain rfl := GatewayAuthResult.ok.inj (authenticated.symm.trans hAuth)
    exact absurd hPrincipal (by decide)
  · cases hParse

end SampleIsolation

open SampleIsolation in
/-- Client `d` keeps its voice connection and its session. -/
theorem tenant_undisturbed_by_other :
    ∃ t, exec (tenancyStep config lib) start steps = some t ∧
      t.inner.voiceOwners.lookup 7 = some ⟨"d".toList, none, true⟩ ∧
      ∃ at', 5 ≤ at' ∧ t.inner.sessions.lookup "y".toList =
        some ⟨0, none, .client "d".toList, some {7}, at'⟩ := by
  have hRun : (exec (tenancyStep config lib) start steps).isSome = true := by decide +kernel
  obtain ⟨t, hRun⟩ := Option.isSome_iff_exists.mp hRun
  have hNotFor : Meets (tenancyStep config lib) (NotFor config lib "d".toList 5) start steps := by
    refine ⟨⟨not_credentials _ _, by decide, by decide⟩, fun s _ => ⟨?_, fun s _ =>
      ⟨⟨not_credentials _ _, by decide, by decide⟩, fun s _ => ⟨trivial, fun _ _ => trivial⟩⟩⟩⟩
    show "d".toList ∈ ({"c".toList, "d".toList} : Finset Str)
    decide
  have hStart : ∀ k ∈ start.connections, k.conn.NotOf "d".toList := by
    intro k hk
    rw [List.mem_singleton.mp hk]
    exact ⟨by decide, by decide⟩
  have hKept := (tenant_undisturbed hStart steps hNotFor hRun).1
  obtain ⟨at', hAt, hSession⟩ := hKept.session "y".toList
    ⟨0, none, .client "d".toList, some {7}, 5⟩ rfl rfl (Nat.le_refl 5)
  exact ⟨t, hRun, hKept.owned 7 _ rfl rfl rfl, at', hAt, hSession⟩

end GatewayProxy
