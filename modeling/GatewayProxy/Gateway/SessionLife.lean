import GatewayProxy.Gateway.Confinement
import GatewayProxy.Lib.Runs

/-!
# How long a session can be resumed

A session is dropped by whichever client next touches the map, once its
`last_accessed` is older than `SESSION_TTL`. That time is written by IDENTIFY
and by every RESUME that finds the session, and by nothing else: a connection
that serves the session does not keep it, and a RESUME that is rejected does.

A run follows each session with the connections that serve it. A session id can
be drawn again once its session was dropped, so the run keeps the session that
is `current` under an id apart from those that were `replaced`.

Main results:

* `resume_accepted_iff`: `handle_client` accepts a RESUME that `Accepts` says.
* `sessionInv_step`: the map holds a session as long as it was named in time.
* `session_resumable_iff`: when a session is found exactly while it is in use.
* `session_not_resumable`: a session lost under its connection, and one kept
  without any.
-/

namespace GatewayProxy

open Utf8 Assoc GatewayProxy.Inner

/-- What a lookup finds after pruning. -/
theorem lookup_pruneExpiredSessions (sessions : Map Str Session) (now : Nat) (id : Str) :
    (pruneExpiredSessions sessions now).lookup id =
      (sessions.lookup id).filter fun session => now - session.lastAccessed ≤ sessionTtl :=
  Map.lookup_retain _ _ _

theorem getSession_fst (inner : Inner) (sessionId : Str) (now : Nat) :
    (inner.getSession sessionId now).1 =
      ((pruneExpiredSessions inner.sessions now).lookup sessionId).map fun session =>
        { session with lastAccessed := now } := by
  unfold getSession
  dsimp only
  cases (pruneExpiredSessions inner.sessions now).lookup sessionId <;> rfl

theorem lookup_getSession (inner : Inner) (sessionId : Str) (now : Nat) (id : Str) :
    (inner.getSession sessionId now).2.sessions.lookup id =
      if id = sessionId then (inner.getSession sessionId now).1
      else (pruneExpiredSessions inner.sessions now).lookup id := by
  rw [getSession_fst]
  unfold getSession
  dsimp only
  cases hFound : (pruneExpiredSessions inner.sessions now).lookup sessionId with
  | none =>
    by_cases hId : id = sessionId
    · rw [if_pos hId, hId]
      exact hFound
    · rw [if_neg hId]
  | some session => exact Map.lookup_insert_eq _ _ _ _

/-- The RESUME of a principal finds a session of its own. -/
def accepts (inner : Inner) (sessionId : Str) (principal : SessionPrincipal) (now : Nat) : Bool :=
  (inner.getSession sessionId now).1.any fun session => session.principal == principal

theorem accepts_iff {inner : Inner} {sessionId : Str} {principal : SessionPrincipal} {now : Nat} :
    accepts inner sessionId principal now = true ↔
      ∃ session, inner.sessions.lookup sessionId = some session ∧
        now - session.lastAccessed ≤ sessionTtl ∧ session.principal = principal := by
  rw [accepts, getSession_fst, lookup_pruneExpiredSessions, Option.any_map, Option.any_eq_true]
  constructor
  · rintro ⟨session, hFound, hPrincipal⟩
    obtain ⟨hLookup, hAlive⟩ := Option.filter_eq_some_iff.mp hFound
    exact ⟨session, hLookup, of_decide_eq_true hAlive, beq_iff_eq.mp hPrincipal⟩
  · rintro ⟨session, hLookup, hAlive, hPrincipal⟩
    exact ⟨session, Option.filter_eq_some_iff.mpr ⟨hLookup, decide_eq_true hAlive⟩,
      beq_iff_eq.mpr hPrincipal⟩

-- ---------------------------------------------------------------------------
-- The handler
-- ---------------------------------------------------------------------------

/-- On a connection without a principal, a RESUME with valid credentials goes
on exactly when it finds a session of its principal, if that session's shard is
here. -/
theorem resume_accepted_iff {cfg : Config} {lib : JsonLib} {env : Env} {conn : Conn} {inner : Inner}
    {payload : Str} {info : ResumeInfo} {auth : AuthContext}
    (hParse : lib.parseResume payload = some info)
    (hAuth : authenticateGatewayToken cfg env.clients env.dataState
      (normalizeGatewayToken info.token) = .ok auth)
    (hPending : conn.compressPending = true)
    (hShards : ∀ id session, inner.sessions.lookup id = some session →
      (inner.shards[session.shardId]?).isSome = true) :
    (handleResume cfg lib env conn inner payload).flow = .next ↔
      accepts inner info.sessionId auth.principal env.now = true := by
  have hExit := handleResume_exit cfg lib env conn inner payload
  generalize handleResume cfg lib env conn inner payload = reply at hExit ⊢
  cases hExit with
  | @accepted info' auth' session hPasses =>
    obtain rfl : info = info' := Option.some.inj (hParse.symm.trans hPasses.parsed)
    obtain rfl : auth = auth' :=
      GatewayAuthResult.ok.inj (hAuth.symm.trans hPasses.authenticated)
    have hFound := hPasses.found
    rw [getSession_fst, lookup_pruneExpiredSessions, Option.map_eq_some_iff] at hFound
    obtain ⟨stored, hStored, rfl⟩ := hFound
    obtain ⟨shard, hShard⟩ := Option.isSome_iff_exists.mp
      (hShards _ stored (Option.filter_eq_some_iff.mp hStored).1)
    unfold acceptResume accepts
    rw [getSession_shards, hShard, hPasses.found]
    dsimp only
    rw [countConnection_compressPending, if_pos hPending]
    simpa using hPasses.own
  | unread flow hUnread => exact absurd hAuth (hUnread info auth hParse)
  | rejected reason hFails =>
    refine iff_of_false (by simp [rejectSession]) fun hAccepts => ?_
    obtain ⟨session, hFound, hOwn⟩ := (Option.any_eq_true _ _).mp hAccepts
    exact hFails info auth session ⟨hParse, hAuth, hFound, beq_iff_eq.mp hOwn⟩

-- ---------------------------------------------------------------------------
-- Sessions in a run
-- ---------------------------------------------------------------------------

/-- A session and its history. -/
structure Life where
  sessionId : Str
  principal : SessionPrincipal
  /-- the connections that serve it: of its IDENTIFY and of accepted RESUMEs -/
  serving : Nat
  /-- when the last connection that served it ended -/
  servedUntil : Nat
  /-- when it was last named: by its IDENTIFY, or by a RESUME within the TTL of
  the naming before -/
  namedAt : Nat
  deriving DecidableEq

namespace Life

def InUse (life : Life) (now : Nat) : Prop := 0 < life.serving ∨ now - life.servedUntil ≤ sessionTtl

def Named (life : Life) (now : Nat) : Prop := now - life.namedAt ≤ sessionTtl

def resume (life : Life) (now : Nat) (accepted : Bool) : Life :=
  { life with
    serving := if accepted then life.serving + 1 else life.serving
    namedAt := if now - life.namedAt ≤ sessionTtl then now else life.namedAt }

/-- A connection that served the session ends. -/
def close (life : Life) (now : Nat) : Option Life :=
  if 0 < life.serving then some { life with serving := life.serving - 1, servedUntil := now }
  else none

theorem close_eq_some {life life' : Life} {now : Nat} (h : life.close now = some life') :
    life'.sessionId = life.sessionId ∧ life'.principal = life.principal ∧
      life'.namedAt = life.namedAt := by
  unfold close at h
  split at h
  · obtain rfl := Option.some.inj h
    exact ⟨rfl, rfl, rfl⟩
  · cases h

end Life

structure SessionRun where
  inner : Inner
  now : Nat
  current : Str → Option Life
  replaced : List Life

inductive SessionStep
  | wait (time : Nat)
  | identify (session : Session) (draws : List Str)
  /-- with valid credentials of the principal; `pending` if the connection has
  no principal yet -/
  | resume (sessionId : Str) (principal : SessionPrincipal) (pending : Bool)
  | close (sessionId : Str)
  | closeReplaced (i : Nat)

namespace SessionRun

def new (shards : List Shard) (shardCount : Nat) : SessionRun :=
  ⟨Inner.new shards shardCount, 0, fun _ => none, []⟩

def step (s : SessionRun) : SessionStep → Option SessionRun
  | .wait time => some { s with now := s.now + time }
  | .identify session draws =>
    (s.inner.createSession { session with lastAccessed := s.now } s.now draws).map fun created =>
      let life : Life := ⟨created.1, session.principal, 1, s.now, s.now⟩
      { s with
        inner := created.2
        current := Function.update s.current created.1 (some life)
        replaced := (s.current created.1).toList ++ s.replaced }
  | .resume sessionId principal pending =>
    let accepted := pending && accepts s.inner sessionId principal s.now
    some { s with
      inner := (s.inner.getSession sessionId s.now).2
      current := Function.update s.current sessionId
        ((s.current sessionId).map fun life => life.resume s.now accepted) }
  | .close sessionId =>
    ((s.current sessionId).bind fun life => life.close s.now).map fun life =>
      { s with current := Function.update s.current sessionId (some life) }
  | .closeReplaced i =>
    (s.replaced[i]?.bind fun life => life.close s.now).map fun life =>
      { s with replaced := s.replaced.set i life }

/-- A session of the run, under its id or replaced there. -/
def Known (s : SessionRun) (life : Life) : Prop :=
  s.current life.sessionId = some life ∨ life ∈ s.replaced

/-- A RESUME of the session by its principal finds it and is accepted. -/
def Finds (s : SessionRun) (life : Life) : Prop :=
  s.current life.sessionId = some life ∧
    accepts s.inner life.sessionId life.principal s.now = true

-- ---------------------------------------------------------------------------
-- The map of sessions
-- ---------------------------------------------------------------------------

/-- The sessions that the map still holds, and those that it has dropped. -/
structure SessionInv (s : SessionRun) : Prop where
  held : ∀ id life, s.current id = some life → life.sessionId = id ∧
    ∀ session, s.inner.sessions.lookup id = some session →
      session.principal = life.principal ∧ session.lastAccessed = life.namedAt
  dropped : ∀ id life, s.current id = some life → s.inner.sessions.lookup id = none →
    ¬ life.Named s.now
  unknown : ∀ id, s.current id = none → s.inner.sessions.lookup id = none
  replaced : ∀ life ∈ s.replaced, ¬ life.Named s.now

theorem sessionInv_new (shards : List Shard) (shardCount : Nat) :
    SessionInv (new shards shardCount) :=
  ⟨fun _ _ h => (nomatch h), fun _ _ h => (nomatch h), fun _ _ => rfl, fun _ h => (nomatch h)⟩

variable {s t : SessionRun} {action : SessionStep}

/-- What the map holds under an id, and the session of the run under it. -/
structure Tracks (now : Nat) (id : Str) (life? : Option Life) (session? : Option Session) :
    Prop where
  held : ∀ life, life? = some life → life.sessionId = id ∧
    ∀ session, session? = some session →
      session.principal = life.principal ∧ session.lastAccessed = life.namedAt
  dropped : ∀ life, life? = some life → session? = none → ¬ life.Named now
  unknown : life? = none → session? = none

/-- The invariant, one id at a time. -/
theorem sessionInv_iff :
    SessionInv s ↔ (∀ id, Tracks s.now id (s.current id) (s.inner.sessions.lookup id)) ∧
      ∀ life ∈ s.replaced, ¬ life.Named s.now := by
  constructor
  · exact fun h => ⟨fun id => ⟨h.held id, h.dropped id, h.unknown id⟩, h.replaced⟩
  · exact fun h => ⟨fun id => (h.1 id).held, fun id => (h.1 id).dropped,
      fun id => (h.1 id).unknown, h.2⟩

theorem named_of_le {life : Life} {now later : Nat} (hLe : now ≤ later)
    (hNamed : life.Named later) :
    life.Named now := by
  unfold Life.Named at *
  omega

namespace Tracks

variable {now : Nat} {id : Str} {life? : Option Life} {session? : Option Session}

theorem wait {later : Nat} (hTracks : Tracks now id life? session?) (hLe : now ≤ later) :
    Tracks later id life? session? where
  held := hTracks.held
  dropped := fun life hLife hGone hNamed =>
    hTracks.dropped life hLife hGone (named_of_le hLe hNamed)
  unknown := hTracks.unknown

/-- Pruning keeps a session that was named in time. -/
theorem named (hTracks : Tracks now id life? session?) {life : Life} (hLife : life? = some life)
    {session : Session}
    (hFound : session?.filter (fun session => now - session.lastAccessed ≤ sessionTtl) =
      some session) : life.Named now := by
  obtain ⟨hSession, hAlive⟩ := Option.filter_eq_some_iff.mp hFound
  rw [Life.Named, ← ((hTracks.held life hLife).2 session hSession).2]
  exact of_decide_eq_true hAlive

/-- And drops one that was not. -/
theorem pruned (hTracks : Tracks now id life? session?) :
    Tracks now id life?
      (session?.filter fun session => now - session.lastAccessed ≤ sessionTtl) where
  held := by
    intro life hLife
    refine ⟨(hTracks.held life hLife).1, fun session hFound => ?_⟩
    exact (hTracks.held life hLife).2 session (Option.filter_eq_some_iff.mp hFound).1
  dropped := by
    intro life hLife hGone
    cases hSession : session? with
    | none => exact hTracks.dropped life hLife hSession
    | some session =>
      rw [hSession, Option.filter_eq_none_iff] at hGone
      rw [Life.Named, ← ((hTracks.held life hLife).2 session hSession).2]
      simpa using hGone session rfl
  unknown := by
    intro hNone
    rw [hTracks.unknown hNone, Option.filter_none]

/-- An accepted or rejected RESUME names both, if the session was still there. -/
theorem resume (hTracks : Tracks now id life? session?) (accepted : Bool) :
    Tracks now id (life?.map fun life => life.resume now accepted)
      ((session?.filter fun session => now - session.lastAccessed ≤ sessionTtl).map fun session =>
        { session with lastAccessed := now }) where
  held := by
    intro life hLife
    obtain ⟨old, hOld, rfl⟩ := Option.map_eq_some_iff.mp hLife
    refine ⟨(hTracks.held old hOld).1, fun found hFound => ?_⟩
    obtain ⟨session, hSession, rfl⟩ := Option.map_eq_some_iff.mp hFound
    have hNamed := hTracks.named hOld hSession
    exact ⟨((hTracks.pruned.held old hOld).2 session hSession).1, (if_pos hNamed).symm⟩
  dropped := by
    intro life hLife hGone
    obtain ⟨old, hOld, rfl⟩ := Option.map_eq_some_iff.mp hLife
    have hNot := hTracks.pruned.dropped old hOld (Option.map_eq_none_iff.mp hGone)
    have hSame : (old.resume now accepted).namedAt = old.namedAt := if_neg hNot
    rw [Life.Named, hSame]
    exact hNot
  unknown := by
    intro hNone
    rw [hTracks.pruned.unknown (Option.map_eq_none_iff.mp hNone), Option.map_none]

/-- The end of a connection changes nothing that the map goes by. -/
theorem close {old life : Life} (hTracks : Tracks now id (some old) session?)
    (hClose : old.close now = some life) : Tracks now id (some life) session? := by
  obtain ⟨hId, hPrincipal, hNamed⟩ := Life.close_eq_some hClose
  refine ⟨fun _ hLife => ?_, fun _ hLife hGone => ?_, fun hNone => (nomatch hNone)⟩
  · obtain rfl := Option.some.inj hLife
    rw [hId, hPrincipal, hNamed]
    exact hTracks.held old rfl
  · obtain rfl := Option.some.inj hLife
    rw [Life.Named, hNamed]
    exact hTracks.dropped old rfl hGone

end Tracks

/-- **Step lemma.** -/
theorem sessionInv_step (hInv : SessionInv s) (hStep : s.step action = some t) : SessionInv t := by
  obtain ⟨hTracks, hReplaced⟩ := sessionInv_iff.mp hInv
  refine sessionInv_iff.mpr ?_
  cases action with
  | wait time =>
    obtain rfl := Option.some.inj hStep
    have hLe : s.now ≤ s.now + time := Nat.le_add_right _ _
    exact ⟨fun id => (hTracks id).wait hLe,
      fun life hMem hNamed => hReplaced life hMem (named_of_le hLe hNamed)⟩
  | identify session draws =>
    obtain ⟨⟨id, inner'⟩, hCreate, rfl⟩ := Option.map_eq_some_iff.mp hStep
    obtain ⟨hFresh, rfl⟩ := createSession_eq_some hCreate
    refine ⟨fun id' => ?_, fun life hMem => ?_⟩
    · dsimp only
      rw [Map.lookup_insert_eq]
      by_cases hId : id' = id
      · subst hId
        rw [Function.update_self, if_pos rfl]
        refine ⟨fun life hLife => ?_, fun _ _ hGone => (nomatch hGone),
          fun hNone => (nomatch hNone)⟩
        obtain rfl := Option.some.inj hLife
        refine ⟨rfl, fun found hFound => ?_⟩
        obtain rfl := Option.some.inj hFound
        exact ⟨rfl, rfl⟩
      · rw [Function.update_of_ne hId, if_neg hId, lookup_pruneExpiredSessions]
        exact (hTracks id').pruned
    · -- the id was free, so what was under it had been dropped
      rcases List.mem_append.mp hMem with hOld | hBefore
      · rw [lookup_pruneExpiredSessions] at hFresh
        exact (hTracks id).pruned.dropped life (Option.mem_toList.mp hOld) hFresh
      · exact hReplaced life hBefore
  | resume sessionId principal pending =>
    obtain rfl := Option.some.inj hStep
    refine ⟨fun id => ?_, hReplaced⟩
    dsimp only
    rw [lookup_getSession, getSession_fst]
    by_cases hId : id = sessionId
    · subst hId
      rw [Function.update_self, if_pos rfl, lookup_pruneExpiredSessions]
      exact (hTracks id).resume _
    · rw [Function.update_of_ne hId, if_neg hId, lookup_pruneExpiredSessions]
      exact (hTracks id).pruned
  | close sessionId =>
    obtain ⟨life, hLife, rfl⟩ := Option.map_eq_some_iff.mp hStep
    obtain ⟨old, hOld, hClose⟩ := Option.bind_eq_some_iff.mp hLife
    refine ⟨fun id => ?_, hReplaced⟩
    have hBefore := hTracks id
    dsimp only
    by_cases hId : id = sessionId
    · subst hId
      rw [hOld] at hBefore
      rw [Function.update_self]
      exact hBefore.close hClose
    · rw [Function.update_of_ne hId]
      exact hBefore
  | closeReplaced i =>
    obtain ⟨life', hLife, rfl⟩ := Option.map_eq_some_iff.mp hStep
    obtain ⟨old, hOld, hClose⟩ := Option.bind_eq_some_iff.mp hLife
    obtain ⟨-, -, hNamed⟩ := Life.close_eq_some hClose
    refine ⟨hTracks, fun life hMem => ?_⟩
    rcases List.mem_or_eq_of_mem_set hMem with hBefore | rfl
    · exact hReplaced life hBefore
    · rw [Life.Named, hNamed]
      exact hReplaced old (List.mem_of_getElem? hOld)

/-- A session can be resumed exactly as long as it was named in time. -/
theorem finds_iff (hInv : SessionInv s) {life : Life} (hKnown : s.Known life) :
    s.Finds life ↔ life.Named s.now := by
  constructor
  · rintro ⟨hLife, hAccepts⟩
    obtain ⟨session, hLookup, hAlive, -⟩ := accepts_iff.mp hAccepts
    rw [Life.Named, ← ((hInv.held _ life hLife).2 session hLookup).2]
    exact hAlive
  · intro hNamed
    rcases hKnown with hLife | hReplaced
    · refine ⟨hLife, accepts_iff.mpr ?_⟩
      cases hLookup : s.inner.sessions.lookup life.sessionId with
      | none => exact absurd hNamed (hInv.dropped _ life hLife hLookup)
      | some session =>
        obtain ⟨hPrincipal, hAccessed⟩ := (hInv.held _ life hLife).2 session hLookup
        rw [Life.Named, ← hAccessed] at hNamed
        exact ⟨session, rfl, hNamed, hPrincipal⟩
    · exact absurd hNamed (hInv.replaced life hReplaced)

/-- **When a live session can be resumed.** In every state of every run, for
every session: its principal's RESUME is accepted while the session is in use
or for `SESSION_TTL` after, and no longer, if and only if the session is in use
or was for `SESSION_TTL` exactly when its IDENTIFY and the RESUMEs that named it
followed each other, and the present, within `SESSION_TTL`. -/
theorem session_resumable_iff {shards : List Shard} {shardCount : Nat} {steps : List SessionStep}
    (hRun : Runs.exec step (new shards shardCount) steps = some s) {life : Life}
    (hKnown : s.Known life) :
    ((life.InUse s.now → s.Finds life) ∧ (¬ life.InUse s.now → ¬ s.Finds life)) ↔
      (life.InUse s.now ↔ life.Named s.now) := by
  have hInv : SessionInv s :=
    Runs.exec_invariant (P := SessionInv) (fun _ _ _ hInv hStep => sessionInv_step hInv hStep)
      (sessionInv_new shards shardCount) hRun
  rw [finds_iff hInv hKnown, not_imp_not]
  exact iff_iff_implies_and_implies.symm

namespace SampleSession

def principal : SessionPrincipal := .client ['c']

/-- Client `c` identifies and gets session `x`. -/
def identify : SessionStep := .identify ⟨0, none, principal, some {7}, 0⟩ [['x']]

def minutes (n : Nat) : Nat := n * 60 * 1000

/-- The session's connection is open for 31 minutes. -/
def longLived : List SessionStep := [identify, .wait (minutes 31)]

/-- The connection ends, and after 20 minutes another client names the session. -/
def named : List SessionStep :=
  [identify, .close ['x'], .wait (minutes 20), .resume ['x'] (.client ['d']) true,
    .wait (minutes 20)]

end SampleSession

open SampleSession in
/-- Ten minutes after its connection ended, a session can be resumed. -/
theorem session_resumable_iff_closed :
    ∃ s, Runs.exec step (new [] 1) [identify, .close ['x'], .wait (minutes 10)] = some s ∧
      s.Finds ⟨['x'], principal, 0, 0, 0⟩ := by
  obtain ⟨s, hRun, hNow, hKnown⟩ : ∃ s : SessionRun,
      Runs.exec step (new [] 1) [identify, .close ['x'], .wait (minutes 10)] = some s ∧
        s.now = minutes 10 ∧ s.Known ⟨['x'], principal, 0, 0, 0⟩ := ⟨_, rfl, rfl, .inl rfl⟩
  have hInUse : Life.InUse ⟨['x'], principal, 0, 0, 0⟩ s.now := by
    rw [hNow]
    exact .inr (by decide)
  have hNamed : Life.Named ⟨['x'], principal, 0, 0, 0⟩ s.now := by
    rw [hNow, Life.Named]
    decide
  exact ⟨s, hRun, ((session_resumable_iff hRun hKnown).mpr (iff_of_true hInUse hNamed)).1 hInUse⟩

open SampleSession in
/-- A session that its connection uses is not found after 31 minutes, and one
that nobody used for 40 minutes is accepted. -/
theorem session_not_resumable :
    (∃ s, Runs.exec step (new [] 1) longLived = some s ∧
      Life.InUse ⟨['x'], principal, 1, 0, 0⟩ s.now ∧ s.Known ⟨['x'], principal, 1, 0, 0⟩ ∧
      ¬ s.Finds ⟨['x'], principal, 1, 0, 0⟩) ∧
    ∃ s, Runs.exec step (new [] 1) named = some s ∧
      ¬ Life.InUse ⟨['x'], principal, 0, 0, minutes 20⟩ s.now ∧
      s.Finds ⟨['x'], principal, 0, 0, minutes 20⟩ := by
  refine ⟨⟨_, rfl, .inl Nat.one_pos, .inl rfl, fun hFinds => ?_⟩,
    ⟨_, rfl, ?_, by decide +kernel, by decide +kernel⟩⟩
  · have hAccepts := hFinds.2
    revert hAccepts
    decide +kernel
  · rintro (hServing | hRecent)
    · exact absurd hServing (by decide)
    · revert hRecent
      decide +kernel

end SessionRun

end GatewayProxy
