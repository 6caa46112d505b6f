import GatewayProxy.Gateway.Confinement

/-!
# Finding a client's shard by its position

`handle_client` indexes the list of shards with the shard id of the client,
`shard_for_guild` searches the list for the id. The list holds the shards
`shard_start..shard_end`, so the position of a shard is its id only when
`shard_start` is 0.

Main results:

* `getElem?_shards`: the shard at a position.
* `shard_lookup_right_iff`: exactly when an IDENTIFY or RESUME that passes the
  checks gets the shard it names.
* `shard_lookup_wrong`: a proxy for shard 1 of 2 serves shard 1 to a client of
  shard 0, and aborts on a client of shard 1.
-/

namespace GatewayProxy

open Utf8 Assoc GatewayProxy.Inner

/-- The shards are those that `main` builds for the configured range; what
they hold besides their ids changes as the proxy runs. -/
structure Configured (inner : Inner) (shardStart shardEnd : Nat) : Prop where
  start_le : shardStart ≤ shardEnd
  end_le : shardEnd ≤ inner.shardCount
  ids : inner.shards.map Shard.id = (newShards shardStart shardEnd).map Shard.id

/-- The client is refused, or the access by position is in bounds and yields
the shard of that id, the one a lookup by id finds, and the connection uses it. -/
def ServesShard (inner : Inner) (shardId : Nat) (reply : Reply) : Prop :=
  reply.flow = .stop ∨
    ∃ shard, inner.shards[shardId]? = some shard ∧ shard.id = shardId ∧
      inner.shards.find? (fun s => s.id == shardId) = some shard ∧
      reply.flow = .next ∧ reply.conn.shardSender = some shardId

section Lookup

variable {cfg : Config} {lib : JsonLib} {env : Env} {inner : Inner} {shardStart shardEnd : Nat}

/-- The shard at a position is the one that many places after the first. -/
theorem getElem?_shards (hConf : Configured inner shardStart shardEnd) (position : Nat) :
    (inner.shards[position]?).map Shard.id =
      if position < shardEnd - shardStart then some (shardStart + position) else none := by
  have hIds : inner.shards.map Shard.id = List.range' shardStart (shardEnd - shardStart) := by
    rw [hConf.ids, newShards, List.map_map]
    exact List.map_id _
  rw [← List.getElem?_map, hIds]
  split
  · rename_i hLt
    rw [List.getElem?_range' hLt, Nat.one_mul]
  · rename_i hGe
    rw [List.getElem?_eq_none_iff, List.length_range']
    omega

/-- Below the end of a range that starts at 0, position and id agree. -/
theorem find?_shards (hConf : Configured inner 0 shardEnd) {position : Nat} {shard : Shard}
    (hShard : inner.shards[position]? = some shard) :
    inner.shards.find? (fun s => s.id == position) = some shard := by
  have hPlace := getElem?_shards hConf position
  rw [hShard, Option.map_some] at hPlace
  split at hPlace
  · rename_i hLt
    have hId : shard.id = position := by
      rw [Option.some.inj hPlace, Nat.zero_add]
    obtain ⟨hBound, hGet⟩ := List.getElem?_eq_some_iff.mp hShard
    rw [List.find?_eq_some_iff_getElem]
    refine ⟨by simpa using hId, position, hBound, hGet, ?_⟩
    intro j hj
    -- a shard at an earlier position has a smaller id
    have hEarlier := getElem?_shards hConf j
    have hjBound : j < inner.shards.length := by omega
    rw [if_pos (show j < shardEnd - 0 by omega), List.getElem?_eq_getElem hjBound,
      Option.map_some, Option.some.injEq, Nat.zero_add] at hEarlier
    have hNe : inner.shards[j].id ≠ position := by omega
    simpa using hNe
  · simp at hPlace

/-- The position of an id is right exactly in a range that starts at 0. -/
theorem shard_at_iff (hConf : Configured inner shardStart shardEnd) (shardId : Nat) :
    (∃ shard, inner.shards[shardId]? = some shard ∧ shard.id = shardId) ↔
      shardStart = 0 ∧ shardId < shardEnd := by
  have hPlace := getElem?_shards hConf shardId
  constructor
  · rintro ⟨shard, hShard, hId⟩
    rw [hShard, Option.map_some, hId] at hPlace
    split at hPlace
    · have hEq := Option.some.inj hPlace
      omega
    · simp at hPlace
  · rintro ⟨rfl, hLt⟩
    rw [if_pos (show shardId < shardEnd - 0 by omega), Option.map_eq_some_iff] at hPlace
    obtain ⟨shard, hShard, hId⟩ := hPlace
    exact ⟨shard, hShard, by omega⟩

-- ---------------------------------------------------------------------------
-- IDENTIFY
-- ---------------------------------------------------------------------------

/-- An IDENTIFY that passes the checks of `handle_client`; one of the random
session ids it draws is unused. -/
structure PassesIdentify (cfg : Config) (lib : JsonLib) (env : Env) (conn : Conn) (inner : Inner)
    (payload : Str) (info : IdentifyInfo) : Prop where
  pending : conn.compressPending = true
  parsed : lib.parseIdentify payload = some info
  count : info.shard.2 = inner.shardCount
  inRange : info.shard.1 < info.shard.2
  authenticated : ∃ auth, authenticateGatewayToken cfg env.clients env.dataState
    (normalizeGatewayToken info.token) = .ok auth
  drawn : ∃ id ∈ env.draws, (pruneExpiredSessions inner.sessions env.now).lookup id = none

theorem countConnection_inner (conn : Conn) (inner : Inner) (clientId : Option Str) :
    (countConnection conn inner clientId).2.shards = inner.shards ∧
      (countConnection conn inner clientId).2.sessions = inner.sessions := by
  unfold countConnection
  split
  · split <;> exact ⟨rfl, rfl⟩
  · exact ⟨rfl, rfl⟩

theorem leaveVoice_inner (inner : Inner) (shardId : Nat) (clientId : Option Str) :
    (leaveVoice inner shardId clientId).2.shards = inner.shards ∧
      (leaveVoice inner shardId clientId).2.sessions = inner.sessions := by
  unfold leaveVoice
  split <;> exact ⟨rfl, rfl⟩

theorem createSession_of_drawn {inner : Inner} {now : Nat} {draws : List Str} (session : Session)
    (hDrawn : ∃ id ∈ draws, (pruneExpiredSessions inner.sessions now).lookup id = none) :
    ∃ sessionId, inner.createSession session now draws = some (sessionId, { inner with
      sessions := (pruneExpiredSessions inner.sessions now).insert sessionId session }) ∧
      (pruneExpiredSessions inner.sessions now).lookup sessionId = none := by
  obtain ⟨id, hMem, hUnused⟩ := hDrawn
  cases hCreate : inner.createSession session now draws with
  | none =>
    rw [Inner.createSession, Option.map_eq_none_iff, List.find?_eq_none] at hCreate
    exact absurd (hCreate id hMem) (by simp [hUnused])
  | some created =>
    obtain ⟨sessionId, inner'⟩ := created
    obtain ⟨hFresh, rfl⟩ := createSession_eq_some hCreate
    exact ⟨sessionId, rfl, hFresh⟩

theorem handleIdentify_of_passes {conn : Conn} {payload : Str} {info : IdentifyInfo}
    (hPasses : PassesIdentify cfg lib env conn inner payload info) :
    ∃ auth, handleIdentify cfg lib env conn inner payload =
      acceptIdentify env conn inner info auth := by
  obtain ⟨auth, hAuth⟩ := hPasses.authenticated
  have hIdentifies : Identifies cfg lib env conn inner payload info auth :=
    ⟨hPasses.pending, hPasses.parsed, hPasses.count, hPasses.inRange, hAuth⟩
  exact ⟨auth, hIdentifies.reply⟩

/-- What such an IDENTIFY does: it stores a new session of the shard, and goes
on exactly when the position is in bounds. -/
theorem identify_reply {conn : Conn} {payload : Str} {info : IdentifyInfo}
    (hPasses : PassesIdentify cfg lib env conn inner payload info) :
    ∃ sessionId session,
      session.shardId = info.shard.1 ∧
      (pruneExpiredSessions inner.sessions env.now).lookup sessionId = none ∧
      (handleIdentify cfg lib env conn inner payload).inner.sessions =
        (pruneExpiredSessions inner.sessions env.now).insert sessionId session ∧
      match inner.shards[info.shard.1]? with
      | some shard => (handleIdentify cfg lib env conn inner payload).flow = .next ∧
          (handleIdentify cfg lib env conn inner payload).conn.shardSender = some shard.id
      | none => (handleIdentify cfg lib env conn inner payload).flow = .panics := by
  obtain ⟨auth, hReply⟩ := handleIdentify_of_passes hPasses
  rw [hReply]
  obtain ⟨hCountShards, hCountSessions⟩ := countConnection_inner conn inner auth.principal.clientId
  obtain ⟨hLeaveShards, hLeaveSessions⟩ := leaveVoice_inner
    (countConnection conn inner auth.principal.clientId).2 info.shard.1 auth.principal.clientId
  rw [hCountShards] at hLeaveShards
  rw [hCountSessions] at hLeaveSessions
  have hDrawn := hPasses.drawn
  rw [← hLeaveSessions] at hDrawn
  obtain ⟨sessionId, hCreate, hUnused⟩ := createSession_of_drawn
    ⟨info.shard.1, info.compress, auth.principal, auth.authorizedGuilds, env.now⟩ hDrawn
  rw [hLeaveSessions] at hUnused
  refine ⟨sessionId, ⟨info.shard.1, info.compress, auth.principal, auth.authorizedGuilds, env.now⟩,
    rfl, hUnused, ?_⟩
  unfold acceptIdentify
  dsimp only
  rw [hCreate]
  dsimp only
  rw [hLeaveShards]
  cases inner.shards[info.shard.1]? with
  | none => exact ⟨by rw [hLeaveSessions], rfl⟩
  | some shard =>
    dsimp only
    rw [countConnection_compressPending, if_pos hPasses.pending]
    exact ⟨by rw [hLeaveSessions], rfl, rfl⟩

/-- An IDENTIFY that passes gets its shard exactly when the range of shards
starts at 0 and contains the id. -/
theorem identify_serves_iff (hConf : Configured inner shardStart shardEnd) {conn : Conn}
    {payload : Str} {info : IdentifyInfo}
    (hPasses : PassesIdentify cfg lib env conn inner payload info) :
    ServesShard inner info.shard.1 (handleIdentify cfg lib env conn inner payload) ↔
      shardStart = 0 ∧ info.shard.1 < shardEnd := by
  obtain ⟨sessionId, session, -, -, -, hMatch⟩ := identify_reply hPasses
  rw [← shard_at_iff hConf]
  constructor
  · rintro (hStop | ⟨shard, hShard, hId, -⟩)
    · -- a passing IDENTIFY is never refused
      split at hMatch
      · exact absurd (hStop.symm.trans hMatch.1) (by decide)
      · exact absurd (hStop.symm.trans hMatch) (by decide)
    · exact ⟨shard, hShard, hId⟩
  · rintro ⟨shard, hShard, hId⟩
    rw [hShard] at hMatch
    obtain ⟨rfl, -⟩ := (shard_at_iff hConf info.shard.1).mp ⟨shard, hShard, hId⟩
    exact .inr ⟨shard, hShard, hId, find?_shards hConf hShard, hMatch.1, hId ▸ hMatch.2⟩

-- ---------------------------------------------------------------------------
-- RESUME
-- ---------------------------------------------------------------------------

/-- A session that such an IDENTIFY stored, as later RESUMEs left it. -/
def CreatedByIdentify (cfg : Config) (lib : JsonLib) (shardCount : Nat) (session : Session) :
    Prop :=
  ∃ env conn inner payload info sessionId stored,
    PassesIdentify cfg lib env conn inner payload info ∧ inner.shardCount = shardCount ∧
    inner.sessions.lookup sessionId = none ∧
    (handleIdentify cfg lib env conn inner payload).inner.sessions.lookup sessionId = some stored ∧
    session = { stored with lastAccessed := session.lastAccessed }

/-- A RESUME of such a session by its principal. -/
structure PassesResume (cfg : Config) (lib : JsonLib) (env : Env) (inner : Inner) (payload : Str)
    (info : ResumeInfo) (session : Session) : Prop where
  parsed : lib.parseResume payload = some info
  found : (inner.getSession info.sessionId env.now).1 = some session
  created : CreatedByIdentify cfg lib inner.shardCount session
  authenticated : ∃ auth, authenticateGatewayToken cfg env.clients env.dataState
    (normalizeGatewayToken info.token) = .ok auth ∧ session.principal = auth.principal

/-- The shard id of a stored session passed the check against the shard count. -/
theorem shardId_lt_of_created {shardCount : Nat} {session : Session}
    (hCreated : CreatedByIdentify cfg lib shardCount session) :
    session.shardId < shardCount := by
  obtain ⟨env, conn, inner, payload, info, sessionId, stored, hPasses, hCount, hNew, hStored,
    hSession⟩ := hCreated
  obtain ⟨drawn, created, hShardId, hUnused, hSessions, -⟩ := identify_reply hPasses
  have hRange := hPasses.inRange
  have hShards := hPasses.count
  have hOld : (pruneExpiredSessions inner.sessions env.now).lookup sessionId = none := by
    rw [pruneExpiredSessions, Map.lookup_retain, hNew, Option.filter_none]
  rw [hSessions, Map.lookup_insert_eq, hOld] at hStored
  split at hStored
  · obtain rfl := Option.some.inj hStored
    rw [hSession]
    show created.shardId < shardCount
    omega
  · simp at hStored

/-- What such a RESUME does. -/
theorem resume_reply (conn : Conn) {payload : Str} {info : ResumeInfo} {session : Session}
    (hPasses : PassesResume cfg lib env inner payload info session) :
    match inner.shards[session.shardId]? with
    | some shard =>
      if conn.compressPending then
        (handleResume cfg lib env conn inner payload).flow = .next ∧
          (handleResume cfg lib env conn inner payload).conn.shardSender = some shard.id
      else (handleResume cfg lib env conn inner payload).flow = .stop
    | none => (handleResume cfg lib env conn inner payload).flow = .panics := by
  obtain ⟨auth, hAuth, hPrincipal⟩ := hPasses.authenticated
  have hResumes : Resumes cfg lib env inner payload info auth session :=
    ⟨hPasses.parsed, hAuth, hPasses.found, hPrincipal⟩
  rw [hResumes.reply]
  unfold acceptResume
  rw [getSession_shards]
  cases inner.shards[session.shardId]? with
  | none => rfl
  | some shard =>
    dsimp only
    rw [countConnection_compressPending]
    split
    · exact ⟨rfl, countConnection_shardSender { conn with shardSender := some shard.id } _
        session.principal.clientId⟩
    · rfl

/-- A RESUME gets the shard of its session, or is refused, exactly when the
position is in bounds and the range starts at 0 or the connection has a
principal already. -/
theorem resume_serves_iff (hConf : Configured inner shardStart shardEnd) {conn : Conn}
    {payload : Str} {info : ResumeInfo} {session : Session}
    (hPasses : PassesResume cfg lib env inner payload info session) :
    ServesShard inner session.shardId (handleResume cfg lib env conn inner payload) ↔
      session.shardId < shardEnd - shardStart ∧
        (shardStart = 0 ∨ conn.compressPending = false) := by
  have hMatch := resume_reply conn hPasses
  have hPlace := getElem?_shards hConf session.shardId
  have hRight := shard_at_iff hConf session.shardId
  cases hShard : inner.shards[session.shardId]? with
  | none =>
    rw [hShard] at hMatch hPlace hRight
    have hBound : ¬ session.shardId < shardEnd - shardStart := by
      intro hLt
      rw [if_pos hLt] at hPlace
      simp at hPlace
    constructor
    · rintro (hStop | ⟨shard, hSome, -⟩)
      · exact absurd (hStop.symm.trans hMatch) (by decide)
      · simp [hShard] at hSome
    · exact fun h => absurd h.1 hBound
  | some shard =>
    rw [hShard] at hMatch hPlace hRight
    have hBound : session.shardId < shardEnd - shardStart := by
      by_contra hGe
      rw [if_neg hGe] at hPlace
      simp at hPlace
    dsimp only at hMatch
    split at hMatch
    · rename_i hPending
      constructor
      · rintro (hStop | ⟨shard', hSome, hId, -⟩)
        · exact absurd (hStop.symm.trans hMatch.1) (by decide)
        · rw [hShard] at hSome
          exact ⟨hBound, .inl (hRight.mp ⟨shard', hSome, hId⟩).1⟩
      · rintro ⟨-, rfl | hDone⟩
        · obtain ⟨shard', hSome, hId⟩ := hRight.mpr ⟨rfl, by omega⟩
          obtain rfl := Option.some.inj hSome
          exact .inr ⟨shard, hShard, hId, find?_shards hConf hShard, hMatch.1, hId ▸ hMatch.2⟩
        · rw [hPending] at hDone
          simp at hDone
    · rename_i hDone
      exact ⟨fun _ => ⟨hBound, .inr (by simpa using hDone)⟩, fun _ => .inl hMatch⟩

end Lookup

/-- **Exactly when the shard lookup by position is safe and right.** For every
configured range of shards, an IDENTIFY that passes the checks gets the shard
it names if and only if the range starts at 0 and contains the id; a RESUME of
a session of such an IDENTIFY gets it, or is refused, if and only if the
position is in bounds and the range starts at 0 or the connection has a
principal already. -/
theorem shard_lookup_right_iff (cfg : Config) (lib : JsonLib) (env : Env) (conn : Conn)
    (inner : Inner) (payload : Str) (shardStart shardEnd : Nat)
    (hConf : Configured inner shardStart shardEnd) :
    (∀ info, PassesIdentify cfg lib env conn inner payload info →
      (ServesShard inner info.shard.1 (handleIdentify cfg lib env conn inner payload) ↔
        shardStart = 0 ∧ info.shard.1 < shardEnd)) ∧
    ∀ info session, PassesResume cfg lib env inner payload info session →
      session.shardId < inner.shardCount ∧
      (ServesShard inner session.shardId (handleResume cfg lib env conn inner payload) ↔
        session.shardId < shardEnd - shardStart ∧
          (shardStart = 0 ∨ conn.compressPending = false)) :=
  ⟨fun _ hPasses => identify_serves_iff hConf hPasses,
    fun _ _ hPasses => ⟨shardId_lt_of_created hPasses.created, resume_serves_iff hConf hPasses⟩⟩

theorem Sample.configured (shardStart shardEnd shardCount : Nat) (hStart : shardStart ≤ shardEnd)
    (hEnd : shardEnd ≤ shardCount) :
    Configured (Inner.new (newShards shardStart shardEnd) shardCount) shardStart shardEnd :=
  ⟨hStart, hEnd, rfl⟩

theorem Sample.authenticated :
    authenticateGatewayToken Sample.config Sample.clients .noDatabase
      (normalizeGatewayToken "c:s".toList) = .ok ⟨.client "c".toList, some {7}⟩ := by
  decide +kernel

theorem Sample.passesIdentify (shards : List Shard) (shard : Nat × Nat) (hLt : shard.1 < shard.2) :
    PassesIdentify Sample.config (Sample.lib shard) Sample.env Conn.new (Inner.new shards shard.2)
      (Sample.identify shard) ⟨none, shard, "c:s".toList⟩ where
  pending := rfl
  parsed := by simp [Sample.lib]
  count := rfl
  inRange := hLt
  authenticated := ⟨_, Sample.authenticated⟩
  drawn := ⟨"session".toList, by decide, rfl⟩

/-- On a proxy for shards 0 and 1 a client of shard 1 gets shard 1. -/
theorem shard_lookup_right_iff_from_zero :
    ServesShard (Inner.new (newShards 0 2) 2) 1
      (handleIdentify Sample.config (Sample.lib (1, 2)) Sample.env Conn.new
        (Inner.new (newShards 0 2) 2) (Sample.identify (1, 2))) :=
  ((shard_lookup_right_iff Sample.config (Sample.lib (1, 2)) Sample.env Conn.new
    (Inner.new (newShards 0 2) 2) (Sample.identify (1, 2)) 0 2
    (Sample.configured 0 2 2 (by decide) (by decide))).1 _
    (Sample.passesIdentify (newShards 0 2) (1, 2) (by decide))).mpr ⟨rfl, by decide⟩

/-- A proxy configured for shard 1 of 2: a client of shard 0 passes the checks
and is served shard 1, and a client of shard 1 passes them and aborts the proxy. -/
theorem shard_lookup_wrong :
    Configured (Inner.new (newShards 1 2) 2) 1 2 ∧
    PassesIdentify Sample.config (Sample.lib (0, 2)) Sample.env Conn.new
      (Inner.new (newShards 1 2) 2) (Sample.identify (0, 2)) ⟨none, (0, 2), "c:s".toList⟩ ∧
    ¬ ServesShard (Inner.new (newShards 1 2) 2) 0
      (handleIdentify Sample.config (Sample.lib (0, 2)) Sample.env Conn.new
        (Inner.new (newShards 1 2) 2) (Sample.identify (0, 2))) ∧
    (handleIdentify Sample.config (Sample.lib (0, 2)) Sample.env Conn.new
      (Inner.new (newShards 1 2) 2) (Sample.identify (0, 2))).conn.shardSender = some 1 ∧
    (handleIdentify Sample.config (Sample.lib (1, 2)) Sample.env Conn.new
      (Inner.new (newShards 1 2) 2) (Sample.identify (1, 2))).flow = .panics := by
  have hConf := Sample.configured 1 2 2 (by decide) (by decide)
  have hPasses := Sample.passesIdentify (newShards 1 2) (0, 2) (by decide)
  refine ⟨hConf, hPasses, ?_, by decide +kernel, by decide +kernel⟩
  intro hServes
  exact absurd ((identify_serves_iff hConf hPasses).mp hServes).1 (by decide)

end GatewayProxy
