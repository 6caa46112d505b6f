import GatewayProxy.Gateway.Confinement
import GatewayProxy.Lib.Runs

/-!
# Counting connections

`active_client_connections` goes up in two arms of the loop of `handle_client`
and down once after it. What an arm accepts is stated on its own
(`acceptedClient`), and `counts_input` says that a round of the loop counts
exactly that. The rest is a proxy with any number of connections, whose rounds
and teardowns come in any order.

Main results:

* `counts_input`: a round counts what it accepts, if nothing was counted on the
  connection yet.
* `Counting.accounted_step`, `Counting.connection_counting_exact`: the count of
  a client is the number of its connections that are not torn down.
-/

namespace GatewayProxy

open Utf8 Assoc GatewayProxy.Inner

-- ---------------------------------------------------------------------------
-- What a round accepts
-- ---------------------------------------------------------------------------

/-- The principal of an IDENTIFY that passes every check. -/
def identifiedAs (cfg : Config) (lib : JsonLib) (env : Env) (inner : Inner) (payload : Str) :
    Option SessionPrincipal :=
  match lib.parseIdentify payload with
  | none => none
  | some info =>
    if info.shard.2 = inner.shardCount ∧ info.shard.1 < info.shard.2 then
      match authenticateGatewayToken cfg env.clients env.dataState
          (normalizeGatewayToken info.token) with
      | .ok auth => some auth.principal
      | _ => none
    else none

/-- The principal of a RESUME that finds a session of its own. -/
def resumedAs (cfg : Config) (lib : JsonLib) (env : Env) (inner : Inner) (payload : Str) :
    Option SessionPrincipal :=
  match lib.parseResume payload with
  | none => none
  | some info =>
    match authenticateGatewayToken cfg env.clients env.dataState
        (normalizeGatewayToken info.token) with
    | .ok auth =>
      (inner.getSession info.sessionId env.now).1.bind fun session =>
        if session.principal = auth.principal then some auth.principal else none
    | _ => none

/-- The tenant whose IDENTIFY or RESUME a round accepts. An IDENTIFY counts on
a connection that had no IDENTIFY or RESUME before. -/
def acceptedClient (cfg : Config) (lib : JsonLib) (env : Env) (conn : Conn) (inner : Inner) :
    ClientInput → Option Str
  | .text payload =>
    match GatewayEvent.fromJson payload with
    | none => none
    | some event =>
      if event.op.op = 2 then
        if conn.compressPending then
          (identifiedAs cfg lib env inner payload).bind SessionPrincipal.clientId
        else none
      else if event.op.op = 6 then
        (resumedAs cfg lib env inner payload).bind SessionPrincipal.clientId
      else none
  | _ => none

/-- A round counts its connection for the client, or for nobody. -/
structure Counts (conn : Conn) (inner : Inner) (clientId : Option Str) (reply : Reply) : Prop where
  activeClientId : reply.conn.activeClientId =
    if conn.activeClientId.isNone then clientId else conn.activeClientId
  connections : reply.inner.activeClientConnections =
    (countConnection conn inner clientId).2.activeClientConnections

variable {cfg : Config} {lib : JsonLib} {env : Env} {conn : Conn} {inner : Inner}

/-- A round that leaves the counts and the counted client alone. -/
theorem counts_none {reply : Reply} (hActive : reply.conn.activeClientId = conn.activeClientId)
    (hInner : reply.inner.activeClientConnections = inner.activeClientConnections) :
    Counts conn inner none reply where
  activeClientId := by
    rw [hActive]
    cases conn.activeClientId <;> rfl
  connections := hInner

theorem countConnection_connections (conn' : Conn) (inner' : Inner) (clientId : Option Str)
    (hActive : conn'.activeClientId = conn.activeClientId)
    (hInner : inner'.activeClientConnections = inner.activeClientConnections) :
    (countConnection conn' inner' clientId).2.activeClientConnections =
      (countConnection conn inner clientId).2.activeClientConnections := by
  have hCount : ∀ c, inner'.connectionCount c = inner.connectionCount c := by
    intro c
    rw [connectionCount, connectionCount, hInner]
  unfold countConnection
  cases clientId with
  | none => exact hInner
  | some clientId =>
    dsimp only
    rw [hActive]
    split
    · show inner'.activeClientConnections.insert clientId _ =
        inner.activeClientConnections.insert clientId _
      rw [hInner, hCount]
    · exact hInner

theorem leaveVoice_connections (inner : Inner) (shardId : Nat) (clientId : Option Str) :
    (leaveVoice inner shardId clientId).2.activeClientConnections =
      inner.activeClientConnections := by
  unfold leaveVoice
  split <;> rfl

/-- An IDENTIFY that passed its checks. -/
theorem counts_acceptIdentify {info : IdentifyInfo} {auth : AuthContext} :
    Counts conn inner auth.principal.clientId (acceptIdentify env conn inner info auth) := by
  have hActive := countConnection_activeClientId conn inner auth.principal.clientId
  have hLeave := leaveVoice_connections (countConnection conn inner auth.principal.clientId).2
    info.shard.1 auth.principal.clientId
  unfold acceptIdentify
  dsimp only
  split
  · exact ⟨hActive, hLeave⟩
  · rename_i sessionId stored hCreate
    have hStored := congrArg Inner.activeClientConnections (createSession_eq_some hCreate).2
    split
    · exact ⟨hActive, hStored.trans hLeave⟩
    · split
      · exact ⟨hActive, hStored.trans hLeave⟩
      · exact ⟨hActive, hStored.trans hLeave⟩

theorem identifiedAs_of_passes {payload : Str} {info : IdentifyInfo} {auth : AuthContext}
    (hPasses : Identifies cfg lib env conn inner payload info auth) :
    identifiedAs cfg lib env inner payload = some auth.principal := by
  unfold identifiedAs
  rw [hPasses.parsed]
  dsimp only
  rw [if_pos ⟨hPasses.count, hPasses.inRange⟩, hPasses.authenticated]

theorem identifiedAs_of_fails {payload : Str} (hPending : conn.compressPending = true)
    (hFails : ∀ info auth, ¬ Identifies cfg lib env conn inner payload info auth) :
    identifiedAs cfg lib env inner payload = none := by
  unfold identifiedAs
  cases hParse : lib.parseIdentify payload with
  | none => rfl
  | some info =>
    dsimp only
    split
    · rename_i hShard
      split
      · rename_i auth hAuth
        exact absurd ⟨hPending, hParse, hShard.1, hShard.2, hAuth⟩ (hFails info auth)
      · rfl
    · rfl

theorem counts_identify {payload : Str} :
    Counts conn inner
      (if conn.compressPending then
        (identifiedAs cfg lib env inner payload).bind SessionPrincipal.clientId
      else none)
      (handleIdentify cfg lib env conn inner payload) := by
  have hExit := handleIdentify_exit cfg lib env conn inner payload
  generalize handleIdentify cfg lib env conn inner payload = reply at hExit ⊢
  cases hExit with
  | accepted hPasses =>
    rw [if_pos hPasses.pending, identifiedAs_of_passes hPasses, Option.bind_some]
    exact counts_acceptIdentify
  | refused flow hFails =>
    split
    · rename_i hPending
      rw [identifiedAs_of_fails hPending hFails, Option.bind_none]
      exact counts_none rfl rfl
    · exact counts_none rfl rfl

/-- A RESUME of the principal's own session, unless its shard is not there. -/
theorem counts_acceptResume {inner' : Inner} {info : ResumeInfo} {auth : AuthContext}
    {session : Session} (hInner : inner'.activeClientConnections = inner.activeClientConnections)
    (hFlow : (acceptResume conn inner' info auth session).flow ≠ .panics) :
    Counts conn inner session.principal.clientId (acceptResume conn inner' info auth session) := by
  unfold acceptResume at hFlow ⊢
  split at hFlow
  · exact absurd rfl hFlow
  · rename_i shard hShard
    have hActive := countConnection_activeClientId { conn with shardSender := some shard.id } inner'
      session.principal.clientId
    have hConnections : (countConnection { conn with shardSender := some shard.id } inner'
          session.principal.clientId).2.activeClientConnections =
        (countConnection conn inner session.principal.clientId).2.activeClientConnections :=
      countConnection_connections _ inner' _ rfl hInner
    dsimp only
    split
    · exact ⟨hActive, hConnections⟩
    · exact ⟨hActive, hConnections⟩

theorem resumedAs_of_passes {payload : Str} {info : ResumeInfo} {auth : AuthContext}
    {session : Session} (hPasses : Resumes cfg lib env inner payload info auth session) :
    resumedAs cfg lib env inner payload = some session.principal := by
  unfold resumedAs
  rw [hPasses.parsed]
  dsimp only
  rw [hPasses.authenticated]
  dsimp only
  rw [hPasses.found, Option.bind_some, if_pos hPasses.own, hPasses.own]

theorem resumedAs_of_fails {payload : Str}
    (hFails : ∀ info auth session, ¬ Resumes cfg lib env inner payload info auth session) :
    resumedAs cfg lib env inner payload = none := by
  unfold resumedAs
  cases hParse : lib.parseResume payload with
  | none => rfl
  | some info =>
    dsimp only
    split
    · rename_i auth hAuth
      cases hFound : (inner.getSession info.sessionId env.now).1 with
      | none => rfl
      | some session =>
        rw [Option.bind_some, if_neg]
        exact fun hOwn => hFails info auth session ⟨hParse, hAuth, hFound, hOwn⟩
    · rfl

theorem counts_resume {payload : Str}
    (hFlow : (handleResume cfg lib env conn inner payload).flow ≠ .panics) :
    Counts conn inner ((resumedAs cfg lib env inner payload).bind SessionPrincipal.clientId)
      (handleResume cfg lib env conn inner payload) := by
  have hExit := handleResume_exit cfg lib env conn inner payload
  generalize handleResume cfg lib env conn inner payload = reply at hExit hFlow ⊢
  cases hExit with
  | @accepted info auth session hPasses =>
    have hSame := (getSession_sameOwners inner info.sessionId env.now).activeClientConnections
    rw [resumedAs_of_passes hPasses, Option.bind_some]
    exact counts_acceptResume hSame hFlow
  | unread flow hUnread =>
    rw [resumedAs_of_fails fun info auth session h => hUnread info auth h.parsed h.authenticated,
      Option.bind_none]
    exact counts_none rfl rfl
  | @rejected info reason hFails =>
    have hSame := (getSession_sameOwners inner info.sessionId env.now).activeClientConnections
    rw [resumedAs_of_fails hFails, Option.bind_none]
    exact counts_none rfl hSame

theorem counts_command {op : Nat} {payload : Str} :
    Counts conn inner none (handleCommand cfg lib env conn inner op payload) := by
  have hExit := handleCommand_exit cfg lib env conn inner op payload
  generalize handleCommand cfg lib env conn inner op payload = reply at hExit ⊢
  cases hExit with
  | closed hSender => exact counts_none rfl rfl
  | direct hSender hScope => exact counts_none rfl rfl
  | filtered hScope => exact counts_none rfl rfl
  | sent hSender hScope hGuild hRebuilt hSend =>
    cases hSend with
    | dropped hOwners => exact counts_none rfl hOwners.1
    | sent hOwners hMembers hVoice hChannel => exact counts_none rfl hOwners.1

/-- **A round counts what it accepts.** -/
theorem counts_input {input : ClientInput}
    (hFlow : (handleInput cfg lib env conn inner input).flow ≠ .panics) :
    Counts conn inner (acceptedClient cfg lib env conn inner input)
      (handleInput cfg lib env conn inner input) := by
  cases input with
  | binary | ended | sinkDone | heartbeatTimeout => exact counts_none rfl rfl
  | text payload =>
    unfold handleInput at hFlow ⊢
    unfold acceptedClient
    dsimp only at hFlow ⊢
    cases hEvent : GatewayEvent.fromJson payload with
    | none => exact counts_none rfl rfl
    | some event =>
      rw [hEvent] at hFlow
      dsimp only at hFlow ⊢
      split at hFlow
      · rename_i hOp
        rw [hOp]
        exact counts_none rfl rfl
      · rename_i hOp
        rw [hOp, if_pos rfl]
        exact counts_identify
      · rename_i hOp
        rw [hOp, if_neg (by decide), if_pos rfl]
        exact counts_resume hFlow
      · rename_i hHeartbeat hIdentify hResume
        rw [if_neg hIdentify, if_neg hResume]
        exact counts_command

-- ---------------------------------------------------------------------------
-- A proxy with its connections
-- ---------------------------------------------------------------------------

inductive LoopPhase
  | looping
  /-- a round ended the loop, the teardown is still to come -/
  | ended
  | tornDown
  deriving DecidableEq

/-- A gateway connection, with its history. -/
structure Counted where
  conn : Conn
  phase : LoopPhase
  /-- history: the tenants whose IDENTIFY or RESUME was accepted, in order -/
  accepted : List Str
  /-- history: by how much its rounds and its teardown raised each count -/
  rises : Str → Nat
  /-- history: by how much they lowered it -/
  falls : Str → Nat

namespace Counted

def new : Counted := ⟨.new, .looping, [], fun _ => 0, fun _ => 0⟩

/-- Writes down what a round or a teardown did to the counts. -/
def measure (k : Counted) (before after : Inner) : Counted :=
  { k with
    rises := fun c => k.rises c + (after.connectionCount c - before.connectionCount c)
    falls := fun c => k.falls c + (before.connectionCount c - after.connectionCount c) }

/-- Not torn down, and first accepted as the client. -/
def servesClient (c : Str) (k : Counted) : Bool :=
  k.phase != .tornDown && k.accepted.head? == some c

theorem servesClient_iff {c : Str} {k : Counted} :
    k.servesClient c = true ↔ k.phase ≠ .tornDown ∧ k.accepted.head? = some c := by
  rw [servesClient, Bool.and_eq_true, bne_iff_ne, beq_iff_eq]

/-- The connection counts for the first client it was accepted as: once while
it is up, and no more once it is torn down. -/
structure Balanced (k : Counted) : Prop where
  active : k.conn.activeClientId = k.accepted.head?
  rises : ∀ c, k.rises c = if k.accepted.head? = some c then 1 else 0
  falls : ∀ c, k.falls c = if k.phase = .tornDown then k.rises c else 0

end Counted

structure Counting where
  inner : Inner
  connections : List Counted

inductive CountingStep
  | accept
  /-- a round of the loop of a connection -/
  | round (connection : Nat) (env : Env) (input : ClientInput)
  | teardown (connection : Nat) (now : Nat)
  /-- what the other tasks do to the shared state -/
  | other (inner : Inner)

namespace Counting

def new (shards : List Shard) (shardCount : Nat) : Counting := ⟨Inner.new shards shardCount, []⟩

/-- A round that panics ends the process, and one that spins is not over. -/
def step (cfg : Config) (lib : JsonLib) (s : Counting) : CountingStep → Option Counting
  | .accept => some { s with connections := s.connections ++ [.new] }
  | .round i env input =>
    match s.connections[i]? with
    | none => none
    | some k =>
      let reply := handleInput cfg lib env k.conn s.inner input
      if k.phase = .looping ∧ reply.flow ≠ .panics ∧ reply.flow ≠ .spins then
        let k := { k with
          conn := reply.conn
          phase := if reply.flow = Flow.next then .looping else .ended
          accepted := k.accepted ++ (acceptedClient cfg lib env k.conn s.inner input).toList }
        some ⟨reply.inner, s.connections.set i (k.measure s.inner reply.inner)⟩
      else none
  | .teardown i now =>
    match s.connections[i]? with
    | none => none
    | some k =>
      let inner := GatewayProxy.teardown k.conn s.inner now
      if k.phase = .ended then
        some ⟨inner, s.connections.set i ({ k with phase := .tornDown }.measure s.inner inner)⟩
      else none
  | .other inner =>
    if inner.activeClientConnections = s.inner.activeClientConnections then
      some { s with inner := inner }
    else none

/-- How many connections serve the client. -/
def serving (s : Counting) (c : Str) : Nat := s.connections.countP (Counted.servesClient c)

/-- An entry of the counts: none stands for zero. -/
def entryOf (n : Nat) : Option Nat := if n = 0 then none else some n

structure Accounted (s : Counting) : Prop where
  counts : ∀ c, s.inner.activeClientConnections.lookup c = entryOf (s.serving c)
  balanced : ∀ k ∈ s.connections, k.Balanced

theorem accounted_new (shards : List Shard) (shardCount : Nat) :
    Accounted (new shards shardCount) :=
  ⟨fun _ => rfl, fun k hk => by cases hk⟩

theorem getD_entryOf (n : Nat) : (entryOf n).getD 0 = n := by
  unfold entryOf
  split
  · rename_i hZero
    exact hZero.symm
  · rfl

variable {s t : Counting}

theorem Accounted.count (hInv : Accounted s) (c : Str) :
    s.inner.connectionCount c = s.serving c := by
  rw [connectionCount, hInv.counts, getD_entryOf]

/-- What counting a connection does to each entry. -/
theorem lookup_countConnection (clientId : Option Str) (c : Str) :
    (countConnection conn inner clientId).2.activeClientConnections.lookup c =
      if conn.activeClientId = none ∧ clientId = some c then some (inner.connectionCount c + 1)
      else inner.activeClientConnections.lookup c := by
  unfold countConnection
  cases clientId with
  | none => simp
  | some clientId =>
    cases hActive : conn.activeClientId with
    | some active => simp
    | none =>
      show (inner.activeClientConnections.insert clientId _).lookup c = _
      rw [Map.lookup_insert_eq]
      by_cases hClient : c = clientId
      · rw [if_pos hClient, if_pos ⟨rfl, congrArg some hClient.symm⟩, hClient]
      · rw [if_neg hClient, if_neg fun h => hClient (Option.some.inj h.2).symm]

/-- What a teardown does to each entry. -/
theorem lookup_teardown (now : Nat) (c : Str) :
    (GatewayProxy.teardown conn inner now).activeClientConnections.lookup c =
      if conn.activeClientId = some c then entryOf (inner.connectionCount c - 1)
      else inner.activeClientConnections.lookup c := by
  unfold GatewayProxy.teardown
  cases conn.activeClientId with
  | none => rfl
  | some clientId =>
    have hMark : (inner.markClientDisconnected clientId now).activeClientConnections =
        (inner.countDisconnected clientId).activeClientConnections := by
      unfold markClientDisconnected
      split <;> rfl
    dsimp only
    rw [hMark]
    unfold countDisconnected entryOf
    by_cases hClient : c = clientId
    · subst hClient
      rw [if_pos rfl]
      split
      · rename_i hLast
        rw [if_pos (by omega)]
        exact AList.lookup_erase _ _
      · rename_i hMore
        rw [if_neg (by omega)]
        exact AList.lookup_insert _
    · rw [if_neg fun h => hClient (Option.some.inj h).symm]
      split
      · exact AList.lookup_erase_ne hClient
      · exact AList.lookup_insert_ne hClient

/-- A step of one connection, whose effect on the counts matches its own. -/
theorem Accounted.set (hInv : Accounted s) {i : Nat} {k k' : Counted} {inner' : Inner}
    (hk : s.connections[i]? = some k)
    (hCounts : ∀ c, ∃ n, inner'.activeClientConnections.lookup c = entryOf n ∧
      n + (if k.servesClient c then 1 else 0) =
        s.inner.connectionCount c + if k'.servesClient c then 1 else 0)
    (hBalanced : k'.Balanced) : Accounted ⟨inner', s.connections.set i k'⟩ := by
  obtain ⟨hi, hGet⟩ := List.getElem?_eq_some_iff.mp hk
  refine ⟨fun c => ?_, fun l hl => ?_⟩
  · obtain ⟨n, hEntry, hTotal⟩ := hCounts c
    have hSet : (s.connections.set i k').countP (Counted.servesClient c) =
        s.connections.countP (Counted.servesClient c) - (if k.servesClient c then 1 else 0) +
          if k'.servesClient c then 1 else 0 := by
      rw [List.countP_set hi, hGet]
    have hMember : (if k.servesClient c then 1 else 0) ≤
        s.connections.countP (Counted.servesClient c) := by
      split
      · rename_i hServes
        exact List.countP_pos_iff.mpr ⟨k, List.mem_of_getElem? hk, hServes⟩
      · exact Nat.zero_le _
    have hBefore := hInv.count c
    unfold serving at hBefore ⊢
    rw [hEntry, hSet]
    congr 1
    omega
  · rcases List.mem_or_eq_of_mem_set hl with hOld | rfl
    · exact hInv.balanced l hOld
    · exact hBalanced

/-- A round counts its connection when it is the first to accept a tenant. -/
theorem Accounted.round (hInv : Accounted s) {i : Nat} {k : Counted} {input : ClientInput}
    {phase : LoopPhase} (hk : s.connections[i]? = some k) (hPhase : k.phase = .looping)
    (hFlow : (handleInput cfg lib env k.conn s.inner input).flow ≠ .panics)
    (hNext : phase ≠ .tornDown) :
    Accounted ⟨(handleInput cfg lib env k.conn s.inner input).inner, s.connections.set i
      (Counted.measure
        { k with
          conn := (handleInput cfg lib env k.conn s.inner input).conn
          phase := phase
          accepted := k.accepted ++ (acceptedClient cfg lib env k.conn s.inner input).toList }
        s.inner (handleInput cfg lib env k.conn s.inner input).inner)⟩ := by
  obtain ⟨hActive, hRises, hFalls⟩ := hInv.balanced k (List.mem_of_getElem? hk)
  have hCounts : Counts k.conn s.inner (acceptedClient cfg lib env k.conn s.inner input)
      (handleInput cfg lib env k.conn s.inner input) := counts_input hFlow
  set reply := handleInput cfg lib env k.conn s.inner input
  set accepted := acceptedClient cfg lib env k.conn s.inner input
  -- the round counts for `c` exactly when it makes `c` the first accepted client
  have hHead : (k.accepted ++ accepted.toList).head? =
      if k.conn.activeClientId.isNone then accepted else k.conn.activeClientId := by
    rw [hActive, List.head?_append]
    cases k.accepted with
    | nil => cases accepted <;> rfl
    | cons first rest => rfl
  have hEntry : ∀ c, reply.inner.activeClientConnections.lookup c =
      if k.conn.activeClientId = none ∧ accepted = some c then
        some (s.inner.connectionCount c + 1)
      else s.inner.activeClientConnections.lookup c := by
    intro c
    rw [hCounts.connections, lookup_countConnection]
  have hCount : ∀ c, reply.inner.connectionCount c + (if k.accepted.head? = some c then 1 else 0) =
      s.inner.connectionCount c +
        if (k.accepted ++ accepted.toList).head? = some c then 1 else 0 := by
    intro c
    rw [connectionCount, hEntry, hHead, ← hActive]
    cases k.conn.activeClientId with
    | none =>
      by_cases hClient : accepted = some c
      · simp [hClient]
      · simp [hClient, connectionCount]
    | some active => simp [connectionCount]
  refine hInv.set hk (fun c => ⟨reply.inner.connectionCount c, ?_, ?_⟩) ?_
  · rw [connectionCount, hEntry]
    split
    · rfl
    · rw [hInv.counts, getD_entryOf]
  · have hBefore : (k.servesClient c = true) = (k.accepted.head? = some c) := by
      rw [Counted.servesClient_iff, hPhase]
      simp
    have hAfter := hCount c
    simp only [hBefore, Counted.servesClient_iff, Counted.measure, ne_eq, hNext, not_false_eq_true,
      true_and]
    exact hAfter
  · have hKeeps : ∀ c, k.accepted.head? = some c →
        (k.accepted ++ accepted.toList).head? = some c := by
      intro c hFirst
      rw [List.head?_append, hFirst]
      rfl
    refine ⟨hCounts.activeClientId.trans hHead.symm, fun c => ?_, fun c => ?_⟩
    · have hAfter := hCount c
      have hBefore := hRises c
      show k.rises c + _ = if (k.accepted ++ accepted.toList).head? = some c then 1 else 0
      by_cases hOld : k.accepted.head? = some c
      · rw [if_pos hOld, if_pos (hKeeps c hOld)] at hAfter
        rw [if_pos hOld] at hBefore
        rw [if_pos (hKeeps c hOld)]
        omega
      · rw [if_neg hOld] at hAfter hBefore
        omega
    · have hAfter := hCount c
      have hBefore := hFalls c
      rw [if_neg (by rw [hPhase]; decide)] at hBefore
      show k.falls c + _ = if phase = .tornDown then _ else 0
      rw [if_neg hNext, hBefore]
      by_cases hOld : k.accepted.head? = some c
      · rw [if_pos hOld, if_pos (hKeeps c hOld)] at hAfter
        omega
      · rw [if_neg hOld] at hAfter
        omega

/-- A teardown takes back what the connection counted. -/
theorem Accounted.teardown (hInv : Accounted s) {i : Nat} {k : Counted} {now : Nat}
    (hk : s.connections[i]? = some k) (hPhase : k.phase = .ended) :
    Accounted ⟨GatewayProxy.teardown k.conn s.inner now, s.connections.set i
      (Counted.measure { k with phase := .tornDown } s.inner
        (GatewayProxy.teardown k.conn s.inner now))⟩ := by
  obtain ⟨hActive, hRises, hFalls⟩ := hInv.balanced k (List.mem_of_getElem? hk)
  have hServes : ∀ c, (k.servesClient c = true) = (k.accepted.head? = some c) := by
    intro c
    rw [Counted.servesClient_iff, hPhase]
    simp
  -- a connection that serves a client is one of those counted
  have hPositive : ∀ c, k.accepted.head? = some c → 0 < s.inner.connectionCount c := by
    intro c hFirst
    rw [hInv.count]
    exact List.countP_pos_iff.mpr ⟨k, List.mem_of_getElem? hk, (hServes c).mpr hFirst⟩
  set inner' := GatewayProxy.teardown k.conn s.inner now
  have hEntry : ∀ c, inner'.activeClientConnections.lookup c =
      if k.accepted.head? = some c then entryOf (s.inner.connectionCount c - 1)
      else s.inner.activeClientConnections.lookup c := by
    intro c
    rw [← hActive]
    exact lookup_teardown now c
  have hCount : ∀ c, inner'.connectionCount c =
      s.inner.connectionCount c - if k.accepted.head? = some c then 1 else 0 := by
    intro c
    rw [connectionCount, hEntry]
    split
    · exact getD_entryOf _
    · rfl
  refine hInv.set hk (fun c => ⟨inner'.connectionCount c, ?_, ?_⟩)
    ⟨hActive, fun c => ?_, fun c => ?_⟩
  · rw [hCount, hEntry]
    split
    · rfl
    · rw [hInv.counts, hInv.count, Nat.sub_zero]
  · have hAfter := hCount c
    have hGone : Counted.servesClient c
        (Counted.measure { k with phase := .tornDown } s.inner inner') = false := rfl
    simp only [hServes, hGone, Bool.false_eq_true, if_false]
    split at hAfter
    · rename_i hFirst
      have := hPositive c hFirst
      rw [if_pos hFirst]
      omega
    · rename_i hFirst
      rw [if_neg hFirst]
      omega
  · have hAfter := hCount c
    show k.rises c + _ = if k.accepted.head? = some c then 1 else 0
    rw [hRises]
    omega
  · have hAfter := hCount c
    have hBefore := hFalls c
    have hRose := hRises c
    rw [if_neg (by rw [hPhase]; decide)] at hBefore
    show k.falls c + _ = k.rises c + _
    by_cases hFirst : k.accepted.head? = some c
    · have := hPositive c hFirst
      rw [if_pos hFirst] at hAfter hRose
      omega
    · rw [if_neg hFirst] at hAfter hRose
      omega

/-- **Step lemma.** -/
theorem accounted_step {step : CountingStep} (hInv : Accounted s)
    (hStep : s.step cfg lib step = some t) : Accounted t := by
  cases step with
  | accept =>
    obtain rfl := Option.some.inj hStep
    refine ⟨fun c => ?_, fun k hk => ?_⟩
    · have hNew : [Counted.new].countP (Counted.servesClient c) = 0 := rfl
      show s.inner.activeClientConnections.lookup c =
        entryOf ((s.connections ++ [Counted.new]).countP (Counted.servesClient c))
      rw [List.countP_append, hNew, Nat.add_zero]
      exact hInv.counts c
    · rcases List.mem_append.mp hk with hOld | hNew
      · exact hInv.balanced k hOld
      · obtain rfl := List.mem_singleton.mp hNew
        exact ⟨rfl, fun _ => rfl, fun _ => rfl⟩
  | round i env input =>
    rw [Counting.step] at hStep
    split at hStep
    · cases hStep
    · rename_i k hk
      dsimp only at hStep
      split at hStep
      · rename_i hRound
        obtain rfl := Option.some.inj hStep
        refine hInv.round hk hRound.1 hRound.2.1 ?_
        split <;> decide
      · cases hStep
  | teardown i now =>
    rw [Counting.step] at hStep
    split at hStep
    · cases hStep
    · rename_i k hk
      dsimp only at hStep
      split at hStep
      · rename_i hPhase
        obtain rfl := Option.some.inj hStep
        exact hInv.teardown hk hPhase
      · cases hStep
  | other inner =>
    rw [Counting.step] at hStep
    split at hStep
    · rename_i hSame
      obtain rfl := Option.some.inj hStep
      refine ⟨fun c => ?_, hInv.balanced⟩
      show inner.activeClientConnections.lookup c = _
      rw [hSame]
      exact hInv.counts c
    · cases hStep

/-- **Connection counting is exact.** After every round and teardown of a proxy
with any number of connections, the entry of each client is the number of its
connections that are not torn down, and none where that is zero. Each connection
raises the count of its first accepted client by one, no other, and its teardown
lowers that same count by one. -/
theorem connection_counting_exact {shards : List Shard} {shardCount : Nat}
    {steps : List CountingStep}
    (hRun : Runs.exec (step cfg lib) (new shards shardCount) steps = some s) :
    (∀ c, s.inner.activeClientConnections.lookup c = entryOf (s.serving c)) ∧
      ∀ k ∈ s.connections, ∀ c,
        k.rises c = (if k.accepted.head? = some c then 1 else 0) ∧
        k.falls c = if k.phase = .tornDown then k.rises c else 0 := by
  have hInv : Accounted s :=
    Runs.exec_invariant (P := Accounted) (fun _ _ _ hInv hStep => accounted_step hInv hStep)
      (accounted_new shards shardCount) hRun
  exact ⟨hInv.counts, fun k hk c => ⟨(hInv.balanced k hk).rises c, (hInv.balanced k hk).falls c⟩⟩

end Counting

open Counting in
/-- Of two connections one identifies as client `c`, and the other goes without. -/
theorem connection_counting_exact_identified :
    ∃ s, Runs.exec (step Sample.config (Sample.lib (0, 1))) (new (newShards 0 1) 1)
        [.accept, .accept, .round 0 Sample.env (.text (Sample.identify (0, 1))),
          .round 1 Sample.env .ended, .teardown 1 0] = some s ∧
      s.serving "c".toList = 1 ∧
      s.inner.activeClientConnections.lookup "c".toList = entryOf (s.serving "c".toList) := by
  have hServing : (Runs.exec (step Sample.config (Sample.lib (0, 1))) (new (newShards 0 1) 1)
      [.accept, .accept, .round 0 Sample.env (.text (Sample.identify (0, 1))),
        .round 1 Sample.env .ended, .teardown 1 0]).map (fun s => s.serving "c".toList) =
      some 1 := by
    decide +kernel
  obtain ⟨s, hRun, hOne⟩ := Option.map_eq_some_iff.mp hServing
  exact ⟨s, hRun, hOne, (connection_counting_exact hRun).1 _⟩

end GatewayProxy
