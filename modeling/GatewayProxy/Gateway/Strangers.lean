import GatewayProxy.Gateway.Confinement

/-!
# What a client without credentials sees and does

The port is open to anybody. `strangerReply` says what a connection that has no
principal answers to a client whose credentials do not hold, from the payload
alone: a heartbeat is acknowledged; an IDENTIFY or RESUME that can be read ends
the connection; everything else is closed with 4003, or 4009 after the timeout.

Main results:

* `handleInput_stranger`: a round is `strangerReply`, and leaves the state alone.
* `strangers_learn_nothing`: two runs on the same inputs look the same, whatever
  the configuration, the registry, the sessions and the other tenants.
-/

namespace GatewayProxy

open Utf8 Assoc GatewayProxy.Inner

/-- Nobody's credentials hold in the round. -/
def Turn.Anonymous (cfg : Config) (lib : JsonLib) (turn : Turn) : Prop :=
  ∀ principal, ¬ Credentials cfg lib turn principal

/-- The locals, the effects and the flow after a payload with the opcode. -/
def strangerOp (lib : JsonLib) (conn : Conn) (payload : Str) (op : Nat) :
    Conn × List Effect × Flow :=
  if op = 1 then (conn, [.resetHeartbeat, .toClient (.text heartbeatAck)], .next)
  else if op = 2 then (conn, [], if (lib.parseIdentify payload).isSome then .stop else .next)
  else if op = 6 then (conn, [], if (lib.parseResume payload).isSome then .stop else .next)
  else ({ conn with gracefulClose := true },
    [.toClient (.close 4003 "not authenticated".toList)], .stop)

/-- The locals, the effects and the flow after a round without credentials. -/
def strangerReply (lib : JsonLib) (conn : Conn) : ClientInput → Conn × List Effect × Flow
  | .sinkDone => (conn, [], .stop)
  | .heartbeatTimeout =>
    ({ conn with gracefulClose := true },
      [.toClient (.close 4009 "session timed out".toList)], .stop)
  | .ended => (conn, [], .stop)
  | .binary => (conn, [], .next)
  | .text payload =>
    match GatewayEvent.fromJson payload with
    | none => (conn, [], .next)
    | some event => strangerOp lib conn payload event.op.op

/-- The effects and the flow of each round, as long as the connection lasts. -/
def strangerRun (lib : JsonLib) : Conn → List ClientInput → List (List Effect × Flow)
  | _, [] => []
  | conn, input :: inputs =>
    let (conn, effects, flow) := strangerReply lib conn input
    (effects, flow) :: if flow = .next then strangerRun lib conn inputs else []

/-- What a stranger is sent. -/
inductive ForStranger : Effect → Prop
  | reset : ForStranger .resetHeartbeat
  | ack : ForStranger (.toClient (.text heartbeatAck))
  | unauthenticated : ForStranger (.toClient (.close 4003 "not authenticated".toList))
  | timedOut : ForStranger (.toClient (.close 4009 "session timed out".toList))

/-- A round as the client sees it. -/
def Handled.seen (h : Handled) : List Effect × Flow := (h.reply.effects, h.reply.flow)

section Rounds

variable {cfg : Config} {lib : JsonLib} {turn : Turn} {conn : Conn}

theorem strangerOp_eq (lib : JsonLib) (conn : Conn) (payload : Str) (op : Nat) :
    ((strangerOp lib conn payload op).1 = conn ∨
      (strangerOp lib conn payload op).1 = { conn with gracefulClose := true }) ∧
    ∀ effect ∈ (strangerOp lib conn payload op).2.1, ForStranger effect := by
  unfold strangerOp
  split
  · refine ⟨.inl rfl, fun effect hMem => ?_⟩
    rcases List.mem_cons.mp hMem with rfl | hMem
    · exact .reset
    · exact List.mem_singleton.mp hMem ▸ .ack
  · split
    · exact ⟨.inl rfl, fun _ hMem => absurd hMem List.not_mem_nil⟩
    · split
      · exact ⟨.inl rfl, fun _ hMem => absurd hMem List.not_mem_nil⟩
      · exact ⟨.inr rfl, fun _ hMem => List.mem_singleton.mp hMem ▸ .unauthenticated⟩

theorem strangerReply_eq (lib : JsonLib) (conn : Conn) (input : ClientInput) :
    ((strangerReply lib conn input).1 = conn ∨
      (strangerReply lib conn input).1 = { conn with gracefulClose := true }) ∧
    ∀ effect ∈ (strangerReply lib conn input).2.1, ForStranger effect := by
  cases input with
  | heartbeatTimeout => exact ⟨.inr rfl, fun _ hMem => List.mem_singleton.mp hMem ▸ .timedOut⟩
  | text payload =>
    unfold strangerReply
    dsimp only
    split
    · exact ⟨.inl rfl, fun _ hMem => absurd hMem List.not_mem_nil⟩
    · exact strangerOp_eq lib conn payload _
  | _ => exact ⟨.inl rfl, fun _ hMem => absurd hMem List.not_mem_nil⟩

theorem strangerReply_fresh (lib : JsonLib) (hFresh : conn.Fresh) (input : ClientInput) :
    (strangerReply lib conn input).1.Fresh := by
  rcases (strangerReply_eq lib conn input).1 with h | h
  · rw [h]
    exact hFresh
  · rw [h]
    exact ⟨hFresh.compressPending, hFresh.shardSender, hFresh.activeClientId⟩

/-- An IDENTIFY without credentials: nothing, and the end if it can be read. -/
theorem handleIdentify_stranger {payload : Str} {event : GatewayEvent} (hFresh : conn.Fresh)
    (hInput : turn.input = .text payload) (hEvent : GatewayEvent.fromJson payload = some event)
    (hOp : event.op.op = 2) (hAnonymous : turn.Anonymous cfg lib) :
    handleIdentify cfg lib turn.env conn turn.inner payload =
      ⟨conn, turn.inner, [], if (lib.parseIdentify payload).isSome then .stop else .next⟩ := by
  unfold handleIdentify
  rw [hFresh.compressPending]
  cases hParse : lib.parseIdentify payload with
  | none => rfl
  | some info =>
    dsimp only [Option.isSome_some]
    rw [Bool.not_true, if_neg Bool.false_ne_true, if_pos rfl]
    split
    · rfl
    · split
      · rfl
      · cases hAuth : authenticateGatewayToken cfg turn.env.clients turn.env.dataState
            (normalizeGatewayToken info.token) with
        | stale => rfl
        | invalid => rfl
        | ok auth =>
          exact absurd ⟨payload, event, info.token, auth, hInput, hEvent,
            .inl ⟨hOp, info, hParse, rfl⟩, hAuth, rfl⟩ (hAnonymous auth.principal)

/-- A RESUME without credentials does not come to its session. -/
theorem handleResume_stranger {payload : Str} {event : GatewayEvent}
    (hInput : turn.input = .text payload) (hEvent : GatewayEvent.fromJson payload = some event)
    (hOp : event.op.op = 6) (hAnonymous : turn.Anonymous cfg lib) :
    handleResume cfg lib turn.env conn turn.inner payload =
      ⟨conn, turn.inner, [], if (lib.parseResume payload).isSome then .stop else .next⟩ := by
  unfold handleResume
  cases hParse : lib.parseResume payload with
  | none => rfl
  | some info =>
    dsimp only [Option.isSome_some]
    rw [if_pos rfl]
    cases hAuth : authenticateGatewayToken cfg turn.env.clients turn.env.dataState
        (normalizeGatewayToken info.token) with
    | stale => rfl
    | invalid => rfl
    | ok auth =>
      exact absurd ⟨payload, event, info.token, auth, hInput, hEvent,
        .inr ⟨hOp, info, hParse, rfl⟩, hAuth, rfl⟩ (hAnonymous auth.principal)

/-- **Round lemma.** -/
theorem handleInput_stranger (hFresh : conn.Fresh) (hAnonymous : turn.Anonymous cfg lib) :
    handleInput cfg lib turn.env conn turn.inner turn.input =
      ⟨(strangerReply lib conn turn.input).1, turn.inner,
        (strangerReply lib conn turn.input).2.1, (strangerReply lib conn turn.input).2.2⟩ := by
  cases hInput : turn.input with
  | sinkDone => rfl
  | heartbeatTimeout => rfl
  | ended => rfl
  | binary => rfl
  | text payload =>
    unfold handleInput strangerReply
    dsimp only
    cases hEvent : GatewayEvent.fromJson payload with
    | none => rfl
    | some event =>
      dsimp only
      split
      · rename_i hOp
        rw [strangerOp, if_pos hOp]
      · rename_i hOp
        rw [strangerOp, if_neg (by omega), if_pos hOp]
        exact handleIdentify_stranger hFresh hInput hEvent hOp hAnonymous
      · rename_i hOp
        rw [strangerOp, if_neg (by omega), if_neg (by omega), if_pos hOp]
        exact handleResume_stranger hInput hEvent hOp hAnonymous
      · rename_i hOne hTwo hSix
        rw [strangerOp, if_neg hOne, if_neg hTwo, if_neg hSix, handleCommand, hFresh.shardSender]

end Rounds

section Runs

variable {cfg cfg' : Config} {lib : JsonLib} {turns turns' : List Turn} {conn : Conn}

/-- A run without credentials, round by round. -/
theorem serve_stranger (hFresh : conn.Fresh)
    (hAnonymous : ∀ h ∈ serve cfg lib conn turns, h.turn.Anonymous cfg lib) :
    (serve cfg lib conn turns).map Handled.seen = strangerRun lib conn (turns.map Turn.input) ∧
    ∀ h ∈ serve cfg lib conn turns, h.reply.inner = h.turn.inner ∧ h.reply.conn.Fresh ∧
      ∀ effect ∈ h.reply.effects, ForStranger effect := by
  induction turns generalizing conn with
  | nil => exact ⟨rfl, by simp [serve]⟩
  | cons turn turns ih =>
    have hRound : handleInput cfg lib turn.env conn turn.inner turn.input = _ :=
      handleInput_stranger hFresh (hAnonymous _ (List.mem_cons_self ..))
    have hNext := strangerReply_fresh lib hFresh turn.input
    rw [serve, hRound] at hAnonymous ⊢
    dsimp only at hAnonymous ⊢
    rw [List.map_cons, List.map_cons, strangerRun]
    have hHead := (strangerReply_eq lib conn turn.input).2
    by_cases hFlow : (strangerReply lib conn turn.input).2.2 = .next
    · rw [if_pos hFlow] at hAnonymous ⊢
      obtain ⟨hSeen, hRest⟩ := ih hNext fun h hMem => hAnonymous h (List.mem_cons_of_mem _ hMem)
      refine ⟨?_, fun h hMem => ?_⟩
      · dsimp only
        rw [if_pos hFlow, hSeen]
        rfl
      · rcases List.mem_cons.mp hMem with rfl | hMem
        · exact ⟨rfl, hNext, hHead⟩
        · exact hRest h hMem
    · rw [if_neg hFlow] at hAnonymous ⊢
      refine ⟨?_, fun h hMem => ?_⟩
      · dsimp only
        rw [if_neg hFlow]
        rfl
      · obtain rfl := List.mem_singleton.mp hMem
        exact ⟨rfl, hNext, hHead⟩

/-- **Strangers learn and do nothing.** Two runs of new connections on the same
inputs, in which nobody's credentials hold, look the same to the client: the
configurations, the registries, the shared states and the clocks may differ in
anything. No round changes the shared state, nor does the end of the connection;
and the client is sent nothing but heartbeat acknowledgements and closes. -/
theorem strangers_learn_nothing (hInputs : turns.map Turn.input = turns'.map Turn.input)
    (hAnonymous : ∀ h ∈ serve cfg lib Conn.new turns, h.turn.Anonymous cfg lib)
    (hAnonymous' : ∀ h ∈ serve cfg' lib Conn.new turns', h.turn.Anonymous cfg' lib) :
    (serve cfg lib Conn.new turns).map Handled.seen =
      (serve cfg' lib Conn.new turns').map Handled.seen ∧
    ∀ h ∈ serve cfg lib Conn.new turns, h.reply.inner = h.turn.inner ∧
      (∀ inner now, teardown h.reply.conn inner now = inner) ∧
      ∀ effect ∈ h.reply.effects, ForStranger effect := by
  obtain ⟨hSeen, hRounds⟩ := serve_stranger Conn.new_fresh hAnonymous
  obtain ⟨hSeen', -⟩ := serve_stranger Conn.new_fresh hAnonymous'
  refine ⟨by rw [hSeen, hSeen', hInputs], fun h hMem => ?_⟩
  obtain ⟨hInner, hConn, hEffects⟩ := hRounds h hMem
  refine ⟨hInner, fun inner now => ?_, hEffects⟩
  rw [teardown, hConn.activeClientId]

theorem turn_mem_of_mem_serve {h : Handled} (hMem : h ∈ serve cfg lib conn turns) :
    h.turn ∈ turns := by
  induction turns generalizing conn with
  | nil => cases hMem
  | cons turn turns ih =>
    rw [serve] at hMem
    rcases List.mem_cons.mp hMem with rfl | hMem
    · exact List.mem_cons_self ..
    · split at hMem
      · exact List.mem_cons_of_mem _ (ih hMem)
      · cases hMem

end Runs

namespace SampleStrangers

def config : Config := ⟨"bot".toList, true, true, "ws://proxy".toList, none⟩

def heartbeat : Str := "\x7b\"op\":1,\"d\":null\x7d".toList

/-- A guess at the secret of client `c`. -/
def identify : Str :=
  "\x7b\"op\":2,\"d\":\x7b\"token\":\"c:x\",\"shard\":[0,1]\x7d\x7d".toList

/-- The JSON library on the payload above. -/
def lib : JsonLib where
  parseIdentify text := if text = identify then some ⟨none, (0, 1), "c:x".toList⟩ else none
  parseResume _ := none
  parseRequestGuildMembers _ := none
  parseVoiceStateUpdate _ := none
  parseVoiceStateEvent _ := none
  parseKeys _ := none
  objectGuildId _ := none
  requestGuildMembersToString _ := none
  voiceStateUpdateToString _ := none

/-- A proxy with client `c`. -/
def home : Inner × Env :=
  (Inner.new [⟨0, none, ⟨[], [], []⟩⟩] 1,
    ⟨(∅ : Clients).insert "c".toList ⟨"s".toList, {7}, none, none⟩, .noDatabase, 5, []⟩)

/-- One with another shard count and no clients. -/
def other : Inner × Env := (Inner.new [] 2, ⟨∅, .noDatabase, 9, []⟩)

def turns (proxy : Inner × Env) : List Turn :=
  [⟨proxy.1, proxy.2, .text heartbeat⟩, ⟨proxy.1, proxy.2, .text identify⟩]

theorem anonymous {proxy : Inner × Env} (hRefused : authenticateGatewayToken config
      proxy.2.clients proxy.2.dataState (normalizeGatewayToken "c:x".toList) = .invalid) :
    ∀ h ∈ serve config lib Conn.new (turns proxy), h.turn.Anonymous config lib := by
  rintro h hMem principal ⟨payload, event, token, auth, -, -, hToken, hAuth, -⟩
  have hTurn : h.turn.env = proxy.2 := by
    rcases List.mem_cons.mp (turn_mem_of_mem_serve hMem) with hTurn | hTurn
    · rw [hTurn]
    · rw [List.mem_singleton.mp hTurn]
  rw [hTurn] at hAuth
  rcases hToken with ⟨-, info, hParse, rfl⟩ | ⟨-, info, hParse, -⟩
  · obtain rfl : info = ⟨none, (0, 1), "c:x".toList⟩ := by
      have hIf : (if payload = identify then some ⟨none, (0, 1), "c:x".toList⟩ else none) =
          some info := hParse
      split at hIf
      · exact (Option.some.inj hIf).symm
      · cases hIf
    cases hRefused.symm.trans hAuth
  · cases hParse

end SampleStrangers

/-- A wrong secret of a client that exists looks like one of no client at all. -/
theorem strangers_learn_nothing_guess :
    (serve SampleStrangers.config SampleStrangers.lib Conn.new
        (SampleStrangers.turns SampleStrangers.home)).map Handled.seen =
      (serve SampleStrangers.config SampleStrangers.lib Conn.new
        (SampleStrangers.turns SampleStrangers.other)).map Handled.seen :=
  (strangers_learn_nothing rfl (SampleStrangers.anonymous (by decide))
    (SampleStrangers.anonymous (by decide))).1

end GatewayProxy
