import GatewayProxy.Gateway.Accounting
import GatewayProxy.Gateway.Forwarding
import GatewayProxy.Gateway.Outbox

/-!
# The writers of a connection

The tasks that put messages into the queue of a connection: `handle_client`, which
carries out the effects of its rounds one by one, and the `forward_shard` task it
spawns. The channel of the compression decision and the teardown are here too.

Main results:

* `starts_input`: the round that takes `compress_tx` spawns the task, then sends the
  decision it was asked for.
* `Handling.advances_step`: what a step of the writers keeps.
-/

namespace GatewayProxy

open Utf8 Assoc GatewayProxy.Inner

-- ---------------------------------------------------------------------------
-- The round that starts the stream
-- ---------------------------------------------------------------------------

/-- The compression that the IDENTIFY, or the session of the RESUME, asks for. -/
def askedCompression (lib : JsonLib) (env : Env) (inner : Inner) : ClientInput → Option Bool
  | .text payload =>
    match GatewayEvent.fromJson payload with
    | none => none
    | some event =>
      if event.op.op = 2 then (lib.parseIdentify payload).bind IdentifyInfo.compress
      else if event.op.op = 6 then
        (lib.parseResume payload).bind fun info =>
          (inner.getSession info.sessionId env.now).1.bind Session.compress
      else none
  | _ => none

/-- Effects that start the stream. -/
def Effect.starts : Effect → Bool
  | .spawnForward _ => true
  | .compression _ => true
  | _ => false

/-- A round starts nothing and leaves `compress_tx`, or takes it: then the task is
spawned first and the decision sent after it. -/
inductive Starts (asked : Option Bool) (conn : Conn) (reply : Reply) : Prop
  | no (hPending : reply.conn.compressPending = conn.compressPending)
      (hEffects : ∀ effect ∈ reply.effects, effect.starts = false)
  | yes (leaves : List Effect) (task : ForwardTask)
      (hPending : conn.compressPending = true)
      (hTaken : reply.conn.compressPending = false)
      (hEffects : reply.effects = leaves ++ [.spawnForward task, .compression asked])
      (hLeaves : ∀ effect ∈ leaves, effect.starts = false)

section Round

variable {cfg : Config} {lib : JsonLib} {env : Env} {conn : Conn} {inner : Inner}
  {asked : Option Bool}

theorem starts_of_isLeave {effect : Effect} (h : effect.isLeave = true) :
    effect.starts = false := by
  cases effect with
  | spawnForward task => cases h
  | compression compress => cases h
  | _ => rfl

theorem starts_idle (inner : Inner) (flow : Flow) : Starts asked conn ⟨conn, inner, [], flow⟩ :=
  .no rfl fun _ hMem => absurd hMem List.not_mem_nil

theorem starts_rejectSession (conn' : Conn) (inner : Inner) (reason : Str)
    (hPending : conn'.compressPending = conn.compressPending) :
    Starts asked conn (rejectSession conn' inner reason) :=
  .no hPending fun effect hMem =>
    starts_of_isLeave (isLeave_of_isLocal (rejectSession_isLocal conn' inner reason effect hMem))

theorem starts_acceptIdentify {info : IdentifyInfo} {auth : AuthContext} :
    Starts info.compress conn (acceptIdentify env conn inner info auth) := by
  have hLeaves : ∀ effect ∈ (leaveVoice (countConnection conn inner auth.principal.clientId).2
      info.shard.1 auth.principal.clientId).1, effect.starts = false :=
    fun effect hMem => starts_of_isLeave (leaveVoice_isLeave _ _ _ effect hMem)
  have hSame := countConnection_compressPending conn inner auth.principal.clientId
  unfold acceptIdentify
  dsimp only
  split
  · exact .no hSame hLeaves
  · split
    · exact .no hSame hLeaves
    · split
      · rename_i hPending
        exact .yes _ _ (hSame.symm.trans hPending) rfl rfl hLeaves
      · exact .no hSame hLeaves

theorem starts_acceptResume {inner : Inner} {info : ResumeInfo} {auth : AuthContext}
    {session : Session} :
    Starts session.compress conn (acceptResume conn inner info auth session) := by
  unfold acceptResume
  split
  · exact starts_idle inner .panics
  · rename_i shard hShard
    have hSame := countConnection_compressPending { conn with shardSender := some shard.id } inner
      session.principal.clientId
    dsimp only
    split
    · rename_i hPending
      exact .yes [] _ (hSame.symm.trans hPending) rfl rfl fun _ hMem =>
        absurd hMem List.not_mem_nil
    · exact starts_rejectSession _ _ _ hSame

theorem starts_command {op : Nat} {payload : Str} :
    Starts asked conn (handleCommand cfg lib env conn inner op payload) := by
  have hExit := handleCommand_exit cfg lib env conn inner op payload
  generalize handleCommand cfg lib env conn inner op payload = reply at hExit ⊢
  cases hExit with
  | closed hSender => exact .no rfl (by simp [Effect.starts])
  | direct hSender hScope => exact .no rfl (by simp [Effect.starts])
  | filtered hScope => exact starts_idle inner .next
  | sent hSender hScope hGuild hRebuilt hSend =>
    cases hSend with
    | @dropped inner' hOwners => exact starts_idle inner' .next
    | sent hOwners hMembers hVoice hChannel => exact .no rfl (by simp [Effect.starts])

theorem starts_identify {payload : Str} :
    Starts ((lib.parseIdentify payload).bind IdentifyInfo.compress) conn
      (handleIdentify cfg lib env conn inner payload) := by
  have hExit := handleIdentify_exit cfg lib env conn inner payload
  generalize handleIdentify cfg lib env conn inner payload = reply at hExit ⊢
  cases hExit with
  | accepted hPasses =>
    rw [hPasses.parsed, Option.bind_some]
    exact starts_acceptIdentify
  | refused flow hFails => exact starts_idle inner flow

theorem starts_resume {payload : Str} :
    Starts ((lib.parseResume payload).bind fun info =>
        (inner.getSession info.sessionId env.now).1.bind Session.compress) conn
      (handleResume cfg lib env conn inner payload) := by
  have hExit := handleResume_exit cfg lib env conn inner payload
  generalize handleResume cfg lib env conn inner payload = reply at hExit ⊢
  cases hExit with
  | accepted hPasses =>
    rw [hPasses.parsed, Option.bind_some, hPasses.found, Option.bind_some]
    exact starts_acceptResume
  | unread flow hUnread => exact starts_idle inner flow
  | rejected reason hFails => exact starts_rejectSession conn _ reason rfl

/-- **Every round of the loop.** -/
theorem starts_input (cfg : Config) (lib : JsonLib) (env : Env) (conn : Conn) (inner : Inner)
    (input : ClientInput) :
    Starts (askedCompression lib env inner input) conn
      (handleInput cfg lib env conn inner input) := by
  cases input with
  | binary => exact starts_idle _ .next
  | ended => exact starts_idle _ .stop
  | sinkDone => exact starts_idle _ .stop
  | heartbeatTimeout => exact .no rfl (by simp [handleInput, Effect.starts])
  | text payload =>
    unfold handleInput askedCompression
    dsimp only
    cases GatewayEvent.fromJson payload with
    | none => exact starts_idle _ .next
    | some event =>
      dsimp only
      generalize hAsked : (if event.op.op = 2 then _ else _) = asked
      split
      · exact .no rfl (by simp [Effect.starts])
      · rename_i hOp
        rw [hOp, if_pos rfl] at hAsked
        rw [← hAsked]
        exact starts_identify
      · rename_i hOp
        rw [hOp, if_neg (by decide), if_pos rfl] at hAsked
        rw [← hAsked]
        exact starts_resume
      · exact starts_command

end Round

-- ---------------------------------------------------------------------------
-- The writers
-- ---------------------------------------------------------------------------

/-- The channel of the compression decision, seen from the sink. -/
inductive Decision
  | waiting
  | sent (compress : Option Bool)
  /-- `compress_tx` was dropped -/
  | closed
  deriving DecidableEq

/-- What `compress_rx` yields, once it is ready. -/
def Decision.result : Decision → Option (Option (Option Bool))
  | .waiting => none
  | .sent compress => some (some compress)
  | .closed => some none

/-- `handle_client` and the `forward_shard` task. -/
structure Handling where
  conn : Conn
  phase : LoopPhase
  /-- of the last round, still to be carried out -/
  effects : List Effect
  /-- the `stream_writer` of `handle_client` is not dropped -/
  writer : Bool
  decision : Decision
  forward : Option (ForwardTask × Forwarding)
  /-- history: what the IDENTIFY or the session of the RESUME asked for, in the round
  that took `compress_tx` -/
  asked : Option (Option Bool)

inductive HandlerStep
  | round (turn : Turn)
  /-- the next effect, with the registry of that moment -/
  | effect (clients : Clients)
  | forward (action : ForwardingStep)
  /-- its shard never became ready, or the teardown aborted it -/
  | forwardEnds
  /-- the teardown waits for the sink -/
  | dropWriter
  | teardown

/-- What an effect puts into the queue. -/
def Effect.queued : Effect → List Queued
  | .toClient message => [⟨.handler, message⟩]
  | _ => []

/-- What a step of `forward_shard` puts into the queue. -/
def Forwarding.queued (f : Forwarding) : ForwardingStep → List Queued
  | .enqueue => f.pending.head?.toList.map fun outgoing => ⟨.forwardShard, outgoing.message⟩
  | _ => []

def ForwardStage.isWaiting : ForwardStage → Bool
  | .waiting => true
  | _ => false

namespace Handling

def new : Handling := ⟨.new, .looping, [], true, .waiting, none, none⟩

def carryOut (h : Handling) (clients : Clients) : Effect → Handling
  | .spawnForward task => { h with forward := some (task, .new task clients) }
  | .compression compress => { h with decision := .sent compress }
  | _ => h

/-- A step of the writers, and what it puts into the queue. A round that panics ends
the process, and one that spins is not over. -/
def step (cfg : Config) (lib : JsonLib) (h : Handling) :
    HandlerStep → Option (Handling × List Queued)
  | .round turn =>
    let reply := handleInput cfg lib turn.env h.conn turn.inner turn.input
    if h.phase = .looping ∧ h.effects = [] ∧ reply.flow ≠ .panics ∧ reply.flow ≠ .spins then
      some ({ h with
        conn := reply.conn
        phase := if reply.flow = Flow.next then .looping else .ended
        effects := reply.effects
        asked := if h.conn.compressPending && !reply.conn.compressPending then
            some (askedCompression lib turn.env turn.inner turn.input)
          else h.asked }, [])
    else none
  | .effect clients =>
    match h.effects with
    | [] => none
    | effect :: rest => some ({ h with effects := rest }.carryOut clients effect, effect.queued)
  | .forward action =>
    match h.forward with
    | none => none
    | some (task, f) =>
      (f.step task action).map fun f' => ({ h with forward := some (task, f') }, f.queued action)
  | .forwardEnds =>
    match h.forward with
    | none => none
    | some (_, f) =>
      if h.phase ≠ .looping ∨ f.stage.isWaiting then some ({ h with forward := none }, [])
      else none
  | .dropWriter =>
    if h.phase = .ended ∧ h.effects = [] ∧ h.conn.gracefulClose then
      some ({ h with writer := false }, [])
    else none
  | .teardown =>
    if h.phase = .ended ∧ h.effects = [] then
      some ({ h with
        phase := .tornDown
        writer := false
        decision := match h.decision with
          | .waiting => .closed
          | decision => decision }, [])
    else none

/-- How far the connection is with starting the stream. -/
inductive Starting (h : Handling) : Prop
  | fresh (hPending : h.conn.compressPending = true) (hAsked : h.asked = none)
      (hForward : h.forward = none)
      (hDecision : h.decision = .waiting ∨ h.decision = .closed ∧ h.phase = .tornDown)
      (hEffects : ∀ effect ∈ h.effects, effect.starts = false)
  | accepted (compress : Option Bool) (leaves : List Effect) (task : ForwardTask)
      (hPending : h.conn.compressPending = false) (hAsked : h.asked = some compress)
      (hForward : h.forward = none) (hDecision : h.decision = .waiting)
      (hEffects : h.effects = leaves ++ [.spawnForward task, .compression compress])
      (hLeaves : ∀ effect ∈ leaves, effect.starts = false)
  | spawned (compress : Option Bool)
      (hPending : h.conn.compressPending = false) (hAsked : h.asked = some compress)
      (hDecision : h.decision = .waiting) (hEffects : h.effects = [.compression compress])
  | decided (compress : Option Bool)
      (hPending : h.conn.compressPending = false) (hAsked : h.asked = some compress)
      (hDecision : h.decision = .sent compress)
      (hEffects : ∀ effect ∈ h.effects, effect.starts = false)

/-- What a step of the writers keeps, and what it puts into the queue. -/
structure Advances (h h' : Handling) (messages : List Queued) : Prop where
  starting : h'.Starting
  asked : ∀ compress, h.asked = some compress → h'.asked = some compress
  decision : h.decision ≠ .waiting → h'.decision = h.decision
  messages : ∀ queued ∈ messages, queued.producer = .forwardShard → h.asked ≠ none

section Steps

variable {cfg : Config} {lib : JsonLib} {h h' : Handling} {messages : List Queued}

theorem starting_new : Starting new :=
  .fresh rfl rfl rfl (.inl rfl) fun _ hMem => absurd hMem List.not_mem_nil

/-- The stream was started only if somebody asked for it. -/
theorem Starting.forward (hStarting : h.Starting) (hForward : h.forward ≠ none) :
    h.asked ≠ none := by
  cases hStarting with
  | fresh _ _ hNone _ _ => exact absurd hNone hForward
  | accepted _ _ _ _ _ hNone _ _ _ => exact absurd hNone hForward
  | spawned _ _ hAsked _ _ => simp [hAsked]
  | decided _ _ hAsked _ _ => simp [hAsked]

/-- The decision is the one that was asked for. -/
theorem Starting.sent (hStarting : h.Starting) {compress : Option Bool}
    (hSent : h.decision = .sent compress) : h.asked = some compress := by
  cases hStarting with
  | fresh _ _ _ hDecision _ =>
    rcases hDecision with hWaiting | ⟨hClosed, -⟩
    · cases hWaiting.symm.trans hSent
    · cases hClosed.symm.trans hSent
  | accepted _ _ _ _ _ _ hWaiting _ _ => cases hWaiting.symm.trans hSent
  | spawned _ _ _ hWaiting _ => cases hWaiting.symm.trans hSent
  | decided _ _ hAsked hDecision _ =>
    obtain rfl := Decision.sent.inj (hDecision.symm.trans hSent)
    exact hAsked

/-- The channel is closed only where nobody asked. -/
theorem Starting.closed (hStarting : h.Starting) (hClosed : h.decision = .closed) :
    h.asked = none := by
  cases hStarting with
  | fresh _ hAsked _ _ _ => exact hAsked
  | accepted _ _ _ _ _ _ hWaiting _ _ => cases hWaiting.symm.trans hClosed
  | spawned _ _ _ hWaiting _ => cases hWaiting.symm.trans hClosed
  | decided _ _ _ hDecision _ => cases hDecision.symm.trans hClosed

/-- A round takes `compress_tx` on a fresh connection only. -/
theorem advances_round {turn : Turn} (hStarting : h.Starting)
    (hStep : h.step cfg lib (.round turn) = some (h', messages)) : Advances h h' messages := by
  have hStarts := starts_input cfg lib turn.env h.conn turn.inner turn.input
  unfold step at hStep
  dsimp only at hStep
  split at hStep
  · rename_i hRound
    obtain ⟨hPhase, hEmpty, -, -⟩ := hRound
    generalize handleInput cfg lib turn.env h.conn turn.inner turn.input = reply at hStarts hStep
    obtain ⟨rfl, rfl⟩ := Prod.mk.inj (Option.some.inj hStep)
    have hNoMessages : ∀ queued ∈ ([] : List Queued), queued.producer = .forwardShard →
        h.asked ≠ none := fun _ hMem => absurd hMem List.not_mem_nil
    cases hStarting with
    | fresh hPending hAsked hForward hDecision hEffects =>
      have hWaiting : h.decision = .waiting := by
        rcases hDecision with hWaiting | ⟨-, hOver⟩
        · exact hWaiting
        · cases hOver.symm.trans hPhase
      have hNobody : ∀ asked compress, h.asked = some compress → asked = some compress := by
        intro asked compress hSome
        cases hAsked.symm.trans hSome
      cases hStarts with
      | no hSame hNone =>
        refine ⟨.fresh (hSame.trans hPending) ?_ hForward (.inl hWaiting) hNone, hNobody _,
          fun _ => rfl, hNoMessages⟩
        show (if h.conn.compressPending && !reply.conn.compressPending then _ else h.asked) = none
        rw [hSame, hPending]
        exact hAsked
      | yes leaves task _ hTaken hNew hLeaves =>
        refine ⟨.accepted _ leaves task hTaken ?_ hForward hWaiting hNew hLeaves, hNobody _,
          fun _ => rfl, hNoMessages⟩
        show (if h.conn.compressPending && !reply.conn.compressPending then _ else h.asked) = _
        rw [hTaken, hPending]
        rfl
    | accepted _ _ _ _ _ _ _ hEffects _ => simp [hEmpty] at hEffects
    | spawned _ _ _ _ hEffects => simp [hEmpty] at hEffects
    | decided compress hPending hAsked hDecision _ =>
      have hStill : (if h.conn.compressPending && !reply.conn.compressPending then
          some (askedCompression lib turn.env turn.inner turn.input) else h.asked) = h.asked := by
        rw [hPending]
        rfl
      cases hStarts with
      | no hSame hNone =>
        exact ⟨.decided compress (hSame.trans hPending) (hStill.trans hAsked) hDecision hNone,
          fun _ hSome => hStill.trans hSome, fun _ => rfl, hNoMessages⟩
      | yes _ _ hTrue _ _ _ => cases hPending.symm.trans hTrue
  · cases hStep

/-- The effects are carried out in order: the task is spawned, then the decision is
sent. -/
theorem advances_effect {clients : Clients} (hStarting : h.Starting)
    (hStep : h.step cfg lib (.effect clients) = some (h', messages)) : Advances h h' messages := by
  have hQueued : ∀ effect : Effect, ∀ queued ∈ effect.queued,
      queued.producer = .forwardShard → h.asked ≠ none := by
    intro effect queued hMem hProducer
    cases effect with
    | toClient message =>
      obtain rfl := List.mem_singleton.mp hMem
      cases hProducer
    | _ => exact absurd hMem List.not_mem_nil
  unfold step at hStep
  dsimp only at hStep
  split at hStep
  · cases hStep
  · rename_i effect rest hCons
    obtain ⟨rfl, rfl⟩ := Prod.mk.inj (Option.some.inj hStep)
    have hLocal : effect.starts = false →
        { h with effects := rest }.carryOut clients effect = { h with effects := rest } := by
      intro hStarts
      cases effect with
      | spawnForward task => cases hStarts
      | compression compress => cases hStarts
      | _ => rfl
    cases hStarting with
    | fresh hPending hAsked hForward hDecision hEffects =>
      rw [hCons] at hEffects
      rw [hLocal (hEffects effect (.head _))]
      exact ⟨.fresh hPending hAsked hForward hDecision fun e he => hEffects e (.tail _ he),
        fun _ hSome => hSome, fun _ => rfl, hQueued effect⟩
    | accepted compress leaves task hPending hAsked hForward hDecision hEffects hLeaves =>
      rw [hCons] at hEffects
      match leaves with
      | [] =>
        obtain ⟨rfl, rfl⟩ := List.cons.inj hEffects
        exact ⟨.spawned compress hPending hAsked hDecision rfl, fun _ hSome => hSome,
          fun _ => rfl, hQueued _⟩
      | leave :: leaves =>
        obtain ⟨rfl, rfl⟩ := List.cons.inj hEffects
        rw [hLocal (hLeaves effect (.head _))]
        exact ⟨.accepted compress leaves task hPending hAsked hForward hDecision rfl
          fun e he => hLeaves e (.tail _ he), fun _ hSome => hSome, fun _ => rfl,
          hQueued effect⟩
    | spawned compress hPending hAsked hDecision hEffects =>
      rw [hCons] at hEffects
      obtain ⟨rfl, rfl⟩ := List.cons.inj hEffects
      exact ⟨.decided compress hPending hAsked rfl fun _ hMem => absurd hMem List.not_mem_nil,
        fun _ hSome => hSome, fun hNot => absurd hDecision hNot, hQueued _⟩
    | decided compress hPending hAsked hDecision hEffects =>
      rw [hCons] at hEffects
      rw [hLocal (hEffects effect (.head _))]
      exact ⟨.decided compress hPending hAsked hDecision fun e he => hEffects e (.tail _ he),
        fun _ hSome => hSome, fun _ => rfl, hQueued effect⟩

/-- The stage of the start does not depend on what `forward_shard` does. -/
theorem Starting.setForward (hStarting : h.Starting) (hForward : h.forward ≠ none)
    (forward : Option (ForwardTask × Forwarding)) : Starting { h with forward := forward } := by
  cases hStarting with
  | fresh _ _ hNone _ _ => exact absurd hNone hForward
  | accepted _ _ _ _ _ hNone _ _ _ => exact absurd hNone hForward
  | spawned compress hPending hAsked hDecision hEffects =>
    exact .spawned compress hPending hAsked hDecision hEffects
  | decided compress hPending hAsked hDecision hEffects =>
    exact .decided compress hPending hAsked hDecision hEffects

theorem advances_forward {action : ForwardingStep} (hStarting : h.Starting)
    (hStep : h.step cfg lib (.forward action) = some (h', messages)) : Advances h h' messages := by
  unfold step at hStep
  dsimp only at hStep
  split at hStep
  · cases hStep
  · rename_i task f hSome
    obtain ⟨f', -, hNext⟩ := Option.map_eq_some_iff.mp hStep
    obtain ⟨rfl, rfl⟩ := Prod.mk.inj hNext
    have hForward : h.forward ≠ none := by simp [hSome]
    exact ⟨hStarting.setForward hForward _, fun _ hAsked => hAsked, fun _ => rfl,
      fun _ _ _ => hStarting.forward hForward⟩

theorem advances_forwardEnds (hStarting : h.Starting)
    (hStep : h.step cfg lib .forwardEnds = some (h', messages)) : Advances h h' messages := by
  unfold step at hStep
  dsimp only at hStep
  split at hStep
  · cases hStep
  · rename_i task f hSome
    split at hStep
    · obtain ⟨rfl, rfl⟩ := Prod.mk.inj (Option.some.inj hStep)
      have hForward : h.forward ≠ none := by simp [hSome]
      exact ⟨hStarting.setForward hForward none, fun _ hAsked => hAsked, fun _ => rfl,
        fun _ hMem => absurd hMem List.not_mem_nil⟩
    · cases hStep

theorem advances_dropWriter (hStarting : h.Starting)
    (hStep : h.step cfg lib .dropWriter = some (h', messages)) : Advances h h' messages := by
  unfold step at hStep
  dsimp only at hStep
  split at hStep
  · obtain ⟨rfl, rfl⟩ := Prod.mk.inj (Option.some.inj hStep)
    refine ⟨?_, fun _ hAsked => hAsked, fun _ => rfl, fun _ hMem => absurd hMem List.not_mem_nil⟩
    cases hStarting with
    | fresh hPending hAsked hForward hDecision hEffects =>
      exact .fresh hPending hAsked hForward hDecision hEffects
    | accepted compress leaves task hPending hAsked hForward hDecision hEffects hLeaves =>
      exact .accepted compress leaves task hPending hAsked hForward hDecision hEffects hLeaves
    | spawned compress hPending hAsked hDecision hEffects =>
      exact .spawned compress hPending hAsked hDecision hEffects
    | decided compress hPending hAsked hDecision hEffects =>
      exact .decided compress hPending hAsked hDecision hEffects
  · cases hStep

/-- A sender that is still there at the end is dropped. -/
theorem advances_teardown (hStarting : h.Starting)
    (hStep : h.step cfg lib .teardown = some (h', messages)) : Advances h h' messages := by
  unfold step at hStep
  dsimp only at hStep
  split at hStep
  · rename_i hEnd
    obtain ⟨-, hEmpty⟩ := hEnd
    obtain ⟨rfl, rfl⟩ := Prod.mk.inj (Option.some.inj hStep)
    refine ⟨?_, fun _ hAsked => hAsked, fun hNot => ?_,
      fun _ hMem => absurd hMem List.not_mem_nil⟩
    · cases hStarting with
      | fresh hPending hAsked hForward hDecision hEffects =>
        refine .fresh hPending hAsked hForward (.inr ⟨?_, rfl⟩) hEffects
        rcases hDecision with hWaiting | ⟨hClosed, -⟩
        · simp [hWaiting]
        · simp [hClosed]
      | accepted _ _ _ _ _ _ _ hEffects _ => simp [hEmpty] at hEffects
      | spawned _ _ _ _ hEffects => simp [hEmpty] at hEffects
      | decided compress hPending hAsked hDecision hEffects =>
        exact .decided compress hPending hAsked (by simp [hDecision]) hEffects
    · dsimp only
      split
      · rename_i hWaiting
        exact absurd hWaiting hNot
      · rfl
  · cases hStep

/-- **Step lemma for the writers.** -/
theorem advances_step {action : HandlerStep} (hStarting : h.Starting)
    (hStep : h.step cfg lib action = some (h', messages)) : Advances h h' messages := by
  cases action with
  | round turn => exact advances_round hStarting hStep
  | effect clients => exact advances_effect hStarting hStep
  | forward action => exact advances_forward hStarting hStep
  | forwardEnds => exact advances_forwardEnds hStarting hStep
  | dropWriter => exact advances_dropWriter hStarting hStep
  | teardown => exact advances_teardown hStarting hStep

end Steps

end Handling

end GatewayProxy
