import GatewayProxy.Source.Server

/-!
# The sink task

`sink_from_queue` of `server.rs`: HELLO, a loop that waits for the compression
decision and forwards messages meanwhile, and a loop that only forwards. Each
await of the task is a step; `select!` takes either of its branches when both are
ready. The compressor is third-party code, so it is a parameter.
-/

namespace GatewayProxy

open Utf8

def hello : Str :=
  "\x7b\"t\":null,\"s\":null,\"op\":10,\"d\":\x7b\"heartbeat_interval\":41250\x7d\x7d".toList

/-- The zlib stream of a connection, fed with the payloads of messages. -/
structure ZlibLib (ζ : Type) where
  new : ζ
  compressAndSend : ζ → Message → List UInt8 × ζ

/-- What is written to the client. -/
inductive Frame
  | plain (message : Message)
  | binary (data : List UInt8)
  deriving DecidableEq

def Frame.compressed : Frame → Bool
  | .plain _ => false
  | .binary _ => true

inductive SinkPhase
  /-- HELLO is not sent yet -/
  | hello
  /-- the first loop, `compress_pending` -/
  | deciding
  /-- the second loop -/
  | streaming
  /-- the queue is empty and all its senders are gone -/
  | returned
  /-- a frame was not written in time, or the task was aborted -/
  | stopped
  deriving DecidableEq

/-- The locals of `sink_from_queue`. -/
structure Sink (ζ : Type) where
  useZlib : Bool
  /-- created when it is first needed -/
  zlib : Option ζ
  phase : SinkPhase

section Frames

variable {ζ : Type}

/-- The frame of a message, and the compressor after it. -/
def makeFrame (zlibLib : ZlibLib ζ) (useZlib : Bool) (zlib : Option ζ) (message : Message) :
    Frame × Option ζ :=
  if useZlib then
    let (data, state) := zlibLib.compressAndSend (zlib.getD zlibLib.new) message
    (.binary data, some state)
  else (.plain message, zlib)

theorem makeFrame_compressed (zlibLib : ZlibLib ζ) (useZlib : Bool) (zlib : Option ζ)
    (message : Message) : (makeFrame zlibLib useZlib zlib message).1.compressed = useZlib := by
  cases useZlib with
  | true => rfl
  | false => rfl

end Frames

namespace Sink

variable {ζ : Type}

def new (useZlib : Bool) : Sink ζ := ⟨useZlib, none, .hello⟩

/-- The task is not over, so its end of the queue is there. -/
def running (sink : Sink ζ) : Bool :=
  match sink.phase with
  | .hello => true
  | .deciding => true
  | .streaming => true
  | .returned => false
  | .stopped => false

theorem running_of_loop {sink : Sink ζ}
    (hPhase : sink.phase = .deciding ∨ sink.phase = .streaming) : sink.running = true := by
  rw [running]
  rcases hPhase with hPhase | hPhase
  · rw [hPhase]
  · rw [hPhase]

/-- `send_in_time`, which ends the task if the client does not take the frame. -/
def send (zlibLib : ZlibLib ζ) (sink : Sink ζ) (message : Message) (inTime : Bool)
    (next : SinkPhase) : Option Frame × Sink ζ :=
  let (frame, zlib) := makeFrame zlibLib sink.useZlib sink.zlib message
  if inTime then (some frame, { sink with zlib := zlib, phase := next })
  else (none, { sink with zlib := zlib, phase := .stopped })

def sendHello (zlibLib : ZlibLib ζ) (sink : Sink ζ) (inTime : Bool) :
    Option (Option Frame × Sink ζ) :=
  match sink.phase with
  | .hello => some (sink.send zlibLib (.text hello) inTime .deciding)
  | _ => none

/-- The branch of `compress_rx`; no value when its sender was dropped. -/
def takeDecision (sink : Sink ζ) (result : Option (Option Bool)) : Option (Sink ζ) :=
  match sink.phase with
  | .deciding => some { sink with
      useZlib := if result = some (some true) then true else sink.useZlib
      phase := .streaming }
  | _ => none

/-- The branch of `message_stream` in the first loop, and the second loop. -/
def sendMessage (zlibLib : ZlibLib ζ) (sink : Sink ζ) (message : Message) (inTime : Bool) :
    Option (Option Frame × Sink ζ) :=
  match sink.phase with
  | .deciding => some (sink.send zlibLib message inTime .deciding)
  | .streaming => some (sink.send zlibLib message inTime .streaming)
  | _ => none

/-- `message_stream` is empty and closed. -/
def finish (sink : Sink ζ) : Option (Sink ζ) :=
  match sink.phase with
  | .deciding => some { sink with phase := .returned }
  | .streaming => some { sink with phase := .returned }
  | _ => none

end Sink

end GatewayProxy
