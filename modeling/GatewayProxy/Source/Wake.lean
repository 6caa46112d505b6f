import Mathlib.Data.List.DropRight
import GatewayProxy.Lib.KeyedLoop
import GatewayProxy.Source.Dispatch

/-!
# Waking the clients that can be reached

`wake.rs`, with the loop of `dispatch.rs` that starts the typing indicators. A
client with a reachable URL is woken by an event it has no connection for and by
its own schedule; both count against one cooldown. Times are in milliseconds,
those of the system clock from the earliest time it can represent.
-/

namespace GatewayProxy

open Utf8 Assoc KeyedLoop

def typingPulse : Nat := 7 * 1000

def typingMax : Nat := 35 * 1000

def taskWakeLead : Nat := 30 * 1000

def shouldShowWakeTyping (eventName : Str) : Bool :=
  eventName == "MESSAGE_CREATE".toList

/-- The turns of the typing loop, each with what it sees: whether the client is
connected and how long the loop has run. The result are the times of its
pulses; none of the turns after the one that returns is taken. -/
def wakeTyping : List (Bool × Nat) → List Nat
  | [] => []
  | (connected, elapsed) :: rest =>
    if connected then []
    else if typingMax ≤ elapsed then []
    else elapsed :: wakeTyping rest

/-- `checked_sub` leaves a time alone that has no predecessor that early. -/
def dueAt (nextWakeAt : Nat) : Nat :=
  if taskWakeLead ≤ nextWakeAt then nextWakeAt - taskWakeLead else nextWakeAt

/-- One round of the poll over the registry. The attempt is counted before the
URL is looked at. -/
def scheduledWake (systemNow now : Nat) (inner : Inner) (clientId : Str)
    (config : ClientConfig) : Option (Str × Str × Str) × Inner :=
  match config.nextWakeAt with
  | none => (none, inner)
  | some nextWakeAt =>
    if systemNow < dueAt nextWakeAt then (none, inner)
    else if inner.isClientConnected clientId then (none, inner)
    else
      let (shouldWake, woken) := inner.shouldWakeClient clientId wakeCooldown now
      if shouldWake then
        (config.reachableUrl.map fun url => (clientId, url, clientId ++ ':' :: config.secret),
          woken)
      else (none, woken)

/-- One tick of `spawn_scheduled_wakes`. Both clocks are read for each client. -/
def scheduledWakes (clients : Clients) (inner : Inner) (systemNow now : Str → Nat) :
    List (Str × Str × Str) × Inner :=
  collect (fun inner clientId => scheduledWake (systemNow clientId) (now clientId) inner clientId)
    (clients.entries.map fun e => (e.1, e.2)) inner

/-- The clients for which the typing loop is started. -/
def startWakeTypingForDisconnectedClients (clients : Clients) (inner : Inner) (guildId : Nat) :
    List Str :=
  clients.keysWhere fun clientId config =>
    guildId ∈ config.guilds && !inner.isClientConnected clientId && config.reachableUrl.isSome

/-- The last step after a broadcast: where typing is shown, and for whom. -/
def wakeTypingFor (clients : Clients) (inner : Inner) (eventName : Str) (event : GatewayEvent) :
    List (Str × Nat) :=
  match event.channelId, event.guildId with
  | some channelId, some guildId =>
    if shouldShowWakeTyping eventName then
      (startWakeTypingForDisconnectedClients clients inner guildId).map fun clientId =>
        (clientId, channelId)
    else []
  | _, _ => []

end GatewayProxy
