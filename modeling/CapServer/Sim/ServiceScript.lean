import CapServer.Server.Dispatch
import CapServer.Sim.Machine

/-!
# A scripted service

A service that writes down every notice and every request of the connection protocol, goes by a
fault plan, and otherwise does what the basic service does, except that it takes faults and requests
for content without complaint.

Of its own it answers four labels: it doubles a word, reads a status code, closes the caller's
session, and mints a badged copy of its anonymous endpoint.
-/

namespace CapServer

/-- The handlers that go by plan. -/
inductive Handler
  | fault | content | death | connect | ping | setParamBuffer | disconnect
  deriving DecidableEq, Repr

/-- What the service writes down. -/
inductive ServiceEvent
  | notice (notice : Notice)
  | connect (caps : Nat)
  | ping (client : ClientId)
  | setParamBuffer (client : ClientId) (size : Nat)
  | disconnect (client : ClientId)
  deriving DecidableEq, Repr

/-- The events so far, and the plan. -/
structure ServiceScript where
  events : List ServiceEvent
  plan : FaultPlan Handler

namespace ServiceScript

variable {α : Type}

/-- A machine whose service goes by script. -/
abbrev Site : Type := World (Machine ServiceScript)

def scriptPart : Part (Server (Machine ServiceScript)) ServiceScript :=
  Server.worldPart.comp (World.restPart.comp Machine.servicePart)

def planPart : Part (Server (Machine ServiceScript)) (FaultPlan Handler) where
  get s := (scriptPart.get s).plan
  set p s := scriptPart.set { scriptPart.get s with plan := p } s

/-- What the service runs on. -/
def platform : Platform Site := Machine.platform

/-- The service without a script. -/
def basic : Service (Machine ServiceScript) := .basic platform

/-- Write an event down, then go by plan. -/
def noted (handler : Handler) (event : ServiceEvent)
    (x : Attempt (Server (Machine ServiceScript)) α) :
    Attempt (Server (Machine ServiceScript)) α := do
  modify fun s =>
    let script := scriptPart.get s
    scriptPart.set { script with events := script.events ++ [event] } s
  FaultPlan.guard planPart handler x

/-- Read a message without keeping the place. -/
def reading (msg : Message) (x : Attempt Message α) :
    Attempt (Server (Machine ServiceScript)) α :=
  Attempt.ofExcept (x msg).1

/-- Answer the labels of the service's own. -/
def dispatch (msg : Message) : Attempt (Server (Machine ServiceScript)) (Option Message) :=
  let reply (values : List Word) := Reply.make msg.label (.ok ()) values
  match msg.label with
  | 0x77 => do
    let word ← reading msg Message.pop
    return some (reply [word * 2])
  | 0x78 => do
    Attempt.ofExcept (Failure.ofStatus (← reading msg Message.popSigned))
    return some (reply [])
  | 0x79 => do
    let id ← Server.clientOf msg.badge
    Server.disconnect platform.procs id
    return some (reply [UInt64.ofNat id])
  | 0x7a => do
    if msg.carries 0 0 then
      let badge ← reading msg Message.pop
      let slot ← Server.mint platform.kernel badge.toNat (← get).anonEp
      return some ((reply [UInt64.ofNat slot]).withCap slot)
    else throw .permissionOrProtocol
  | _ => pure none

/-- The scripted service. -/
def service : Service (Machine ServiceScript) where
  onFault n := noted .fault (.notice (.fault n)) (pure ())
  onContent n := noted .content (.notice (.content n)) (pure ())
  onDeath id := noted .death (.notice (.death (UInt64.ofNat id))) (basic.onDeath id)
  dispatch := dispatch
  onConnect msg := noted .connect (.connect msg.caps.length) (basic.onConnect msg)
  onPing client := noted .ping (.ping client) (basic.onPing client)
  onSetParamBuffer client msg size :=
    noted .setParamBuffer (.setParamBuffer client size) (basic.onSetParamBuffer client msg size)
  onDisconnect client := noted .disconnect (.disconnect client) (basic.onDisconnect client)

end ServiceScript

end CapServer
