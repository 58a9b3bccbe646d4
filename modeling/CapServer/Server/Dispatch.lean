import CapServer.Reply
import CapServer.Server.Service

/-!
# Handling messages

One round of a server: receive a message, handle it, reply, and end the sessions that were queued
(`Server.serve`). The sweep comes last, so a session is still there when the reply about it goes
out.

A message with the badge of notifications stands for the whole notification ring, which is drained
record by record (`Server.drainNotices`). Any other message is a request: one of the connection
protocol (`Server.perform`), or one for the service's own `dispatch`.
-/

namespace CapServer

namespace Server

variable {σ : Type}

/-! ## Notices -/

/-- Take the next record out of the notification ring, if there is one. -/
def nextRecord : Attempt (Server σ) (Option Record) := fun s =>
  match s.notices with
  | none => (.error .unsupported, s)
  | some notices =>
    let (a, r) := Reader.readExact ⟨notices.reader, memoryPart.get s, List.replicate Record.size 0⟩
    (a.map fun found => if found then some (Record.ofBytes r.buffer) else none,
      memoryPart.set r.memory { s with notices := some { notices with reader := r.reader } })

/-- What a drain answers: the first failure of a handler, or how many notices there were. -/
def drainAnswer (handled : Nat) : Option Failure → Except Failure Nat
  | none => .ok handled
  | some e => .error e

/-- Hand one notice after the other to its handler. A damaged record ends the drain at once, a
handler that fails does not. -/
def drain (svc : Service σ) : Nat → Nat → Option Failure → Attempt (Server σ) Nat
  | 0, handled, failure => Attempt.ofExcept (drainAnswer handled failure)
  | fuel + 1, handled, failure => do
    match ← nextRecord with
    | none => Attempt.ofExcept (drainAnswer handled failure)
    | some record =>
      let notice ← Attempt.ofExcept record.notice
      match ← (svc.onNotice notice).catching with
      | .ok () => drain svc fuel (handled + 1) failure
      | .error e => drain svc fuel (handled + 1) (failure <|> some e)

/-- More records than the notification ring can hold. -/
def drainBound (s : Server σ) : Nat :=
  match s.notices with
  | none => 1
  | some notices => ((memoryPart.get s).region notices.reader.region).size + 1

/-- Drain the notification ring, and tell how many notices were handled. Each record read makes
the ring emptier, so the bound is met only by handlers that write to it themselves. -/
def drainNotices (svc : Service σ) : Attempt (Server σ) Nat := do
  drain svc (← get).drainBound 0 none

/-! ## Requests -/

/-- The words and capabilities that a successful reply carries. -/
structure Answer where
  words : List Word := []
  caps : List CapPtr := []

/-- Carry out a request of the connection protocol. Only an unbadged message can open a session, and
only the badge of a session can ask for anything else. -/
def perform (svc : Service σ) (msg : Message) : Request → Attempt (Server σ) Answer
  | .connect => do
    if msg.badge = Badge.none then
      let id ← svc.onConnect msg
      let session := (← get).session? id
      return { words := [UInt64.ofNat id], caps := (session.map Session.endpoint).toList }
    else throw .permissionOrProtocol
  | .ping => do
    svc.onPing (← clientOf msg.badge)
    return {}
  | .setParamBuffer size => do
    svc.onSetParamBuffer (← clientOf msg.badge) msg size.toNat
    return {}
  | .disconnect => do
    svc.onDisconnect (← clientOf msg.badge)
    return {}

/-- The reply to a request of the connection protocol. -/
def performReply (label : Nat) : Except Failure Answer → Message
  | .ok a => { Reply.make label (.ok ()) a.words with caps := a.caps }
  | .error e => Reply.make label (.error e) []

/-- How a message fared, and the reply to it. -/
def respond (svc : Service σ) (msg : Message) (s : Server σ) :
    Dispatch × Option Message × Server σ :=
  match Request.decode msg with
  | (.ok (some request), read) =>
    let (a, s) := perform svc read request s
    (if a.toBool then .success else .error, some (performReply msg.label a), s)
  | (.ok none, read) =>
    match svc.dispatch read s with
    | (.ok (some reply), s) => (.success, some reply, s)
    | (.ok none, s) => (.pass, none, s)
    | (.error e, s) => (.error, some (Reply.make msg.label (.error e) []), s)
  | (.error e, _) => (.error, some (Reply.make msg.label (.error e) []), s)

/-- Handle one message and send the reply, if there is one. -/
def handle (k : Kernel (World σ)) (svc : Service σ) (msg : Message) (s : Server σ) :
    Dispatch × Server σ :=
  if msg.badge = s.config.noticeBadge then
    let (a, s) := drainNotices svc s
    (if a.toBool then .success else .error, s)
  else
    match respond svc msg s with
    | (outcome, some reply, s) => (outcome, ((k.reply reply).on worldPart).settle s)
    | (outcome, none, s) => (outcome, s)

/-- Receive one message, handle it, reply, and end the sessions that were queued, however the
message fared. -/
def serve (k : Kernel (World σ)) (svc : Service σ) : Attempt (Server σ) Dispatch := do
  let msg ← (k.receive (← get).anonEp).on worldPart
  let (outcome, s) := handle k svc msg (← get)
  set (s.sweep k).2
  return outcome

end Server

end CapServer
