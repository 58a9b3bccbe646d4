import CapServer.IdMap
import CapServer.Kernel

/-!
# A kernel in memory

A kernel that is a map from slots to capabilities, a queue of incoming messages and a log of
replies. It keeps what was done to it, so that a run can be looked at afterwards, and can be told to
fail the next mint or the next revocation.
-/

namespace CapServer

/-- What a slot of the simulated kernel holds. -/
structure SimCap where
  /-- The kernel object the capability refers to. -/
  object : Nat
  badge : Badge
  deriving DecidableEq, Repr

/-- The state of the simulated kernel. -/
structure SimKernel where
  slots : IdMap SimCap
  /-- Messages not received yet, the oldest first. -/
  inbox : List Message
  /-- The capabilities that came with the last message. -/
  received : List CapPtr
  /-- Replies, the oldest first. -/
  replies : List Message
  /-- Every slot deleted, in order. -/
  deleted : List CapPtr
  /-- Every slot revoked, in order. -/
  revoked : List CapPtr
  /-- The asynchronous endpoint bound to the thread. -/
  bound : Option CapPtr
  mintFails : Bool
  revokeFails : Bool
  deriving Inhabited

namespace SimKernel

/-- The status for receiving when no message is queued. -/
def wouldBlock : Int32 := -11

/-- The status of a failure that was asked for. -/
def injectedFailure : Int32 := -1

/-- The status for filling a slot that holds a capability. -/
def slotOccupied : Int32 := -2

def empty : SimKernel := ⟨.empty, [], [], [], [], [], none, false, false⟩

/-! ## Looking and meddling -/

/-- The capability in a slot. -/
def cap (k : SimKernel) (slot : CapPtr) : Option SimCap := k.slots.get? slot

/-- The badge of the capability in a slot. -/
def badgeOf (k : SimKernel) (slot : CapPtr) : Option Badge := (k.cap slot).map SimCap.badge

/-- Queue a message. -/
def enqueue (msg : Message) (k : SimKernel) : SimKernel := { k with inbox := k.inbox ++ [msg] }

/-- Have a message's capabilities at hand as if it had been received. -/
def deliver (msg : Message) (k : SimKernel) : SimKernel := { k with received := msg.caps }

/-- Put a capability into a slot. -/
def insertCap (slot : CapPtr) (c : SimCap) (k : SimKernel) : SimKernel :=
  { k with slots := k.slots.insert slot c }

/-- Take the latest reply. -/
def takeReply (k : SimKernel) : Option Message × SimKernel :=
  (k.replies.getLast?, { k with replies := k.replies.dropLast })

/-! ## System calls -/

/-- Put a capability into an empty slot. -/
def place (dest : CapPtr) (c : SimCap) : Attempt SimKernel Unit := fun k =>
  if k.slots.contains dest then (.error (.kernel slotOccupied), k)
  else (.ok (), k.insertCap dest c)

/-- A copy refers to the same object; an empty source slot stands for an object of its own. -/
def mint (dest src : CapPtr) (badge : Badge) : Attempt SimKernel Unit := fun k =>
  if k.mintFails then (.error (.kernel injectedFailure), { k with mintFails := false })
  else place dest ⟨((k.cap src).map SimCap.object).getD src, badge⟩ k

def revoke (slot : CapPtr) : Attempt SimKernel Unit := fun k =>
  if k.revokeFails then (.error (.kernel injectedFailure), { k with revokeFails := false })
  else (.ok (), { k with revoked := k.revoked ++ [slot] })

def delete (slot : CapPtr) : Attempt SimKernel Unit := fun k =>
  (.ok (), { k with slots := k.slots.erase slot, deleted := k.deleted ++ [slot] })

def accept (dest : CapPtr) (index : Nat) : Attempt SimKernel Unit := fun k =>
  match k.received[index]? with
  | some src => place dest ⟨src, Badge.none⟩ k
  | none => (.error .malformed, k)

def bindNotification (asyncEp : CapPtr) : Attempt SimKernel Unit := fun k =>
  (.ok (), { k with bound := some asyncEp })

/-- All endpoints share one queue. -/
def receive (_endpoint : CapPtr) : Attempt SimKernel Message := fun k =>
  match k.inbox with
  | [] => (.error (.kernel wouldBlock), k)
  | msg :: rest => (.ok msg, { k with inbox := rest, received := msg.caps })

def reply (msg : Message) : Attempt SimKernel Unit := fun k =>
  (.ok (), { k with replies := k.replies ++ [msg] })

/-- The simulated kernel as a kernel. -/
def kernel : Kernel SimKernel := ⟨mint, revoke, delete, accept, bindNotification, receive, reply⟩

end SimKernel

end CapServer
