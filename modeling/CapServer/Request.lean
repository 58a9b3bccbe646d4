import CapServer.Message

/-!
# Requests of the connection protocol

The four requests every server understands: connect, ping, set the parameter buffer, disconnect.
Their labels are consecutive (`Request.isLabel`). Reading a request back from its message gives the
request again (`Request.decode_encode`).

`Dispatch` is how a message fared with a server.
-/

namespace CapServer

/-- How a message fared. -/
inductive Dispatch
  /-- Handling it failed. -/
  | error
  /-- It was not meant for this server. -/
  | pass
  /-- It was handled. -/
  | success
  deriving DecidableEq, Repr

namespace Dispatch

/-- The number of an outcome. -/
def code : Dispatch → Int
  | error => -2
  | pass => -1
  | success => 0

end Dispatch

/-- A request of the connection protocol. -/
inductive Request
  /-- Open a session; the caller's liveness capability is attached. -/
  | connect
  /-- Ask whether the session is alive. -/
  | ping
  /-- Share a parameter buffer (a size and its dataspace attached), or unshare it (size zero and
  nothing attached). -/
  | setParamBuffer (size : Word)
  /-- Close the session. -/
  | disconnect
  deriving DecidableEq, Repr

namespace Request

/-! ## Labels -/

/-- The first label of the protocol. -/
def baseLabel : Nat := 0x1400
def connectLabel : Nat := baseLabel
def pingLabel : Nat := baseLabel + 1
def setParamBufferLabel : Nat := baseLabel + 2
def disconnectLabel : Nat := baseLabel + 3

/-- One past the last label of the protocol. -/
def endLabel : Nat := baseLabel + 4

/-- Whether a label belongs to the protocol. -/
def isLabel (label : Nat) : Bool := baseLabel ≤ label && label < endLabel

/-! ## Coding -/

/-- The request as a message. -/
def encode : Request → Message
  | connect => .ofLabel connectLabel
  | ping => .ofLabel pingLabel
  | setParamBuffer size => (Message.ofLabel setParamBufferLabel).push size
  | disconnect => .ofLabel disconnectLabel

/-- Read a request, consuming its payload; `none` if the label is not of the protocol. -/
def decode : Attempt Message (Option Request) := do
  let label := (← get).label
  if label = connectLabel then return some connect
  else if label = pingLabel then return some ping
  else if label = setParamBufferLabel then return some (setParamBuffer (← Message.pop))
  else if label = disconnectLabel then return some disconnect
  else return none

theorem decode_encode (r : Request) : (decode r.encode).1 = .ok (some r) := by
  cases r <;> rfl

end Request

end CapServer
