import CapServer.Connection
import CapServer.Server.Dispatch
import CapServer.Sim.Machine

/-!
# A client and a server in one process

A `Link` joins a server to a client with a machine of its own. Whatever the client sends is put into
the server's inbox, the server goes through one round, and the client takes the latest reply. A
session's endpoint is carried over by putting a capability with the same badge into the client's
slot.

Each request of the client is logged and goes through a fault plan first.
-/

namespace CapServer

/-- The kinds of request a client sends. -/
inductive ClientCall
  | connect | ping | setParamBuffer | disconnect
  deriving DecidableEq, Repr

/-- A server, and a client of it. -/
structure Link (ν : Type) where
  server : Server (Machine ν)
  client : World (Machine Unit)
  /-- The requests the client made and their arguments. -/
  calls : List (ClientCall × List Nat)
  callFaults : FaultPlan ClientCall

namespace Link

variable {ν α : Type}

/-! ## Components -/

def serverPart : Part (Link ν) (Server (Machine ν)) where
  get l := l.server
  set s l := { l with server := s }

def clientPart : Part (Link ν) (World (Machine Unit)) where
  get l := l.client
  set c l := { l with client := c }

def callFaultsPart : Part (Link ν) (FaultPlan ClientCall) where
  get l := l.callFaults
  set p l := { l with callFaults := p }

/-- The server's kernel. -/
def serverKernelPart : Part (Link ν) SimKernel :=
  serverPart.comp (Server.worldPart.comp (World.restPart.comp Machine.kernelPart))

/-- The client's kernel. -/
def clientKernelPart : Part (Link ν) SimKernel :=
  clientPart.comp (World.restPart.comp Machine.kernelPart)

/-! ## Requests -/

/-- Send a message to the server, let it go through one round, and take the latest reply, its status
read. -/
def request (svc : Service (Machine ν)) (msg : Message) : Attempt (Link ν) Message := do
  modify fun l => serverKernelPart.set ((serverKernelPart.get l).enqueue msg) l
  let _ ← (Server.serve Machine.guardedKernel svc).on serverPart
  let (reply, kernel) := (serverKernelPart.get (← get)).takeReply
  modify (serverKernelPart.set kernel)
  let reply ← Attempt.orFail reply .notFound
  let (status, reply) := Reply.result reply
  Attempt.ofExcept status
  return reply

/-- Log a request and make it by plan. -/
def logged (call : ClientCall) (args : List Nat) (x : Attempt (Link ν) α) : Attempt (Link ν) α := do
  modify fun l => { l with calls := l.calls ++ [(call, args)] }
  FaultPlan.guard callFaultsPart call x

/-- The badge on a session's endpoint, as the client holds it. -/
def sessionBadge (session : CapPtr) : Attempt (Link ν) Badge := do
  Attempt.orFail ((clientKernelPart.get (← get)).badgeOf session) .notFound

/-- Open a session and carry its endpoint over to the client. -/
def connect (svc : Service (Machine ν)) (anon liveness dest : CapPtr) : Attempt (Link ν) Unit := do
  if anon = (← get).server.anonEp then
    let reply ← request svc (Request.encode .connect |>.withCap liveness)
    let (word, reply) := Message.pop reply
    let _ ← Attempt.ofExcept word
    let session ← Attempt.orFail reply.caps.head? .malformed
    let badge ← Attempt.orFail ((serverKernelPart.get (← get)).badgeOf session) .notFound
    modify fun l =>
      clientKernelPart.set ((clientKernelPart.get l).insertCap dest ⟨session, badge⟩) l
  else throw .notFound

/-- Send a request through a session's endpoint. -/
def send (svc : Service (Machine ν)) (session : CapPtr) (msg : Message) :
    Attempt (Link ν) Unit := do
  let _ ← request svc { msg with badge := ← sessionBadge session }

/-- The link as the client sees it. -/
def serverCalls (svc : Service (Machine ν)) : ServerCalls (Link ν) where
  connect anon liveness dest :=
    logged .connect [anon, liveness, dest] (connect svc anon liveness dest)
  ping session := logged .ping [session] (send svc session (Request.encode .ping))
  setParamBuffer session dataspace size :=
    logged .setParamBuffer [session, dataspace, size] (send svc session
      (Request.encode (.setParamBuffer (UInt64.ofNat size)) |>.withCap dataspace))
  disconnect session := logged .disconnect [session] (send svc session (Request.encode .disconnect))

/-- A client that reaches the server, and the server's name service, through the link. -/
def asClient (svc : Service (Machine ν)) : Client (Link ν) where
  kernel := Machine.guardedKernel.lift clientPart
  procs := Machine.guardedProcs.lift clientPart
  names := Machine.names.lift (serverPart.comp Server.worldPart)
  server := serverCalls svc

end Link

end CapServer
