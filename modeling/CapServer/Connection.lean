import CapServer.Names.MountPoint
import CapServer.ProcessServer
import CapServer.CapSpace

/-!
# Connections

The client's side. A path is resolved to the server that owns its end, a session is opened with that
server, and a parameter buffer may be shared with it. Some servers need no session: requests go
straight to their anonymous endpoint.

`Connection.connect` releases everything it took if a later step fails; `Connection.disconnect`
gives back what the connection holds, whatever the server answers.
-/

namespace CapServer

/-- The requests a client sends to a server, as operations on a state `ω`. -/
structure ServerCalls (ω : Type) where
  /-- Open a session through a server's anonymous endpoint, showing a liveness capability. The
  session's endpoint is put into the slot `dest`. -/
  connect (anon liveness dest : CapPtr) : Attempt ω Unit
  /-- Ask whether a session is alive. -/
  ping (session : CapPtr) : Attempt ω Unit
  /-- Share a dataspace as the session's parameter buffer. -/
  setParamBuffer (session dataspace : CapPtr) (size : Nat) : Attempt ω Unit
  /-- Close a session. -/
  disconnect (session : CapPtr) : Attempt ω Unit

/-- What a client needs in order to connect. -/
structure Client (ω : Type) where
  kernel : Kernel ω
  procs : ProcessServer ω
  names : NameResolver ω
  server : ServerCalls ω

/-- How to connect. -/
structure ConnectOptions where
  /-- The root name server. -/
  root : CapPtr
  /-- The client's liveness capability. -/
  liveness : CapPtr
  /-- The size of the parameter buffer to share, zero for none. -/
  paramBufferSize : Nat := 0
  /-- Servers that take requests without a session. -/
  connectionless : List CapPtr := []

/-- The endpoint requests are sent to. -/
inductive SessionCap
  /-- The server's anonymous endpoint. -/
  | anonymous (endpoint : CapPtr)
  /-- The endpoint of a session, in a slot of the client's. -/
  | session (slot : CapPtr)
  deriving DecidableEq, Repr

namespace SessionCap

def endpoint : SessionCap → CapPtr
  | anonymous e => e
  | session s => s

def isAnonymous : SessionCap → Bool
  | anonymous _ => true
  | session _ => false

end SessionCap

/-- A parameter buffer on the client's side. -/
structure SharedBuffer where
  dataspace : CapPtr
  region : RegionId
  size : Nat
  deriving DecidableEq, Repr

/-- An open connection to a server. -/
structure Connection where
  mount : MountPoint
  session : SessionCap
  paramBuffer : Option SharedBuffer
  deriving DecidableEq, Repr

namespace Connection

variable {ω : Type}

/-- Open a dataspace and share it with the server. If that fails, the slot goes back. -/
def shareBuffer (c : Client ω) (session : CapPtr) (size : Nat) :
    Attempt (CapSpace ω) SharedBuffer := do
  let dataspace ← CapSpace.alloc
  match ← ((c.procs.openDataspace size dataspace).on CapSpace.worldPart).catching with
  | .error e =>
    modify (CapSpace.free dataspace)
    throw e
  | .ok region =>
    match ← ((c.server.setParamBuffer session dataspace size).on CapSpace.worldPart).catching with
    | .error e =>
      modify (CapSpace.discard c.kernel dataspace)
      throw e
    | .ok () => return ⟨dataspace, region, size⟩

/-- Close a session and release its slot, whatever the server answers. -/
def abandon (c : Client ω) (session : CapPtr) : Attempt (CapSpace ω) Unit := do
  ((c.server.disconnect session).on CapSpace.worldPart).tolerate
  modify (CapSpace.discard c.kernel session)

/-- What follows once a session is open: see that it is alive and share a buffer, if one is
wanted. -/
def settleIn (c : Client ω) (session : CapPtr) (size : Nat) :
    Attempt (CapSpace ω) (Option SharedBuffer) := do
  (c.server.ping session).on CapSpace.worldPart
  if size = 0 then return none
  else return some (← shareBuffer c session size)

/-- Open a session with the server at a mount point. -/
def openSession (c : Client ω) (options : ConnectOptions) (mount : MountPoint) :
    Attempt (CapSpace ω) Connection := do
  let session ← CapSpace.alloc
  match ← ((c.server.connect mount.server options.liveness session).on
      CapSpace.worldPart).catching with
  | .error e =>
    modify (CapSpace.free session)
    throw e
  | .ok () =>
    match ← (settleIn c session options.paramBufferSize).catching with
    | .error e =>
      abandon c session
      throw e
    | .ok buffer => return ⟨mount, .session session, buffer⟩

/-- Resolve a path and connect to the server that owns its end. -/
def connect (c : Client ω) (options : ConnectOptions) (path : Path) :
    Attempt (CapSpace ω) Connection := do
  let mount ← (MountPoint.resolve c.names options.root path).on CapSpace.worldPart
  if options.connectionless.contains mount.server then
    return ⟨mount, .anonymous mount.server, none⟩
  else openSession c options mount

/-- Close a connection and give back its slots. The answer is the server's. -/
def disconnect (c : Client ω) (conn : Connection) : Attempt (CapSpace ω) Unit := do
  match conn.paramBuffer with
  | some buffer => modify (CapSpace.discard c.kernel buffer.dataspace)
  | none => pure ()
  match conn.session with
  | .anonymous _ => pure ()
  | .session slot =>
    let answer ← ((c.server.disconnect slot).on CapSpace.worldPart).catching
    modify (CapSpace.discard c.kernel slot)
    Attempt.ofExcept answer

end Connection

end CapServer
