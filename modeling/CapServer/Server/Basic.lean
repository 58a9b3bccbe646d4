import CapServer.Names.Directory
import CapServer.ProcessServer
import CapServer.Server.Config

/-!
# Servers

The state every server has, and its beginning and end.

`Server.start` brings a server up: endpoints, a published mount point, a client table, the buffers
shared with the process server. The first failure is final, and what was acquired before it stays
acquired. `Server.shutdown` gives everything back and cannot fail.

Where a server runs, the memory it shares with others is known, and nothing else: `World σ` is the
shared memory beside an unknown state `σ` that the kernel and the process server work on.
-/

namespace CapServer

/-- Shared memory, and everything else there is. -/
structure World (σ : Type) where
  memory : Memory
  rest : σ

namespace World

variable {σ : Type}

def memoryPart : Part (World σ) Memory where
  get w := w.memory
  set m w := { w with memory := m }

def restPart : Part (World σ) σ where
  get w := w.rest
  set s w := { w with rest := s }

end World

/-- The two collaborators a process depends on. -/
structure Platform (ω : Type) where
  kernel : Kernel ω
  procs : ProcessServer ω

/-- A dataspace that is mapped into the server. -/
structure MappedBuffer where
  dataspace : CapPtr
  region : RegionId
  deriving DecidableEq, Repr

namespace MappedBuffer

variable {σ : Type}

/-- Open an anonymous dataspace in a slot taken for it; if that fails, the slot goes back. -/
def create (procs : ProcessServer (World σ)) (size : Nat) :
    Attempt (CapSpace (World σ)) MappedBuffer := do
  let dataspace ← CapSpace.alloc
  match ← ((procs.openDataspace size dataspace).on CapSpace.worldPart).catching with
  | .ok region => return ⟨dataspace, region⟩
  | .error e =>
    modify (CapSpace.free dataspace)
    throw e

end MappedBuffer

/-- The notification ring of a server, and how far it was read. -/
structure NoticeBuffer where
  dataspace : CapPtr
  reader : Reader
  deriving DecidableEq, Repr

/-- A running server. -/
structure Server (σ : Type) where
  config : Config
  caps : CapSpace (World σ)
  /-- The endpoint that clients connect through. -/
  anonEp : CapPtr
  notifyAsyncEp : CapPtr
  /-- The badged endpoint that notifications are signalled on. -/
  notifyEp : CapPtr
  notices : Option NoticeBuffer
  paramBuffer : Option MappedBuffer
  clients : Option ClientTable

namespace Server

variable {σ α : Type}

/-! ## Components -/

def capsPart : Part (Server σ) (CapSpace (World σ)) where
  get s := s.caps
  set c s := { s with caps := c }

/-- The world around a server. -/
def worldPart : Part (Server σ) (World σ) := capsPart.comp CapSpace.worldPart

/-- The shared memory. -/
def memoryPart : Part (Server σ) Memory := worldPart.comp World.memoryPart

/-- Work on the client table and the capability space; a server without clients supports none of
it. -/
def withClients (x : Attempt (ClientTable × CapSpace (World σ)) α) : Attempt (Server σ) α :=
  fun s =>
    match s.clients with
    | none => (.error .unsupported, s)
    | some t =>
      let (a, t, caps) := x (t, s.caps)
      (a, { s with clients := some t, caps := caps })

/-- The session of a client. -/
def session? (s : Server σ) (client : ClientId) : Option Session :=
  s.clients.bind fun t => t.get? client

/-! ## Beginning -/

/-- Publish an endpoint under the mount point, if there is one. -/
def publish (names : Option (NameResolver (World σ))) (config : Config) (endpoint : CapPtr) :
    Attempt (CapSpace (World σ)) Unit :=
  match config.mountPoint with
  | none => pure ()
  | some path => do
    let names ← Attempt.orFail names .invalidArgument
    (names.register config.nameServer path endpoint).on CapSpace.worldPart

/-- Open the notification ring, if one is wanted, and register it. -/
def openNotices (procs : ProcessServer (World σ)) (size : Nat) :
    Attempt (CapSpace (World σ)) (Option NoticeBuffer) :=
  if size = 0 then pure none
  else do
    let buffer ← MappedBuffer.create procs size
    (procs.registerNotices buffer.dataspace).on CapSpace.worldPart
    return some ⟨buffer.dataspace, .attach (← get).world.memory buffer.region⟩

/-- Open the parameter buffer, if one is wanted, and register it. -/
def openParams (procs : ProcessServer (World σ)) (size : Nat) :
    Attempt (CapSpace (World σ)) (Option MappedBuffer) :=
  if size = 0 then pure none
  else do
    let buffer ← MappedBuffer.create procs size
    (procs.registerParams buffer.dataspace size).on CapSpace.worldPart
    return some buffer

/-- The client table a configuration asks for. -/
def openClients (config : Config) (source : CapPtr) : Except Failure (Option ClientTable) :=
  if config.maxClients = 0 then .ok none
  else some <$> ClientTable.create config.maxClients config.clientBadgeBase source

/-- Bring a server up. A name service is needed only for a mount point. -/
def start (p : Platform (World σ)) (names : Option (NameResolver (World σ))) (config : Config) :
    Attempt (CapSpace (World σ)) (Server σ) := do
  Attempt.ofExcept config.checkBadges
  let anonEp ← CapSpace.allocFilled p.procs.newEndpoint
  let notifyAsyncEp ← CapSpace.allocFilled p.procs.newAsyncEndpoint
  let notifyEp ← CapSpace.mint p.kernel notifyAsyncEp config.noticeBadge
  (p.kernel.bindNotification notifyAsyncEp).on CapSpace.worldPart
  publish names config anonEp
  let clients ← Attempt.ofExcept (openClients config anonEp)
  let notices ← openNotices p.procs config.notificationBufferSize
  let paramBuffer ← openParams p.procs config.paramBufferSize
  return { config, caps := ← get, anonEp, notifyAsyncEp, notifyEp, notices, paramBuffer, clients }

/-! ## End -/

/-- Take the mount point back, if there is one. -/
def withdraw (names : Option (NameResolver (World σ))) (s : Server σ) : CapSpace (World σ) :=
  match s.config.mountPoint, names with
  | some path, some names =>
    ((names.unregister s.config.nameServer path).on CapSpace.worldPart).settle s.caps
  | _, _ => s.caps

/-- The slots that belong to the server itself, in the order in which they are given back. -/
def ownSlots (s : Server σ) : List CapPtr :=
  (s.notices.map NoticeBuffer.dataspace).toList ++ (s.paramBuffer.map MappedBuffer.dataspace).toList
    ++ [s.notifyEp, s.notifyAsyncEp, s.anonEp]

/-- Give everything back. Each step is taken whether or not the one before succeeded. -/
def shutdown (k : Kernel (World σ)) (names : Option (NameResolver (World σ))) (s : Server σ) :
    CapSpace (World σ) :=
  let caps := s.withdraw names
  let caps := match s.clients with
    | some t => t.release k caps
    | none => caps
  s.ownSlots.foldl (fun caps slot => caps.discard k slot) caps

end Server

end CapServer
