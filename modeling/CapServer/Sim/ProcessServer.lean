import CapServer.IdMap
import CapServer.Notice.Post
import CapServer.ProcessServer
import CapServer.Sim.Kernel

/-!
# A process server in memory

A process server that opens dataspaces in shared memory and keeps a list of death watches. It can
kill a client, post any notice into the notification ring registered with it, and be told to fail
the next watch or the next opening.

Killing a client takes its watch off the list first. If no ring is registered, or the ring is full,
the death is lost with it (`SimProcs.kill`).
-/

namespace CapServer

/-- A registered death watch. -/
structure Watch where
  liveness : CapPtr
  notifyEp : CapPtr
  deathId : DeathId
  deriving DecidableEq, Repr

/-- The state of the simulated process server. -/
structure SimProcs where
  endpoints : List CapPtr
  asyncEndpoints : List CapPtr
  /-- The region behind each open dataspace. -/
  dataspaces : IdMap RegionId
  /-- The producing side of the registered notification ring. -/
  notices : Option Writer
  /-- The registered parameter buffer and its size. -/
  paramBuffer : Option (CapPtr × Nat)
  watches : List Watch
  /-- The last death id given out. It counts up in a machine word; here it goes on for ever, so what
  is said of watches is meant for fewer than `wordSize` of them over the life of a process server. -/
  lastDeath : DeathId
  watchFails : Bool
  openFails : Bool
  deriving Inhabited

namespace SimProcs

def empty : SimProcs := ⟨[], [], .empty, none, none, [], 0, false, false⟩

/-- The process server beside the memory it opens dataspaces in. -/
abbrev Run : Type := Memory × SimProcs

/-- The watch on a client. -/
def watch? (s : SimProcs) (liveness : CapPtr) : Option Watch :=
  s.watches.find? fun w => w.liveness == liveness

/-! ## Posting -/

/-- Post into the registered notification ring. -/
def posting (x : Attempt (Writer × Memory) Unit) : Attempt Run Unit := fun (m, s) =>
  match s.notices with
  | none => (.error .unsupported, m, s)
  | some w =>
    let (a, w, m) := x (w, m)
    (a, m, { s with notices := some w })

/-- Post a record as it is. -/
def postRecord (r : Record) : Attempt Run Unit := posting (Writer.postRecord r)

/-- Post a notice. -/
def post (n : Notice) : Attempt Run Unit := posting (Writer.post n)

/-- Kill a client: drop its watch and post its death. -/
def kill (liveness : CapPtr) : Attempt Run Watch := do
  let (m, s) ← get
  match s.watch? liveness with
  | none => throw .notFound
  | some w =>
    set (m, { s with watches := s.watches.eraseP fun v => v.liveness == liveness })
    post (.death (UInt64.ofNat w.deathId))
    return w

/-! ## Calls -/

def newEndpoint (dest : CapPtr) : Attempt Run Unit := fun (m, s) =>
  (.ok (), m, { s with endpoints := s.endpoints ++ [dest] })

def newAsyncEndpoint (dest : CapPtr) : Attempt Run Unit := fun (m, s) =>
  (.ok (), m, { s with asyncEndpoints := s.asyncEndpoints ++ [dest] })

/-- A new watch on a client replaces an old one. Its death id is new, as long as there were fewer
watches than a word has values (`SimProcs.lastDeath`). -/
def watch (liveness notifyEp : CapPtr) : Attempt Run DeathId := fun (m, s) =>
  if s.watchFails then
    (.error (.kernel SimKernel.injectedFailure), m, { s with watchFails := false })
  else
    let death := s.lastDeath + 1
    let others := s.watches.filter fun w => w.liveness != liveness
    let watch : Watch := ⟨liveness, notifyEp, death⟩
    (.ok death, m, { s with watches := others ++ [watch], lastDeath := death })

def unwatch (liveness : CapPtr) : Attempt Run Unit := fun (m, s) =>
  if (s.watch? liveness).isNone then (.error .notFound, m, s)
  else (.ok (), m, { s with watches := s.watches.filter fun w => w.liveness != liveness })

def openDataspace (size : Nat) (dest : CapPtr) : Attempt Run RegionId := fun (m, s) =>
  if s.openFails then (.error .resourceExhausted, m, { s with openFails := false })
  else
    let (id, m) := m.addZeroed size
    (.ok id, m, { s with dataspaces := s.dataspaces.insert dest id })

def registerNotices (dataspace : CapPtr) : Attempt Run Unit := fun (m, s) =>
  match s.dataspaces.get? dataspace with
  | none => (.error .notFound, m, s)
  | some id => (.ok (), m, { s with notices := some (.attach m id) })

def registerParams (dataspace : CapPtr) (size : Nat) : Attempt Run Unit := fun (m, s) =>
  if s.dataspaces.contains dataspace then
    (.ok (), m, { s with paramBuffer := some (dataspace, size) })
  else (.error .notFound, m, s)

/-- The simulated process server as a process server. -/
def processServer : ProcessServer Run :=
  ⟨newEndpoint, newAsyncEndpoint, watch, unwatch, openDataspace, registerNotices,
    registerParams⟩

end SimProcs

end CapServer
