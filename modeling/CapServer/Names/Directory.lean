import CapServer.IdMap
import CapServer.Names.NameServer

/-!
# The name service

Calls on name servers are addressed by the name server's own endpoint; `NameResolver` is what a
client or a server sees of them. `Directory` is a name service within one process: its name servers
by endpoint, and every endpoint they handed back, in the order in which that happened.
-/

namespace CapServer

/-- Calls on name servers, as operations on a state `ω`. -/
structure NameResolver (ω : Type) where
  /-- Register an endpoint under a path at a name server. -/
  register (ns : CapPtr) (path : Path) (endpoint : CapPtr) : Attempt ω Unit
  /-- Remove a path from a name server. -/
  unregister (ns : CapPtr) (path : Path) : Attempt ω Unit
  /-- Resolve the first segment of a path at a name server. -/
  resolve (ns : CapPtr) (path : Path) : Attempt ω Resolution

namespace NameResolver

/-- The name service as a part of a larger state. -/
def lift {ω κ : Type} (p : Part ω κ) (n : NameResolver κ) : NameResolver ω where
  register ns path endpoint := (n.register ns path endpoint).on p
  unregister ns path := (n.unregister ns path).on p
  resolve ns path := (n.resolve ns path).on p

end NameResolver

/-- Name servers by endpoint, and the endpoints they handed back. -/
structure Directory where
  servers : IdMap NameServer
  released : List CapPtr
  deriving Inhabited

namespace Directory

def empty : Directory := ⟨.empty, []⟩

/-- Start a name server at an endpoint. -/
def addServer (ns : CapPtr) : Attempt Directory Unit := fun d =>
  if d.servers.contains ns then (.error .invalidArgument, d)
  else (.ok (), { d with servers := d.servers.insert ns .empty })

/-- A directory in which a name server was started at each of some endpoints. -/
def ofServers (endpoints : List CapPtr) : Directory :=
  endpoints.foldl (fun d ns => (addServer ns).settle d) empty

/-- Stop a name server; its endpoints are handed back. -/
def removeServer (ns : CapPtr) : Attempt Directory Unit := fun d =>
  match d.servers.get? ns with
  | some s => (.ok (), ⟨d.servers.erase ns, d.released ++ s.endpoints⟩)
  | none => (.error .notFound, d)

/-- The endpoint registered under a name at a name server. -/
def lookup (d : Directory) (ns : CapPtr) (name : Path) : Option CapPtr :=
  (d.servers.get? ns).bind fun s => s.lookup name

/-- Register an endpoint under a path, less one slash at its front. -/
def register (ns : CapPtr) (path : Path) (endpoint : CapPtr) : Attempt Directory Unit := fun d =>
  match d.servers.get? ns with
  | none => (.error .notFound, d)
  | some s =>
    match s.add path.dropSlash endpoint with
    | .ok (s, old) => (.ok (), ⟨d.servers.insert ns s, d.released ++ old.toList⟩)
    | .error e => (.error e, d)

/-- Remove a path, less one slash at its front. -/
def unregister (ns : CapPtr) (path : Path) : Attempt Directory Unit := fun d =>
  match d.servers.get? ns with
  | none => (.error .notFound, d)
  | some s =>
    match s.delete path.dropSlash with
    | .ok (s, old) => (.ok (), ⟨d.servers.insert ns s, d.released ++ [old]⟩)
    | .error e => (.error e, d)

/-- Resolve the first segment of a path at a name server. -/
def resolve (ns : CapPtr) (path : Path) : Attempt Directory Resolution := fun d =>
  match d.servers.get? ns with
  | none => (.error .notFound, d)
  | some s => (s.resolve path, d)

/-- Stop every name server, in endpoint order. -/
def close (d : Directory) : Directory :=
  ⟨.empty, d.released ++ d.servers.toList.flatMap fun (_, s) => s.endpoints⟩

/-- A directory as the name service of its process. -/
def resolver : NameResolver Directory := ⟨register, unregister, resolve⟩

end Directory

end CapServer
