import CapServer.Handle
import CapServer.Names.Path

/-!
# Name servers

A name server keeps the endpoints registered with it, each under one name. It owns them: when a
registration goes, its endpoint is handed back to be released.

Resolving a path consults its first segment only. `"/fileserv/docs/readme"` is forwarded to the
endpoint named `fileserv`, nine bytes into the path; the rest of a path without a further slash is
this server's own.
-/

namespace CapServer

/-- What one name server says about a path. -/
inductive Resolution
  /-- The path is a leaf of this server. -/
  | here
  /-- Go on at `endpoint`; so many bytes of the path are dealt with, not counting a slash behind
  them. -/
  | forward (endpoint : CapPtr) (consumed : Nat)
  deriving DecidableEq, Repr

/-- The registrations of one name server, the oldest first. -/
structure NameServer where
  entries : List (Path × CapPtr)
  deriving DecidableEq, Repr, Inhabited

namespace NameServer

def empty : NameServer := ⟨[]⟩

/-- The endpoint registered under a name. -/
def lookup (s : NameServer) (name : Path) : Option CapPtr :=
  (s.entries.find? fun e => e.1 == name).map Prod.snd

/-- Drop the registration of a name and hand its endpoint back. -/
def delete (s : NameServer) (name : Path) : Except Failure (NameServer × CapPtr) :=
  match s.entries.find? fun e => e.1 == name with
  | some e => .ok (⟨s.entries.eraseP fun e => e.1 == name⟩, e.2)
  | none => .error .notFound

/-- Register an endpoint under a name, and hand back the endpoint it replaces. -/
def add (s : NameServer) (name : Path) (endpoint : CapPtr) :
    Except Failure (NameServer × Option CapPtr) :=
  if name.isEmpty || endpoint.isNull then .error .invalidArgument
  else
    match s.delete name with
    | .ok (rest, old) => .ok (⟨rest.entries ++ [(name, endpoint)]⟩, some old)
    | .error _ => .ok (⟨s.entries ++ [(name, endpoint)]⟩, none)

/-- Resolve the first segment of a path. An empty path names nothing. -/
def resolve (s : NameServer) (path : Path) : Except Failure Resolution :=
  let rest := path.dropSlash
  if rest.isEmpty then .error .notFound
  else if !rest.contains '/' then .ok .here
  else
    match s.lookup rest.segment with
    | some endpoint => .ok (.forward endpoint (path.frontSlash ++ rest.segment).byteLength)
    | none => .error .notFound

/-- The endpoints that are handed back when the server stops, the oldest registration first. -/
def endpoints (s : NameServer) : List CapPtr := s.entries.map Prod.snd

end NameServer

end CapServer
