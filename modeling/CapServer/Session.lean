import CapServer.CapSpace
import CapServer.ObjectTable

/-!
# Client sessions

A server's table of the clients connected to it. A session owns the client's liveness capability, by
which the process server knows the client, an endpoint minted for it with a badge of its own, and
possibly a parameter buffer.

A session is never ended while a request is handled: it is queued (`ClientTable.queueDelete`,
`ClientTable.queueDeath`), and `ClientTable.sweep` ends what is queued once the reply is out.
-/

namespace CapServer

/-- A buffer a client shares for its parameters. -/
structure ParamBuffer where
  dataspace : CapPtr
  size : Nat
  /-- Where reading starts. -/
  start : Nat
  deriving DecidableEq, Repr

/-- One connected client. -/
structure Session where
  id : ClientId
  /-- The badge on the session's endpoint. -/
  badge : Badge
  /-- The client's liveness capability. -/
  liveness : CapPtr
  /-- The badged endpoint that the client sends to. -/
  endpoint : CapPtr
  /-- The connection is complete. -/
  active : Bool
  /-- The id under which the client's death would be announced. -/
  deathId : Option DeathId
  paramBuffer : Option ParamBuffer
  deriving DecidableEq, Repr

/-- Where a session stands. -/
inductive SessionState
  /-- Made, but its death is not watched for yet. -/
  | connecting
  /-- Connected. -/
  | active
  /-- Queued to be ended. -/
  | pendingDelete
  deriving DecidableEq, Repr

namespace Session

variable {ω : Type}

/-- The slots a session owns. -/
def slots (s : Session) : List CapPtr :=
  s.liveness :: s.endpoint :: (s.paramBuffer.map ParamBuffer.dataspace).toList

/-- Sessions are made by minting an endpoint from `source` for a client whose liveness capability is
at hand, with the badge `badgeBase + id`. Whatever they own is released when they end. -/
def factory (k : Kernel ω) (badgeBase : Nat) (source : CapPtr) :
    Factory (CapSpace ω) Session CapPtr where
  create id liveness := fun caps =>
    match CapSpace.mint k source (id + badgeBase) caps with
    | (.ok endpoint, caps) =>
      (.ok ⟨id, id + badgeBase, liveness, endpoint, false, none, none⟩, caps)
    | (.error e, caps) => (.error e, caps.discard k liveness)
  destroy _ s caps := s.slots.foldl (fun caps slot => caps.discard k slot) caps
  reject liveness caps := caps.discard k liveness

end Session

/-- The sessions of a server, and those of them queued to be ended. -/
structure ClientTable where
  table : ObjectTable Session
  /-- The queue, the first one queued at its front. -/
  pending : List ClientId
  badgeBase : Nat
  /-- One past the last badge of a session. -/
  badgeEnd : Nat
  /-- The endpoint that session endpoints are minted from. -/
  source : CapPtr

namespace ClientTable

variable {ω : Type}

/-- The range of badges that a table of so many clients gives out; it must fit a word. -/
def badgeRange (maxClients badgeBase : Nat) : Except Failure (Nat × Nat) :=
  if wordSize ≤ badgeBase + maxClients then .error .invalidArgument
  else .ok (min (badgeBase + 1) (wordSize - 1), badgeBase + maxClients)

/-- An empty table with client ids in `[1, maxClients)`. -/
def create (maxClients badgeBase : Nat) (source : CapPtr) : Except Failure ClientTable := do
  let (_, badgeEnd) ← badgeRange maxClients badgeBase
  let table ← ObjectTable.ofRange 1 maxClients
  return ⟨table, [], badgeBase, badgeEnd, source⟩

/-- The session of a client. -/
def get? (t : ClientTable) (id : ClientId) : Option Session := t.table.get? id

/-- Change the session of a client, if there is one. -/
def modify (t : ClientTable) (id : ClientId) (f : Session → Session) : ClientTable :=
  { t with table := t.table.modify id f }

/-- The live sessions in id order. -/
def sessions (t : ClientTable) : List Session := t.table.toList.map Prod.snd

/-- How many sessions are live, the queued ones included. -/
def size (t : ClientTable) : Nat := t.table.size

/-! ## Badges -/

/-- The client a badge would belong to. -/
def clientId? (t : ClientTable) (badge : Badge) : Option ClientId :=
  if badge < t.badgeBase || t.badgeEnd ≤ badge then none else some (badge - t.badgeBase)

/-- The session whose requests come with a badge. -/
def getByBadge? (t : ClientTable) (badge : Badge) : Option Session :=
  (t.clientId? badge).bind t.get?

/-! ## Sessions -/

/-- How the table makes and ends its sessions. -/
def factory (k : Kernel ω) (t : ClientTable) : Factory (CapSpace ω) Session CapPtr :=
  Session.factory k t.badgeBase t.source

/-- Open a session for the client with a liveness capability, which becomes the session's own. If
there is no session the capability is released. -/
def alloc (k : Kernel ω) (liveness : CapPtr) : Attempt (ClientTable × CapSpace ω) ClientId :=
  fun (t, caps) =>
    let (a, table, caps) := ObjectTable.alloc (t.factory k) liveness (t.table, caps)
    (a.map Prod.fst, { t with table := table }, caps)

/-- Queue a session to be ended. Queueing one twice changes nothing. -/
def queueDelete (id : ClientId) : Attempt ClientTable Unit := fun t =>
  if (t.get? id).isNone then (.error .notFound, t)
  else (.ok (), if t.pending.contains id then t else { t with pending := t.pending ++ [id] })

/-- The session whose death would be announced under an id, the first in id order. -/
def findDeath? (t : ClientTable) (death : DeathId) : Option ClientId :=
  (t.table.toList.find? fun e => e.2.deathId == some death).map Prod.fst

/-- Queue the session whose death is announced under an id. -/
def queueDeath (death : DeathId) : Attempt ClientTable ClientId := do
  let id ← Attempt.orFail ((← get).findDeath? death) .notFound
  queueDelete id
  return id

/-- Where the session of a client stands. -/
def state? (t : ClientTable) (id : ClientId) : Option SessionState :=
  (t.get? id).map fun s =>
    if t.pending.contains id then .pendingDelete
    else if s.active then .active
    else .connecting

/-- End the session of one client; tell whether there was one. -/
def destroy (k : Kernel ω) (id : ClientId) (s : ClientTable × CapSpace ω) :
    Bool × (ClientTable × CapSpace ω) :=
  let (a, table, caps) := ObjectTable.free (s.1.factory k) id (s.1.table, s.2)
  (a.toBool, { s.1 with table := table }, caps)

/-- End every queued session, and tell how many there were. -/
def sweep (k : Kernel ω) (s : ClientTable × CapSpace ω) : Nat × (ClientTable × CapSpace ω) :=
  s.1.pending.foldl
    (fun (n, s) id =>
      let (ended, s) := destroy k id s
      (if ended then n + 1 else n, s))
    (0, { s.1 with pending := [] }, s.2)

/-- End every session. -/
def release (k : Kernel ω) (t : ClientTable) (caps : CapSpace ω) : CapSpace ω :=
  t.table.release (t.factory k) caps

end ClientTable

end CapServer
