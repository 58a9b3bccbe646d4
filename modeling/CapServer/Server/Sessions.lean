import CapServer.Server.Basic

/-!
# Serving sessions

What a server does about its sessions when nothing else is asked of it: opening one
(`Server.connect`), setting its parameter buffer (`Server.setParamBuffer`), closing it
(`Server.disconnect`), and ending those that are queued (`Server.sweep`).
-/

namespace CapServer

/-- A client table beside the capability space its sessions own slots in. -/
abbrev Sessions (σ : Type) : Type := ClientTable × CapSpace (World σ)

namespace Sessions

variable {σ : Type}

def tablePart : Part (Sessions σ) ClientTable := .fst

def capsPart : Part (Sessions σ) (CapSpace (World σ)) := .snd

def worldPart : Part (Sessions σ) (World σ) := capsPart.comp CapSpace.worldPart

/-- Change the session of a client, if there is one. -/
def edit (client : ClientId) (f : Session → Session) (s : Sessions σ) : Sessions σ :=
  (s.1.modify client f, s.2)

/-- The session of a client. -/
def session (client : ClientId) : Attempt (Sessions σ) Session := do
  Attempt.orFail ((← get).1.get? client) .notFound

/-- Open a session for the client whose liveness capability came with the last message, and have its
death watched for. If it cannot be watched, the session is ended at once. -/
def connect (p : Platform (World σ)) (notifyEp : CapPtr) : Attempt (Sessions σ) ClientId := do
  let liveness ← (CapSpace.accept p.kernel 0).on capsPart
  let id ← ClientTable.alloc p.kernel liveness
  let liveness := (← session id).liveness
  match ← ((p.procs.watch liveness notifyEp).on worldPart).catching with
  | .ok death =>
    modify (edit id fun s => { s with deathId := some death, active := true })
    return id
  | .error e =>
    (ClientTable.queueDelete id).on tablePart
    modify fun s => (ClientTable.sweep p.kernel s).2
    throw e

/-- The buffer a request asks for. A size of zero with nothing attached asks for none; otherwise the
dataspace must be attached and the size must not be zero. -/
def takeBuffer (k : Kernel (World σ)) (msg : Message) (size : Nat) :
    Attempt (Sessions σ) (Option ParamBuffer) :=
  if msg.caps.length = 0 && size = 0 then pure none
  else if !msg.carries 0 1 then throw .permissionOrProtocol
  else if size = 0 then throw .invalidArgument
  else do
    let dataspace ← (CapSpace.accept k 0).on capsPart
    return some ⟨dataspace, size, 0⟩

/-- Give a client the parameter buffer it asks for. The old one is revoked and released; whether
that succeeds does not matter for the new one. -/
def setParamBuffer (k : Kernel (World σ)) (client : ClientId) (msg : Message) (size : Nat) :
    Attempt (Sessions σ) Unit := do
  let old := (← session client).paramBuffer
  let buffer ← takeBuffer k msg size
  modify (edit client fun s => { s with paramBuffer := buffer })
  match old with
  | some old => ((CapSpace.reclaim k old.dataspace).on capsPart).tolerate
  | none => pure ()

/-- Queue a client's session and stop watching for its death. The session ends even if the process
server knows of no watch. -/
def disconnect (procs : ProcessServer (World σ)) (client : ClientId) :
    Attempt (Sessions σ) Unit := do
  let liveness := (← session client).liveness
  (ClientTable.queueDelete client).on tablePart
  ((procs.unwatch liveness).on worldPart).tolerate

end Sessions

namespace Server

variable {σ : Type}

/-- Open a session for the client whose liveness capability came with a message. -/
def connect (p : Platform (World σ)) (msg : Message) : Attempt (Server σ) ClientId := do
  if msg.carries 0 1 then withClients (Sessions.connect p (← get).notifyEp)
  else throw .permissionOrProtocol

/-- Set or clear a client's parameter buffer. -/
def setParamBuffer (k : Kernel (World σ)) (client : ClientId) (msg : Message) (size : Nat) :
    Attempt (Server σ) Unit :=
  withClients (Sessions.setParamBuffer k client msg size)

/-- Queue a client's session to be ended. -/
def disconnect (procs : ProcessServer (World σ)) (client : ClientId) : Attempt (Server σ) Unit :=
  withClients (Sessions.disconnect procs client)

/-- Queue the session whose death is announced under an id. -/
def queueDeath (death : DeathId) : Attempt (Server σ) ClientId :=
  withClients ((ClientTable.queueDeath death).on Sessions.tablePart)

/-- The client whose session has a badge. -/
def clientOf (badge : Badge) : Attempt (Server σ) ClientId :=
  withClients do
    let t := (← get).1
    Attempt.orFail ((t.clientId? badge).filter fun id => (t.get? id).isSome) .notFound

/-- Put a badged copy of an endpoint into a slot taken for it. -/
def mint (k : Kernel (World σ)) (badge : Badge) (endpoint : CapPtr) : Attempt (Server σ) CapPtr :=
  (CapSpace.mint k endpoint badge).on capsPart

/-- End every queued session, and tell how many there were. -/
def sweep (k : Kernel (World σ)) (s : Server σ) : Nat × Server σ :=
  match s.clients with
  | none => (0, s)
  | some t =>
    let (n, t, caps) := ClientTable.sweep k (t, s.caps)
    (n, { s with clients := some t, caps := caps })

end Server

end CapServer
