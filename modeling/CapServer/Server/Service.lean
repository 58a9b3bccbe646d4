import CapServer.Notice.Record
import CapServer.Request
import CapServer.Server.Sessions

/-!
# Services

What a server does is a record of handlers, one for each kind of notice and each request. A handler
works on the server it belongs to; whatever state a service needs of its own is part of the server's
world.

`Service.basic` understands the connection protocol and nothing else. A service with more to say is
made from it by replacing handlers.
-/

namespace CapServer

/-- The handlers of a server. -/
structure Service (σ : Type) where
  /-- A client faulted on a window this server backs. -/
  onFault : FaultNotice → Attempt (Server σ) Unit
  /-- A dataspace this server backs needs content. -/
  onContent : ContentNotice → Attempt (Server σ) Unit
  /-- A watched client died. -/
  onDeath : DeathId → Attempt (Server σ) Unit
  /-- A request outside the connection protocol; no reply means that it is not this server's. -/
  dispatch : Message → Attempt (Server σ) (Option Message)
  onConnect : Message → Attempt (Server σ) ClientId
  onPing : ClientId → Attempt (Server σ) Unit
  onSetParamBuffer : ClientId → Message → Nat → Attempt (Server σ) Unit
  onDisconnect : ClientId → Attempt (Server σ) Unit

namespace Service

variable {σ : Type}

/-- A service that knows only the connection protocol. -/
def basic (p : Platform (World σ)) : Service σ where
  onFault _ := throw .unsupported
  onContent _ := throw .unsupported
  onDeath death := do let _ ← Server.queueDeath death
  dispatch _ := pure none
  onConnect msg := Server.connect p msg
  onPing _ := pure ()
  onSetParamBuffer client msg size := Server.setParamBuffer p.kernel client msg size
  onDisconnect client := Server.disconnect p.procs client

/-- Pass a notice to the handler of its kind. -/
def onNotice (svc : Service σ) : Notice → Attempt (Server σ) Unit
  | .fault n => svc.onFault n
  | .content n => svc.onContent n
  | .death id => svc.onDeath id.toNat

end Service

end CapServer
