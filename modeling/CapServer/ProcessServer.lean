import CapServer.Ring.Memory

/-!
# The process server

The supervisor that creates endpoints, opens anonymous memory and watches clients for death, as
operations on a state `ω`. As with the kernel, nothing is assumed about them.

A server registers a notification buffer with it; notices are posted there and signalled on the
server's asynchronous endpoint.
-/

namespace CapServer

/-- The calls a process makes on its process server. -/
structure ProcessServer (ω : Type) where
  /-- Create a synchronous endpoint in the empty slot `dest`. -/
  newEndpoint (dest : CapPtr) : Attempt ω Unit
  /-- Create an asynchronous endpoint in the empty slot `dest`. -/
  newAsyncEndpoint (dest : CapPtr) : Attempt ω Unit
  /-- Watch the client with this liveness capability. Its death is posted under the id returned, and
  signalled through `notifyEp`. -/
  watch (liveness notifyEp : CapPtr) : Attempt ω DeathId
  /-- Stop watching a client. -/
  unwatch (liveness : CapPtr) : Attempt ω Unit
  /-- Open an anonymous dataspace of a size, put its capability into `dest` and map it. -/
  openDataspace (size : Nat) (dest : CapPtr) : Attempt ω RegionId
  /-- Use a dataspace as the caller's notification buffer. -/
  registerNotices (dataspace : CapPtr) : Attempt ω Unit
  /-- Use a dataspace as the caller's parameter buffer. -/
  registerParams (dataspace : CapPtr) (size : Nat) : Attempt ω Unit

namespace ProcessServer

/-- The process server as a part of a larger state. -/
def lift {ω κ : Type} (p : Part ω κ) (s : ProcessServer κ) : ProcessServer ω where
  newEndpoint dest := (s.newEndpoint dest).on p
  newAsyncEndpoint dest := (s.newAsyncEndpoint dest).on p
  watch liveness notifyEp := (s.watch liveness notifyEp).on p
  unwatch liveness := (s.unwatch liveness).on p
  openDataspace size dest := (s.openDataspace size dest).on p
  registerNotices dataspace := (s.registerNotices dataspace).on p
  registerParams dataspace size := (s.registerParams dataspace size).on p

end ProcessServer

end CapServer
