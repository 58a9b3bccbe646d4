import CapServer.Message

/-!
# The kernel

The system calls the runtime relies on, as operations on a state `ω` of which only the kernel
knows the inside. Nothing is assumed about them: any call may fail at any time, whatever it did to
the state before.

`Kernel.lift` carries a kernel to a larger state.
-/

namespace CapServer

/-- Capability operations on the caller's own capability space. -/
structure Kernel (ω : Type) where
  /-- Put a badged copy of the capability in slot `src` into the empty slot `dest`. -/
  mint (dest src : CapPtr) (badge : Badge) : Attempt ω Unit
  /-- Revoke every capability derived from the one in a slot. -/
  revoke (slot : CapPtr) : Attempt ω Unit
  /-- Delete the capability in a slot, leaving the slot empty. -/
  delete (slot : CapPtr) : Attempt ω Unit
  /-- Move one of the capabilities received with the last message into the slot `dest`. -/
  accept (dest : CapPtr) (index : Nat) : Attempt ω Unit
  /-- Bind an asynchronous endpoint to the calling thread. -/
  bindNotification (asyncEp : CapPtr) : Attempt ω Unit
  /-- Take the next message sent to an endpoint. -/
  receive (endpoint : CapPtr) : Attempt ω Message
  /-- Answer the sender of the last message received. -/
  reply (message : Message) : Attempt ω Unit

namespace Kernel

/-- The kernel as a part of a larger state. -/
def lift {ω κ : Type} (p : Part ω κ) (k : Kernel κ) : Kernel ω where
  mint dest src badge := (k.mint dest src badge).on p
  revoke slot := (k.revoke slot).on p
  delete slot := (k.delete slot).on p
  accept dest index := (k.accept dest index).on p
  bindNotification asyncEp := (k.bindNotification asyncEp).on p
  receive endpoint := (k.receive endpoint).on p
  reply message := (k.reply message).on p

end Kernel

end CapServer
