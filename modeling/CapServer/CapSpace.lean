import CapServer.Kernel
import CapServer.Slots

/-!
# Capability spaces

A slot allocator beside the world whose kernel manages the slots. An operation that takes a slot
and then fills it gives the slot back if the filling fails (`CapSpace.allocFilled`). An operation
that empties a slot gives it back only if the kernel agreed: a slot whose deletion or revocation was
refused may still hold a capability and stays taken (`CapSpace.release`, `CapSpace.reclaim`).
-/

namespace CapServer

/-- The slots of one process and the world around them. -/
structure CapSpace (ω : Type) where
  slots : SlotAllocator
  world : ω

namespace CapSpace

variable {ω : Type}

/-- The world of a capability space. -/
def worldPart : Part (CapSpace ω) ω where
  get c := c.world
  set w c := { c with world := w }

/-- Take an empty slot. -/
def alloc : Attempt (CapSpace ω) CapPtr := fun c =>
  match c.slots.alloc with
  | some (slot, slots) => (.ok slot, { c with slots := slots })
  | none => (.error .resourceExhausted, c)

/-- Give an empty slot back. -/
def free (slot : CapPtr) (c : CapSpace ω) : CapSpace ω :=
  { c with slots := c.slots.free slot }

/-- Take a slot and fill it; if the filling fails, the slot goes back. -/
def allocFilled (fill : CapPtr → Attempt ω Unit) : Attempt (CapSpace ω) CapPtr := do
  let slot ← alloc
  match ← ((fill slot).on worldPart).catching with
  | .ok () => return slot
  | .error e =>
    modify (free slot)
    throw e

/-- Delete the capability in a slot, then give the slot back. -/
def release (k : Kernel ω) (slot : CapPtr) : Attempt (CapSpace ω) Unit := do
  (k.delete slot).on worldPart
  modify (free slot)

/-- Revoke what was derived from the capability in a slot, delete it, then give the slot back. -/
def reclaim (k : Kernel ω) (slot : CapPtr) : Attempt (CapSpace ω) Unit := do
  (k.revoke slot).on worldPart
  release k slot

/-- Put a badged copy of the capability in `src` into a slot taken for it. -/
def mint (k : Kernel ω) (src : CapPtr) (badge : Badge) : Attempt (CapSpace ω) CapPtr :=
  allocFilled fun dest => k.mint dest src badge

/-- Move a received capability into a slot taken for it. -/
def accept (k : Kernel ω) (index : Nat) : Attempt (CapSpace ω) CapPtr :=
  allocFilled fun dest => k.accept dest index

/-- Release a slot; if the kernel refuses, the slot stays taken. -/
def discard (k : Kernel ω) (slot : CapPtr) (c : CapSpace ω) : CapSpace ω :=
  (release k slot).settle c

end CapSpace

end CapServer
