import CapServer.Failure
import CapServer.Handle
import CapServer.Pool

/-!
# Slot allocation

A process names its capabilities by slots of its capability space. A slot allocator hands out
empty slots of a range; whoever received a slot owns it until the slot is given back.

Before a heap exists the freed slots are kept in a fixed buffer (`SlotAllocator.ofFixed`), which
must be able to hold the whole range.
-/

namespace CapServer

/-- An allocator of the empty slots in a range. -/
structure SlotAllocator where
  pool : Pool

namespace SlotAllocator

/-- An allocator of the slots in `[start, stop)`. -/
def ofRange (start stop : CapPtr) : Except Failure SlotAllocator :=
  if stop < start then .error .invalidArgument else .ok ⟨.ofRange start stop⟩

/-- An allocator whose freed slots are kept in a buffer of `room` entries. -/
def ofFixed (room : Nat) (start stop : CapPtr) : Except Failure SlotAllocator :=
  if stop < start || room < stop - start then .error .invalidArgument
  else .ok ⟨.ofStore start stop (.ofRoom (some room))⟩

/-- Take an empty slot. -/
def alloc (a : SlotAllocator) : Option (CapPtr × SlotAllocator) :=
  a.pool.alloc.map fun (slot, pool) => (slot, ⟨pool⟩)

/-- Give an empty slot back. A slot that is not handed out is ignored. -/
def free (a : SlotAllocator) (slot : CapPtr) : SlotAllocator := ⟨a.pool.free slot⟩

def isFree (a : SlotAllocator) (slot : CapPtr) : Bool := a.pool.isFree slot

/-- How many slots are handed out. -/
def inUse (a : SlotAllocator) : Nat := a.pool.inUse

/-- How many slots are left. -/
def available (a : SlotAllocator) : Nat := a.pool.available

end SlotAllocator

end CapServer
