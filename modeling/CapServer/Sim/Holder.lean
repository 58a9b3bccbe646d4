import CapServer.CapSpace

/-!
# Holding slots

A slot belongs to whoever took it, until it is given up. A `Holder` is the owner of the slots taken
from one capability space: what uses a slot up can be done only with a slot that is held, and gives
the slot up whether or not it succeeds.
-/

namespace CapServer

/-- A capability space, and the slots its user holds. -/
structure Holder (ω : Type) where
  caps : CapSpace ω
  held : List CapPtr

namespace Holder

variable {ω α : Type}

def capsPart : Part (Holder ω) (CapSpace ω) where
  get h := h.caps
  set c h := { h with caps := c }

/-- Take a slot and hold it. A slot is held only once, however often it was taken. -/
def take (x : Attempt (CapSpace ω) CapPtr) : Attempt (Holder ω) CapPtr := do
  let slot ← x.on capsPart
  modify fun h => { h with held := slot :: h.held.erase slot }
  return slot

/-- Give a slot up. -/
def giveUp (slot : CapPtr) (h : Holder ω) : Holder ω := { h with held := h.held.erase slot }

end Holder

end CapServer
