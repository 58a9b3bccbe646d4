import CapServer.Ring.Region

/-!
# Shared memory

The regions that the processes of a system share, and the two sides of their rings. A region is
named by an id; whoever holds the same id sees the same bytes.

A `Writer` and a `Reader` are a region's id and a cursor of their own, so several of them can be
attached to one region; each starts at the cursor its side last published.
-/

namespace CapServer

/-- The name of a shared region. -/
abbrev RegionId := Nat

/-- All shared regions, by id. -/
structure Memory where
  regions : List Region
  deriving Inhabited

namespace Memory

def empty : Memory := ⟨[]⟩

/-- The region with an id; an unknown id names a region without any bytes. -/
def region (m : Memory) (id : RegionId) : Region := m.regions.getD id default

/-- Replace the region with an id. -/
def put (m : Memory) (id : RegionId) (r : Region) : Memory := ⟨m.regions.set id r⟩

/-- Add a region under a fresh id. -/
def add (m : Memory) (r : Region) : RegionId × Memory := (m.regions.length, ⟨m.regions ++ [r]⟩)

/-- Add a zeroed region of a size. -/
def addZeroed (m : Memory) (size : Nat) : RegionId × Memory := m.add (.zeroed size)

theorem region_put_self {m : Memory} {id : RegionId} (h : id < m.regions.length) (r : Region) :
    (m.put id r).region id = r := by
  simp [region, put, List.getD, h]

theorem region_put_of_ne {m : Memory} {id other : RegionId} (h : other ≠ id) (r : Region) :
    (m.put id r).region other = m.region other := by
  simp [region, put, List.getD, List.getElem?_set_ne h.symm]

end Memory

/-! ## Writers -/

/-- The producing side of a shared ring. -/
structure Writer where
  region : RegionId
  cursor : Nat
  deriving DecidableEq, Repr

namespace Writer

/-- A writer that goes on where the last one stopped. -/
def attach (m : Memory) (id : RegionId) : Writer := ⟨id, (m.region id).stop⟩

/-- Append bytes. -/
def write (src : List UInt8) : Attempt (Writer × Memory) Unit := fun (w, m) =>
  let (a, o) := Outlet.write src ⟨m.region w.region, w.cursor⟩
  (a, { w with cursor := o.cursor }, m.put w.region o.region)

/-- The bytes that still fit. -/
def remaining (w : Writer) (m : Memory) : Except Failure Nat :=
  (Outlet.mk (m.region w.region) w.cursor).remaining

/-- What the writer is told of them, however the program was built. -/
def told (u : Underflow) (w : Writer) (m : Memory) : Option (Except Failure Nat) :=
  (Outlet.mk (m.region w.region) w.cursor).told u

end Writer

/-! ## Readers -/

/-- The consuming side of a shared ring. -/
structure Reader where
  region : RegionId
  cursor : Nat
  deriving DecidableEq, Repr

namespace Reader

/-- A reader at work: its place in memory and the buffer it fills. -/
structure Run where
  reader : Reader
  memory : Memory
  buffer : List UInt8

/-- A reader that goes on where the last one stopped. -/
def attach (m : Memory) (id : RegionId) : Reader := ⟨id, (m.region id).start⟩

/-- Carry a transfer out of a ring to the memory that holds it. -/
def lift {α : Type} (x : Attempt Inlet α) : Attempt Run α := fun s =>
  let (a, i) := x ⟨s.memory.region s.reader.region, s.reader.cursor, s.buffer⟩
  (a, ⟨{ s.reader with cursor := i.cursor }, s.memory.put s.reader.region i.region, i.buffer⟩)

/-- Read what is there into the buffer. -/
def read : Attempt Run Nat := lift Inlet.read

/-- Read one record as long as the buffer; see `Inlet.readExact`. -/
def readExact : Attempt Run Bool := lift Inlet.readExact

/-- Read everything that is readable now. -/
def readAll : Attempt (Reader × Memory) (List UInt8) := fun (rd, m) =>
  match (m.region rd.region).readable with
  | .error e => (.error e, rd, m)
  | .ok n =>
    match read ⟨rd, m, List.replicate n 0⟩ with
    | (.ok k, s) => (.ok (s.buffer.take k), s.reader, s.memory)
    | (.error e, s) => (.error e, s.reader, s.memory)

end Reader

end CapServer
