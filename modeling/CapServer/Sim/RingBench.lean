import CapServer.Notice.Post

/-!
# A bench of ring users

One shared region with any number of writers, readers and posters of notices attached to it, each
with a cursor of its own.
-/

namespace CapServer

/-- A region and those attached to it. -/
structure RingBench where
  memory : Memory
  ring : RegionId
  writers : List Writer
  readers : List Reader
  posters : List Writer

namespace RingBench

variable {α : Type}

/-- A bench around a region, with one user of each kind. -/
def ofRegion (r : Region) : RingBench :=
  let (ring, m) := Memory.empty.add r
  ⟨m, ring, [.attach m ring], [.attach m ring], [.attach m ring]⟩

/-- The region itself. -/
def region (b : RingBench) : Region := b.memory.region b.ring

def setRegion (b : RingBench) (r : Region) : RingBench :=
  { b with memory := b.memory.put b.ring r }

/-! ## Attaching -/

/-- Attach one more writer, and tell its number. -/
def addWriter (w : Writer) (b : RingBench) : Nat × RingBench :=
  (b.writers.length, { b with writers := b.writers ++ [w] })

/-- Attach one more reader, and tell its number. -/
def addReader (r : Reader) (b : RingBench) : Nat × RingBench :=
  (b.readers.length, { b with readers := b.readers ++ [r] })

/-- Attach one more poster, and tell its number. -/
def addPoster (w : Writer) (b : RingBench) : Nat × RingBench :=
  (b.posters.length, { b with posters := b.posters ++ [w] })

/-! ## Transfers -/

/-- Let the writer with a number write. A number that nobody has writes nothing. -/
def write (i : Nat) (x : Attempt (Writer × Memory) α) : Attempt RingBench α := fun b =>
  match b.writers[i]? with
  | none => (.error .notFound, b)
  | some w =>
    let (a, w, m) := x (w, b.memory)
    (a, { b with writers := b.writers.set i w, memory := m })

/-- Let the poster with a number post. -/
def post (i : Nat) (x : Attempt (Writer × Memory) α) : Attempt RingBench α := fun b =>
  match b.posters[i]? with
  | none => (.error .notFound, b)
  | some w =>
    let (a, w, m) := x (w, b.memory)
    (a, { b with posters := b.posters.set i w, memory := m })

/-- Let the reader with a number read into a buffer, and show the buffer whatever came of it. -/
def read (i : Nat) (buffer : List UInt8) (x : Attempt Reader.Run α) (b : RingBench) :
    (Except Failure α × List UInt8) × RingBench :=
  match b.readers[i]? with
  | none => ((.error .notFound, buffer), b)
  | some r =>
    let (a, s) := x ⟨r, b.memory, buffer⟩
    ((a, s.buffer), { b with readers := b.readers.set i s.reader, memory := s.memory })

/-- Let the reader with a number read everything there is. -/
def readAll (i : Nat) : Attempt RingBench (List UInt8) := fun b =>
  match b.readers[i]? with
  | none => (.error .notFound, b)
  | some r =>
    let (a, r, m) := Reader.readAll (r, b.memory)
    (a, { b with readers := b.readers.set i r, memory := m })

/-- Write at a cursor, and tell where it stands then. -/
def writeAt (cursor : Nat) (src : List UInt8) (b : RingBench) :
    (Except Failure Unit × Nat) × RingBench :=
  let (a, o) := Outlet.write src ⟨b.region, cursor⟩
  ((a, o.cursor), b.setRegion o.region)

/-- Read at a cursor into a buffer. -/
def readAt (cursor : Nat) (buffer : List UInt8) (x : Attempt Inlet α) (b : RingBench) :
    (Except Failure α × Inlet) × RingBench :=
  let (a, i) := x ⟨b.region, cursor, buffer⟩
  ((a, i), b.setRegion i.region)

end RingBench

end CapServer
