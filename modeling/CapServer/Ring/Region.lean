import CapServer.Attempt
import CapServer.WordBytes

/-!
# Ring regions

A region of shared memory that holds a ring of bytes for one producer and one consumer: two cursor
words, then the payload.

    start word | stop word | payload (the size less two words)

The consumer owns `start`, the producer owns `stop`. Each side keeps its own cursor and publishes it
after the bytes were copied. A ring whose cursors agree is empty, so it holds at most one byte less
than its capacity.

The other side may write anything into the cursor words. A transfer therefore looks at the two
cursors it uses, its own and the one the peer published, and touches nothing unless both lie in the
payload. Telling how many bytes still fit takes no such care: the difference of two words may fall
below zero there, and how the program was built decides what comes of that (`Underflow`).

* `Region.capacity`, `Region.readable`, `Region.space`: what the cursors say;
* `Outlet.write` appends bytes or fails and changes nothing;
* `Inlet.read` fills the front of a buffer, `Inlet.readExact` expects to fill all of it.
-/

namespace CapServer

/-! ## Payload bytes -/

namespace Payload

/-- `n` bytes from a place on. -/
def fetch (bytes : Nat → UInt8) (place n : Nat) : List UInt8 :=
  (List.range n).map fun i => bytes (place + i)

/-- The payload with a list of bytes put down at a place. -/
def store (bytes : Nat → UInt8) (place : Nat) (src : List UInt8) : Nat → UInt8 :=
  let placed := src.toArray
  fun i => if place ≤ i then placed.getD (i - place) (bytes i) else bytes i

@[simp] theorem length_fetch (bytes : Nat → UInt8) (place n : Nat) :
    (fetch bytes place n).length = n := by
  simp [fetch]

theorem store_apply (bytes : Nat → UInt8) (place : Nat) (src : List UInt8) (i : Nat) :
    store bytes place src i = if place ≤ i then src.getD (i - place) (bytes i) else bytes i := by
  simp [store]

end Payload

/-! ## Regions -/

/-- A shared region laid out as a ring. -/
structure Region where
  /-- The size in bytes, cursor words included. -/
  size : Nat
  /-- The consumer's published cursor. -/
  start : Nat
  /-- The producer's published cursor. -/
  stop : Nat
  payload : Nat → UInt8

namespace Region

/-- The bytes the two cursor words take. -/
def metadataSize : Nat := 2 * Word.width

/-- A zeroed region. -/
def zeroed (size : Nat) : Region := ⟨size, 0, 0, fun _ => 0⟩

instance : Inhabited Region := ⟨zeroed 0⟩

/-- The payload bytes of the ring. A region without any is malformed. -/
def capacity (r : Region) : Except Failure Nat :=
  if r.size ≤ metadataSize then .error .malformed else .ok (r.size - metadataSize)

/-- A region's size and published cursors as text. -/
def text (r : Region) : String :=
  "SharedRegion \x7b size: " ++ toString r.size ++ ", start: " ++ toString r.start ++ ", end: " ++
    toString r.stop ++ " \x7d"

/-- Set both published cursors to zero. -/
def reset (r : Region) : Region := { r with start := 0, stop := 0 }

/-- Two cursors of a ring, malformed unless both lie in the payload. -/
def checkCursors (capacity start stop : Nat) : Except Failure Unit :=
  if capacity ≤ start || capacity ≤ stop then .error .malformed else .ok ()

/-- The bytes from one cursor on up to the other. -/
def distance (capacity start stop : Nat) : Nat :=
  if start ≤ stop then stop - start else capacity - start + stop

/-- The bytes that still fit between the cursor of the producer and that of the consumer, reckoned
in words. -/
def space (capacity start stop : Nat) : Nat :=
  if stop < start then start - stop - 1 else wordSub (capacity - 1) (stop - start)

/-- More bytes lie between the cursors than a ring can hold, so the space falls below zero. -/
def Overdrawn (capacity start stop : Nat) : Prop := capacity - 1 < stop - start

instance (capacity start stop : Nat) : Decidable (Overdrawn capacity start stop) :=
  inferInstanceAs (Decidable (_ < _))

/-- The bytes that can be read now. -/
def readable (r : Region) : Except Failure Nat := do
  let capacity ← r.capacity
  checkCursors capacity r.start r.stop
  return distance capacity r.start r.stop

end Region

/-- What a program does when the difference of two words falls below zero. -/
inductive Underflow
  /-- It ends. -/
  | ends
  /-- It goes on with the word that results. -/
  | wraps
  deriving DecidableEq

/-! ## The producing side -/

/-- A producer at a region, with its own cursor. -/
structure Outlet where
  region : Region
  cursor : Nat

namespace Outlet

/-- Append bytes and publish the cursor. Bytes that do not all fit are refused. -/
def write (src : List UInt8) : Attempt Outlet Unit := do
  let o ← get
  let r := o.region
  let capacity ← Attempt.ofExcept r.capacity
  Attempt.ofExcept (Region.checkCursors capacity r.start o.cursor)
  if Region.space capacity r.start o.cursor < src.length then throw .resourceExhausted
  let first := min src.length (capacity - o.cursor)
  let payload := Payload.store r.payload o.cursor (src.take first)
  let cursor := (o.cursor + src.length) % capacity
  set { o with
    region := { r with payload := Payload.store payload 0 (src.drop first), stop := cursor }
    cursor := cursor }

/-- The bytes that still fit, by the producer's own cursor. No cursor is checked. -/
def remaining (o : Outlet) : Except Failure Nat := do
  return Region.space (← o.region.capacity) o.region.start o.cursor

/-- What the producer is told of the bytes that still fit; nothing if the program ends over it. -/
def told (u : Underflow) (o : Outlet) : Option (Except Failure Nat) :=
  match o.region.capacity with
  | .ok capacity =>
    if u = .ends ∧ Region.Overdrawn capacity o.region.start o.cursor then none
    else some o.remaining
  | .error _ => some o.remaining

end Outlet

/-! ## The consuming side -/

/-- A consumer at a region, with its own cursor and the buffer it reads into. -/
structure Inlet where
  region : Region
  cursor : Nat
  buffer : List UInt8

namespace Inlet

/-- Put bytes at the front of a buffer. -/
def fill (buffer bytes : List UInt8) : List UInt8 := bytes ++ buffer.drop bytes.length

/-- Move as many bytes as there are, at most a buffer full, publish the cursor, and tell how many
it were. -/
def read : Attempt Inlet Nat := do
  let i ← get
  let r := i.region
  let capacity ← Attempt.ofExcept r.capacity
  Attempt.ofExcept (Region.checkCursors capacity i.cursor r.stop)
  let length := i.buffer.length
  let first := min (if i.cursor ≤ r.stop then r.stop - i.cursor else capacity - i.cursor) length
  let second := if i.cursor ≤ r.stop then 0 else min (length - first) r.stop
  let bytes := Payload.fetch r.payload i.cursor first ++ Payload.fetch r.payload 0 second
  let cursor := (i.cursor + (first + second)) % capacity
  set { i with
    region := { r with start := cursor }
    cursor := cursor
    buffer := fill i.buffer bytes }
  return first + second

/-- Read one record as long as the buffer. The answer says whether there was one; a record cut
short is consumed and is malformed. -/
def readExact : Attempt Inlet Bool := do
  let n ← read
  if n = 0 then return false
  else if n = (← get).buffer.length then return true
  else throw .malformed

end Inlet

end CapServer
