import CapServer.Proofs.Ring.Contents

/-!
# A ring is a bounded queue

One writer and one reader share a ring, each with a cursor of its own. `RingUsers.step` is what
a call of either does, by the definitions of `Writer` and `Reader`; `Fifo.step` is what the same
call does to a queue that takes one byte less than the capacity of the ring.

Whatever the calls, the two answer alike (`answers_eq_fifo`). A user may give up its handle and
attach anew at any time: what ties the ring to the queue (`RingUsers.Holds`) says of each handle
that it is as one attached just now.
-/

namespace CapServer

/-! ## Regions within memory -/

namespace Memory

theorem put_region (m : Memory) (id : RegionId) : m.put id (m.region id) = m := by
  rw [put, region, List.getD_eq_getElem?_getD]
  rcases Nat.lt_or_ge id m.regions.length with h | h
  · rw [List.getElem?_eq_getElem h, Option.getD_some, List.set_getElem_self]
  · rw [List.set_eq_of_length_le h]

/-- A region with any bytes is one of the memory's own. -/
theorem lt_of_size_pos {m : Memory} {id : RegionId} (h : 0 < (m.region id).size) :
    id < m.regions.length := by
  rcases Nat.lt_or_ge id m.regions.length with hlt | hge
  · exact hlt
  · rw [region, List.getD_eq_getElem?_getD, List.getElem?_eq_none hge] at h
    exact absurd h (Nat.lt_irrefl 0)

theorem lt_of_queues {m : Memory} {id : RegionId} {capacity : Nat} {queue : List UInt8}
    (h : (m.region id).Queues capacity queue) : id < m.regions.length :=
  lt_of_size_pos (by rw [h.size_eq]; exact Nat.lt_add_right _ (by decide))

end Memory

section Handles

variable {m : Memory} {ring : RegionId} {capacity : Nat} {queue : List UInt8}

/-- Bytes that fit are queued. The writer is where it says that it is, the reader where it was. -/
theorem Writer.write_attach {src : List UInt8} (h : (m.region ring).Queues capacity queue)
    (hfits : src.length ≤ capacity - 1 - queue.length) :
    ∃ r, write src (.attach m ring, m) =
        (.ok (), .attach (m.put ring r) ring, m.put ring r) ∧
      ((m.put ring r).region ring).Queues capacity (queue ++ src) ∧
      Reader.attach (m.put ring r) ring = .attach m ring := by
  obtain ⟨r, hwrite, hr, hstart⟩ := h.write hfits
  have hregion := Memory.region_put_self (Memory.lt_of_queues h) r
  refine ⟨r, ?_, by rwa [hregion], by rw [Reader.attach, hregion, hstart]; rfl⟩
  simp only [write, attach, hwrite, hregion]

/-- Bytes that do not fit are refused; memory and writer stay as they are. -/
theorem Writer.write_attach_refused {src : List UInt8}
    (h : (m.region ring).Queues capacity queue)
    (hfull : capacity - 1 - queue.length < src.length) :
    write src (.attach m ring, m) = (.error .resourceExhausted, .attach m ring, m) := by
  simp only [write, attach, h.write_refused hfull, Memory.put_region]

/-- The oldest bytes go to the front of the buffer and out of the queue. -/
theorem Reader.read_attach (h : (m.region ring).Queues capacity queue) (buffer : List UInt8)
    {n : Nat} (hn : n = min buffer.length queue.length) :
    ∃ r, read ⟨.attach m ring, m, buffer⟩ = (.ok n, ⟨.attach (m.put ring r) ring, m.put ring r,
        queue.take n ++ buffer.drop n⟩) ∧
      ((m.put ring r).region ring).Queues capacity (queue.drop n) ∧
      Writer.attach (m.put ring r) ring = .attach m ring := by
  obtain ⟨r, hread, hr, hstop⟩ := h.read buffer hn
  have hregion := Memory.region_put_self (Memory.lt_of_queues h) r
  refine ⟨r, ?_, by rwa [hregion], by rw [Writer.attach, hregion, hstop]; rfl⟩
  simp only [read, lift, attach, hread, hregion]

/-- Reading a record is reading into a buffer of its length, and looking at how much came. -/
theorem Reader.readExact_apply (s : Run) :
    readExact s = match read s with
      | (.ok n, s) => (if n = 0 then .ok false
          else if n = s.buffer.length then .ok true else .error .malformed, s)
      | (.error e, s) => (.error e, s) := by
  simp only [readExact, read, lift, Inlet.readExact, Attempt.bind_apply]
  rcases Inlet.read ⟨s.memory.region s.reader.region, s.reader.cursor, s.buffer⟩ with ⟨e | n, i⟩
  · rfl
  · dsimp only
    split
    · rfl
    · simp only [Attempt.bind_apply, Attempt.get_apply]
      split <;> rfl

/-- Reading everything empties the queue. -/
theorem Reader.readAll_attach (h : (m.region ring).Queues capacity queue) :
    ∃ r, readAll (.attach m ring, m) =
        (.ok queue, .attach (m.put ring r) ring, m.put ring r) ∧
      ((m.put ring r).region ring).Queues capacity [] ∧
      Writer.attach (m.put ring r) ring = .attach m ring := by
  obtain ⟨r, hread, hr, hwriter⟩ := read_attach h (List.replicate queue.length 0)
    (n := queue.length) (by rw [List.length_replicate, Nat.min_self])
  rw [List.drop_length] at hr
  refine ⟨r, ?_, hr, hwriter⟩
  have hreadable : (m.region (attach m ring).region).readable = .ok queue.length := h.readable_eq
  simp only [readAll, hreadable, hread]
  rw [List.take_length, List.take_left' rfl]

end Handles

/-! ## Calls -/

/-- What the users of a ring can do. -/
inductive RingCall
  | write (src : List UInt8)
  | read (dest : List UInt8)
  | readExact (dest : List UInt8)
  | readAll
  | remaining
  | readable
  /-- Drop the writer and attach a new one. -/
  | renewWriter
  /-- Drop the reader and attach a new one. -/
  | renewReader
  deriving DecidableEq, Repr

/-- What a call answers. A transfer into a buffer also shows the buffer. -/
inductive RingAnswer
  | written (outcome : Except Failure Unit)
  | moved (outcome : Except Failure Nat) (dest : List UInt8)
  | found (outcome : Except Failure Bool) (dest : List UInt8)
  | bytes (outcome : Except Failure (List UInt8))
  | count (outcome : Except Failure Nat)
  | attached

/-- A region with one writer and one reader. -/
structure RingUsers where
  memory : Memory
  ring : RegionId
  writer : Writer
  reader : Reader

namespace RingUsers

/-- A region with a writer and a reader attached to it just now. -/
def attach (memory : Memory) (ring : RegionId) : RingUsers :=
  ⟨memory, ring, .attach memory ring, .attach memory ring⟩

/-- The region they share. -/
def region (u : RingUsers) : Region := u.memory.region u.ring

/-- Carry out a call. -/
def step (u : RingUsers) : RingCall → RingAnswer × RingUsers
  | .write src =>
    let (a, w, m) := Writer.write src (u.writer, u.memory)
    (.written a, { u with writer := w, memory := m })
  | .read dest =>
    let (a, s) := Reader.read ⟨u.reader, u.memory, dest⟩
    (.moved a s.buffer, { u with reader := s.reader, memory := s.memory })
  | .readExact dest =>
    let (a, s) := Reader.readExact ⟨u.reader, u.memory, dest⟩
    (.found a s.buffer, { u with reader := s.reader, memory := s.memory })
  | .readAll =>
    let (a, r, m) := Reader.readAll (u.reader, u.memory)
    (.bytes a, { u with reader := r, memory := m })
  | .remaining => (.count (u.writer.remaining u.memory), u)
  | .readable => (.count u.region.readable, u)
  | .renewWriter => (.attached, { u with writer := .attach u.memory u.ring })
  | .renewReader => (.attached, { u with reader := .attach u.memory u.ring })

/-- Carry out one call after the other. -/
def run (u : RingUsers) : List RingCall → List RingAnswer × RingUsers
  | [] => ([], u)
  | call :: calls => ((u.step call).1 :: ((u.step call).2.run calls).1,
      ((u.step call).2.run calls).2)

end RingUsers

namespace Fifo

/-- What a call does to a queue with room for one byte less than `capacity`. -/
def step (capacity : Nat) (queue : List UInt8) : RingCall → RingAnswer × List UInt8
  | .write src =>
    if src.length ≤ capacity - 1 - queue.length then (.written (.ok ()), queue ++ src)
    else (.written (.error .resourceExhausted), queue)
  | .read dest =>
    let n := min dest.length queue.length
    (.moved (.ok n) (queue.take n ++ dest.drop n), queue.drop n)
  | .readExact dest =>
    let n := min dest.length queue.length
    (.found (if n = 0 then .ok false else if n = dest.length then .ok true else .error .malformed)
      (queue.take n ++ dest.drop n), queue.drop n)
  | .readAll => (.bytes (.ok queue), [])
  | .remaining => (.count (.ok (capacity - 1 - queue.length)), queue)
  | .readable => (.count (.ok queue.length), queue)
  | .renewWriter => (.attached, queue)
  | .renewReader => (.attached, queue)

/-- One call after the other. -/
def run (capacity : Nat) (queue : List UInt8) : List RingCall → List RingAnswer × List UInt8
  | [] => ([], queue)
  | call :: calls =>
    ((step capacity queue call).1 :: (run capacity (step capacity queue call).2 calls).1,
      (run capacity (step capacity queue call).2 calls).2)

end Fifo

/-! ## Refinement -/

namespace RingUsers

/-- The ring holds `queue`, and each handle is as one attached just now: its cursor is the one that
its side published. -/
structure Holds (u : RingUsers) (capacity : Nat) (queue : List UInt8) : Prop where
  queues : u.region.Queues capacity queue
  writer_eq : u.writer = .attach u.memory u.ring
  reader_eq : u.reader = .attach u.memory u.ring

variable {u : RingUsers} {capacity : Nat} {queue : List UInt8}

theorem Holds.cursors (h : u.Holds capacity queue) :
    (u.writer.cursor = u.region.stop ∧ u.writer.cursor < capacity) ∧
      u.reader.cursor = u.region.start ∧ u.reader.cursor < capacity := by
  rw [h.writer_eq, h.reader_eq]
  exact ⟨⟨rfl, h.queues.stop_lt⟩, rfl, h.queues.start_lt⟩

/-- The ring answers a call as the queue does, and holds afterwards what the queue holds. -/
theorem Holds.step (h : u.Holds capacity queue) (call : RingCall) :
    (u.step call).1 = (Fifo.step capacity queue call).1 ∧
      (u.step call).2.Holds capacity (Fifo.step capacity queue call).2 := by
  obtain ⟨m, ring, writer, reader⟩ := u
  obtain ⟨hq, hw, hr⟩ := h
  dsimp only at hw hr
  subst hw hr
  change (m.region ring).Queues capacity queue at hq
  cases call with
  | write src =>
    by_cases hfits : src.length ≤ capacity - 1 - queue.length
    · obtain ⟨r, hwrite, hr, hreader⟩ := Writer.write_attach hq hfits
      simp only [RingUsers.step, Fifo.step, hwrite, if_pos hfits]
      exact ⟨trivial, hr, rfl, hreader.symm⟩
    · have hwrite := Writer.write_attach_refused hq (Nat.lt_of_not_le hfits)
      simp only [RingUsers.step, Fifo.step, hwrite, if_neg hfits]
      exact ⟨trivial, hq, rfl, rfl⟩
  | read dest =>
    obtain ⟨r, hread, hr, hwriter⟩ := Reader.read_attach hq dest rfl
    simp only [RingUsers.step, Fifo.step, hread]
    exact ⟨trivial, hr, hwriter.symm, rfl⟩
  | readExact dest =>
    obtain ⟨r, hread, hr, hwriter⟩ := Reader.read_attach hq dest rfl
    have hdest : (queue.take (min dest.length queue.length) ++
        dest.drop (min dest.length queue.length)).length = dest.length := by
      rw [List.length_append, List.length_take, List.length_drop]
      omega
    simp only [RingUsers.step, Fifo.step, Reader.readExact_apply, hread, hdest]
    exact ⟨trivial, hr, hwriter.symm, rfl⟩
  | readAll =>
    obtain ⟨r, hread, hr, hwriter⟩ := Reader.readAll_attach hq
    simp only [RingUsers.step, Fifo.step, hread]
    exact ⟨trivial, hr, hwriter.symm, rfl⟩
  | remaining => exact ⟨congrArg RingAnswer.count hq.remaining_eq, hq, rfl, rfl⟩
  | readable => exact ⟨congrArg RingAnswer.count hq.readable_eq, hq, rfl, rfl⟩
  | renewWriter => exact ⟨rfl, hq, rfl, rfl⟩
  | renewReader => exact ⟨rfl, hq, rfl, rfl⟩

theorem Holds.run (h : u.Holds capacity queue) (calls : List RingCall) :
    (u.run calls).1 = (Fifo.run capacity queue calls).1 ∧
      (u.run calls).2.Holds capacity (Fifo.run capacity queue calls).2 := by
  induction calls generalizing u queue with
  | nil => exact ⟨rfl, h⟩
  | cons call calls ih =>
    obtain ⟨hanswer, hstep⟩ := h.step call
    obtain ⟨hanswers, hrun⟩ := ih hstep
    exact ⟨by rw [RingUsers.run, Fifo.run, hanswer, hanswers], hrun⟩

/-- **A ring is a bounded queue.** From zeroed cursors on, whatever its payload says, a ring answers
every sequence of calls as a queue does that takes one byte less than its capacity. It holds what
the queue holds, and the cursor of each handle is the published one and lies in the payload. -/
theorem answers_eq_fifo (m : Memory) (ring : RegionId) (capacity : Nat)
    (hsize : (m.region ring).size = Region.metadataSize + capacity) (hpos : 0 < capacity)
    (hstart : (m.region ring).start = 0) (hstop : (m.region ring).stop = 0)
    (calls : List RingCall) :
    let u := (attach m ring).run calls
    let fifo := Fifo.run capacity [] calls
    u.1 = fifo.1 ∧ u.2.region.Queues capacity fifo.2 ∧
      (u.2.writer.cursor = u.2.region.stop ∧ u.2.writer.cursor < capacity) ∧
      u.2.reader.cursor = u.2.region.start ∧ u.2.reader.cursor < capacity := by
  have hattach : (attach m ring).Holds capacity [] :=
    ⟨Region.queues_nil hsize hpos hstart hstop, rfl, rfl⟩
  obtain ⟨hanswers, hrun⟩ := hattach.run calls
  exact ⟨hanswers, hrun.queues, hrun.cursors⟩

/-- The same around the end of a payload of four bytes, with a writer attached anew in between. -/
theorem answers_eq_fifo_around_the_end :
    let calls := [.write [1, 2, 3], .write [4], .read [0, 0], .renewWriter, .write [5, 6], .readAll]
    let u := (attach ⟨[.zeroed 20]⟩ 0).run calls
    u.1 = (Fifo.run 4 [] calls).1 ∧ u.2.region.Queues 4 [] :=
  have h := answers_eq_fifo ⟨[.zeroed 20]⟩ 0 4 rfl (by decide) rfl rfl
    [.write [1, 2, 3], .write [4], .read [0, 0], .renewWriter, .write [5, 6], .readAll]
  ⟨h.1, h.2.1⟩

end RingUsers

end CapServer
