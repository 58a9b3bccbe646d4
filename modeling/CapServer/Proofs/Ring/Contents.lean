import CapServer.Ring.Memory

/-!
# What a ring holds

The unread bytes of a ring are those from the consumer's cursor on, going on at the front of the
payload behind its last byte (`Payload.cycle`). `Region.Queues` says that a region is a ring of some
capacity whose unread bytes are a given list.

A transfer copies two segments, one up to the end of the payload and one from its front. Seen from
the place where it starts, and with places counted around the ring, the two are one segment:
`Payload.cycle_eq_fetch_append` for reading, `Payload.store_store_apply` for writing. From these,
`Region.Queues.write` and `Region.Queues.read` say what the two transfers do to the unread bytes.
-/

namespace CapServer

namespace Payload

variable {bytes other : Nat → UInt8} {capacity place : Nat}

/-- `n` bytes from a place on, going on at the front behind the last place of the payload. -/
def cycle (bytes : Nat → UInt8) (capacity place n : Nat) : List UInt8 :=
  (List.range n).map fun i => bytes ((place + i) % capacity)

@[simp] theorem length_cycle (bytes : Nat → UInt8) (capacity place n : Nat) :
    (cycle bytes capacity place n).length = n := by
  simp [cycle]

theorem cycle_add (bytes : Nat → UInt8) (capacity place m n : Nat) :
    cycle bytes capacity place (m + n) =
      cycle bytes capacity place m ++ cycle bytes capacity ((place + m) % capacity) n := by
  simp only [cycle, List.range_add, List.map_append, List.map_map, Function.comp_def,
    Nat.mod_add_mod, Nat.add_assoc]

theorem take_cycle (bytes : Nat → UInt8) (capacity place m n : Nat) :
    (cycle bytes capacity place n).take m = cycle bytes capacity place (min m n) := by
  rw [cycle, ← List.map_take, List.take_range, cycle]

theorem drop_cycle (bytes : Nat → UInt8) (capacity place m n : Nat) :
    (cycle bytes capacity place n).drop m =
      cycle bytes capacity ((place + m) % capacity) (n - m) := by
  rcases Nat.le_total m n with h | h
  · rw [← Nat.add_sub_cancel' h, cycle_add, List.drop_left' (length_cycle _ _ _ _),
      Nat.add_sub_cancel_left]
  · rw [List.drop_eq_nil_of_le (by rw [length_cycle]; exact h), Nat.sub_eq_zero_of_le h]
    rfl

theorem cycle_congr {n : Nat}
    (h : ∀ i < n, bytes ((place + i) % capacity) = other ((place + i) % capacity)) :
    cycle bytes capacity place n = cycle other capacity place n :=
  List.map_congr_left fun i hi => h i (List.mem_range.1 hi)

theorem cycle_eq_fetch {n : Nat} (h : place + n ≤ capacity) :
    cycle bytes capacity place n = fetch bytes place n := by
  refine List.map_congr_left fun i hi => ?_
  rw [List.mem_range] at hi
  rw [Nat.mod_eq_of_lt (by omega)]

/-- Two segments, one up to the end of the payload and one from its front, are one going around. -/
theorem cycle_eq_fetch_append {first second : Nat} (hfirst : place + first = capacity)
    (hsecond : second ≤ capacity) :
    cycle bytes capacity place (first + second) =
      fetch bytes place first ++ fetch bytes 0 second := by
  rw [cycle_add, hfirst, Nat.mod_self, cycle_eq_fetch (Nat.le_of_eq hfirst),
    cycle_eq_fetch (by omega)]

/-- Storing in two segments puts the bytes down from the place on, going around, and leaves the
other places of the payload as they were. -/
theorem store_store_apply {src : List UInt8} {i : Nat} (hplace : place < capacity)
    (hsrc : src.length < capacity) (hi : i < capacity) :
    store (store bytes place (src.take (min src.length (capacity - place)))) 0
        (src.drop (min src.length (capacity - place))) ((place + i) % capacity) =
      src.getD i (bytes ((place + i) % capacity)) := by
  rw [store_apply, store_apply, if_pos (Nat.zero_le _)]
  simp only [List.getD_eq_getElem?_getD]
  by_cases hwrap : place + i < capacity
  · -- the first segment; the second one ends before the place where the first one starts
    rw [Nat.mod_eq_of_lt hwrap, if_pos (by omega), List.getElem?_drop,
      List.getElem?_eq_none (by omega), Nat.add_sub_cancel_left, List.getElem?_take]
    split
    · rfl
    · rw [List.getElem?_eq_none (by omega)]
      rfl
  · have hmod : (place + i) % capacity = place + i - capacity := by
      rw [Nat.mod_eq_sub_mod (by omega), Nat.mod_eq_of_lt (by omega)]
    rw [hmod, if_neg (by omega), List.getElem?_drop]
    rcases Nat.lt_or_ge (capacity - place) src.length with hlong | hshort
    · rw [Nat.min_eq_right (by omega),
        show capacity - place + (place + i - capacity - 0) = i by omega]
    · rw [Nat.min_eq_left (by omega), List.getElem?_eq_none (by omega),
        List.getElem?_eq_none (by omega)]

end Payload

namespace Region

/-- A ring of a capacity whose unread bytes are `queue`, the oldest first. -/
structure Queues (r : Region) (capacity : Nat) (queue : List UInt8) : Prop where
  size_eq : r.size = metadataSize + capacity
  start_lt : r.start < capacity
  stop_eq : r.stop = (r.start + queue.length) % capacity
  length_lt : queue.length < capacity
  cycle_eq : Payload.cycle r.payload capacity r.start queue.length = queue

variable {r : Region} {capacity : Nat} {queue : List UInt8}

/-- A ring whose cursors agree holds nothing, whatever its payload says. -/
theorem queues_empty (hsize : r.size = metadataSize + capacity) (hstart : r.start < capacity)
    (hstop : r.stop = r.start) : r.Queues capacity [] where
  size_eq := hsize
  start_lt := hstart
  stop_eq := by rw [hstop]; exact (Nat.mod_eq_of_lt hstart).symm
  length_lt := Nat.zero_lt_of_lt hstart
  cycle_eq := rfl

/-- So does one whose cursors are zero. -/
theorem queues_nil (hsize : r.size = metadataSize + capacity) (hpos : 0 < capacity)
    (hstart : r.start = 0) (hstop : r.stop = 0) : r.Queues capacity [] :=
  queues_empty hsize (hstart ▸ hpos) (hstop.trans hstart.symm)

namespace Queues

/-! ## What the cursors say -/

theorem stop_lt (h : r.Queues capacity queue) : r.stop < capacity := by
  rw [h.stop_eq]
  exact Nat.mod_lt _ (by have := h.start_lt; omega)

/-- The producer's cursor, without a remainder. -/
theorem stop_cases (h : r.Queues capacity queue) :
    r.start + queue.length < capacity ∧ r.stop = r.start + queue.length ∨
      capacity ≤ r.start + queue.length ∧ r.stop = r.start + queue.length - capacity := by
  have hstart := h.start_lt
  have hlength := h.length_lt
  have hstop := h.stop_eq
  rcases Nat.lt_or_ge (r.start + queue.length) capacity with hlt | hge
  · rw [Nat.mod_eq_of_lt hlt] at hstop
    exact .inl ⟨hlt, hstop⟩
  · rw [Nat.mod_eq_sub_mod hge, Nat.mod_eq_of_lt (by omega)] at hstop
    exact .inr ⟨hge, hstop⟩

theorem capacity_eq (h : r.Queues capacity queue) : r.capacity = .ok capacity := by
  have hsize := h.size_eq
  have hstart := h.start_lt
  rw [Region.capacity, if_neg (by omega), hsize, Nat.add_sub_cancel_left]

theorem checkCursors_eq (h : r.Queues capacity queue) :
    checkCursors capacity r.start r.stop = .ok () := by
  have hstart := h.start_lt
  have hstop := h.stop_lt
  rw [checkCursors, if_neg (by simp only [Bool.or_eq_true, decide_eq_true_eq]; omega)]

theorem distance_eq (h : r.Queues capacity queue) :
    distance capacity r.start r.stop = queue.length := by
  have hstart := h.start_lt
  have hlength := h.length_lt
  unfold distance
  rcases h.stop_cases with ⟨hlt, hstop⟩ | ⟨hge, hstop⟩ <;> split <;> omega

theorem space_eq (h : r.Queues capacity queue) :
    space capacity r.start r.stop = capacity - 1 - queue.length := by
  have hstart := h.start_lt
  have hlength := h.length_lt
  unfold space
  rcases h.stop_cases with ⟨hlt, hstop⟩ | ⟨hge, hstop⟩
  · -- The unread bytes lie between the cursors, and are fewer than the capacity.
    rw [if_neg (by omega), wordSub_of_le (by omega)]
    omega
  · rw [if_pos (by omega)]
    omega

/-- What can be read is what is queued. -/
theorem readable_eq (h : r.Queues capacity queue) : r.readable = .ok queue.length := by
  rw [readable, h.capacity_eq]
  show (checkCursors capacity r.start r.stop >>= fun _ =>
    pure (distance capacity r.start r.stop)) = _
  rw [h.checkCursors_eq, h.distance_eq]
  rfl

/-- One place of the ring stays empty; all others that hold nothing are left. -/
theorem remaining_eq (h : r.Queues capacity queue) :
    (Outlet.mk r r.stop).remaining = .ok (capacity - 1 - queue.length) := by
  show (r.capacity >>= fun n => pure (space n r.start r.stop)) = _
  rw [h.capacity_eq, ← h.space_eq]
  rfl

end Queues

end Region

/-! ## Appending -/

/-- Between cursors that lie in the payload, bytes that fit are stored from the producer's cursor
on, and others are refused. -/
theorem Outlet.write_eq {o : Outlet} {capacity : Nat} (src : List UInt8)
    (hcapacity : o.region.capacity = .ok capacity)
    (hcheck : Region.checkCursors capacity o.region.start o.cursor = .ok ()) :
    Outlet.write src o =
      if Region.space capacity o.region.start o.cursor < src.length then
        (.error .resourceExhausted, o)
      else
        let first := min src.length (capacity - o.cursor)
        let payload := Payload.store o.region.payload o.cursor (src.take first)
        let cursor := (o.cursor + src.length) % capacity
        (.ok (), ⟨{ o.region with
          payload := Payload.store payload 0 (src.drop first), stop := cursor }, cursor⟩) := by
  simp only [Outlet.write, Attempt.bind_apply, Attempt.get_apply, hcapacity, hcheck,
    Attempt.ofExcept_apply]
  split <;> rfl

namespace Region.Queues

variable {r : Region} {capacity : Nat} {queue : List UInt8}

/-- Bytes stored from the producer's cursor on are unread bytes behind the others, once the cursor
is moved over them. -/
theorem append {src : List UInt8} (h : r.Queues capacity queue)
    (hfits : queue.length + src.length < capacity) :
    Queues { r with
      payload := Payload.store
        (Payload.store r.payload r.stop (src.take (min src.length (capacity - r.stop)))) 0
        (src.drop (min src.length (capacity - r.stop)))
      stop := (r.stop + src.length) % capacity } capacity (queue ++ src) where
  size_eq := h.size_eq
  start_lt := h.start_lt
  stop_eq := by rw [List.length_append, h.stop_eq, Nat.mod_add_mod, Nat.add_assoc]
  length_lt := by rw [List.length_append]; exact hfits
  cycle_eq := by
    have hstart := h.start_lt
    have hstop := h.stop_lt
    rw [List.length_append, Payload.cycle_add, ← h.stop_eq]
    congr 1
    · -- the place of an unread byte, seen from the producer's cursor, lies behind the new bytes
      refine (Payload.cycle_congr fun i hi => ?_).trans h.cycle_eq
      have hplace : (r.start + i) % capacity =
          (r.stop + (capacity - queue.length + i)) % capacity := by
        have hround : r.start + queue.length + (capacity - queue.length + i) =
            r.start + i + capacity := by omega
        rw [h.stop_eq, Nat.mod_add_mod, hround, Nat.add_mod_right]
      dsimp only
      rw [hplace, Payload.store_store_apply hstop (by omega) (by omega),
        List.getD_eq_getElem?_getD, List.getElem?_eq_none (by omega)]
      rfl
    · refine List.ext_getElem (Payload.length_cycle _ _ _ _) fun i hi _ => ?_
      rw [Payload.length_cycle] at hi
      simp only [Payload.cycle, List.getElem_map, List.getElem_range]
      rw [Payload.store_store_apply hstop (by omega) (by omega), List.getD_eq_getElem?_getD,
        List.getElem?_eq_getElem hi]
      rfl

/-- The bytes that fit are queued behind the others. The consumer's cursor stays. -/
theorem write {src : List UInt8} (h : r.Queues capacity queue)
    (hfits : src.length ≤ capacity - 1 - queue.length) :
    ∃ r', Outlet.write src ⟨r, r.stop⟩ = (.ok (), ⟨r', r'.stop⟩) ∧
      r'.Queues capacity (queue ++ src) ∧ r'.start = r.start := by
  have hlength := h.length_lt
  exact ⟨_, (Outlet.write_eq src h.capacity_eq h.checkCursors_eq).trans
    (if_neg (by rw [h.space_eq]; omega)), h.append (by omega), rfl⟩

/-- Bytes that do not all fit are refused, and nothing changes. -/
theorem write_refused {src : List UInt8} (h : r.Queues capacity queue)
    (hfull : capacity - 1 - queue.length < src.length) :
    Outlet.write src ⟨r, r.stop⟩ = (.error .resourceExhausted, ⟨r, r.stop⟩) :=
  (Outlet.write_eq src h.capacity_eq h.checkCursors_eq).trans (if_pos (by rwa [h.space_eq]))

end Region.Queues

/-! ## Taking out -/

/-- Between cursors that lie in the payload, as many bytes as there are and the buffer takes are
moved to its front. -/
theorem Inlet.read_eq {i : Inlet} {capacity : Nat} (hcapacity : i.region.capacity = .ok capacity)
    (hcheck : Region.checkCursors capacity i.cursor i.region.stop = .ok ()) :
    Inlet.read i =
      let r := i.region
      let length := i.buffer.length
      let first := min (if i.cursor ≤ r.stop then r.stop - i.cursor else capacity - i.cursor) length
      let second := if i.cursor ≤ r.stop then 0 else min (length - first) r.stop
      let bytes := Payload.fetch r.payload i.cursor first ++ Payload.fetch r.payload 0 second
      let cursor := (i.cursor + (first + second)) % capacity
      (.ok (first + second), ⟨{ r with start := cursor }, cursor, Inlet.fill i.buffer bytes⟩) := by
  simp only [Inlet.read, Attempt.bind_apply, Attempt.get_apply, hcapacity, hcheck,
    Attempt.ofExcept_apply]
  rfl

namespace Region.Queues

variable {r : Region} {capacity : Nat} {queue : List UInt8}

/-- The two segments of a transfer out of the ring are its oldest bytes. -/
theorem fetch_append_fetch (h : r.Queues capacity queue) (length : Nat) {first second : Nat}
    (hfirst : first =
      min (if r.start ≤ r.stop then r.stop - r.start else capacity - r.start) length)
    (hsecond : second = if r.start ≤ r.stop then 0 else min (length - first) r.stop) :
    first + second = min length queue.length ∧
      Payload.fetch r.payload r.start first ++ Payload.fetch r.payload 0 second =
        queue.take (min length queue.length) := by
  have hstart := h.start_lt
  have hlength := h.length_lt
  have htake : queue.take (min length queue.length) =
      Payload.cycle r.payload capacity r.start (min length queue.length) := by
    rw [← List.take_eq_take_min, ← Payload.take_cycle, h.cycle_eq]
  rcases h.stop_cases with ⟨hlt, hstop⟩ | ⟨hge, hstop⟩
  · rw [if_pos (by omega)] at hfirst hsecond
    have hsum : first + second = min length queue.length := by omega
    refine ⟨hsum, ?_⟩
    rw [htake, ← hsum, hsecond, Nat.add_zero, Payload.cycle_eq_fetch (by omega)]
    exact List.append_nil _
  · rw [if_neg (by omega)] at hfirst hsecond
    have hsum : first + second = min length queue.length := by omega
    refine ⟨hsum, ?_⟩
    rw [htake, ← hsum]
    by_cases hshort : second = 0
    · rw [hshort, Nat.add_zero, Payload.cycle_eq_fetch (by omega)]
      exact List.append_nil _
    · exact (Payload.cycle_eq_fetch_append (by omega) (by omega)).symm

/-- Moving the consumer's cursor over some of the oldest bytes takes them out of the queue. -/
theorem drop (h : r.Queues capacity queue) {n : Nat} (hn : n ≤ queue.length) :
    Queues { r with start := (r.start + n) % capacity } capacity (queue.drop n) where
  size_eq := h.size_eq
  start_lt := Nat.mod_lt _ (by have := h.start_lt; omega)
  stop_eq := by
    show r.stop = _
    rw [List.length_drop, Nat.mod_add_mod, h.stop_eq, Nat.add_assoc, Nat.add_sub_cancel' hn]
  length_lt := by
    have := h.length_lt
    rw [List.length_drop]
    omega
  cycle_eq := by rw [List.length_drop, ← Payload.drop_cycle, h.cycle_eq]

/-- The oldest bytes, as many as the buffer takes, go to its front and out of the queue. The
producer's cursor stays. -/
theorem read (h : r.Queues capacity queue) (buffer : List UInt8) {n : Nat}
    (hn : n = min buffer.length queue.length) :
    ∃ r', Inlet.read ⟨r, r.start, buffer⟩ =
        (.ok n, ⟨r', r'.start, queue.take n ++ buffer.drop n⟩) ∧
      r'.Queues capacity (queue.drop n) ∧ r'.stop = r.stop := by
  obtain ⟨hsum, hbytes⟩ := h.fetch_append_fetch buffer.length rfl rfl
  refine ⟨{ r with start := (r.start + n) % capacity }, ?_, h.drop (by omega), rfl⟩
  rw [Inlet.read_eq h.capacity_eq h.checkCursors_eq]
  dsimp only
  rw [hbytes, hsum, Inlet.fill, List.length_take, ← hn, Nat.min_eq_left (by omega)]

end Region.Queues

end CapServer
