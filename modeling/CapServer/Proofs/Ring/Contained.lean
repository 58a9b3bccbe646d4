import CapServer.Proofs.Ring.Contents

/-!
# Transfers stay within their ring

The cursor words of a ring are also the other side's to write, so nothing is known about them
beforehand: not that they lie in the payload, and not that anybody wrote the bytes between them.
What a transfer may touch has to follow from what it checks: the size of the region, its own cursor
and the one that its peer published (`Region.Unfit`).

Each side overwrites the word it owns without having looked at it. A transfer therefore does what it
does at a region where this word agrees with its own cursor, and such a region is a ring that holds
the bytes between its cursors, whatever they are (`Region.queues_between`).

`Outlet.Writes` and `Inlet.Reads` are all that the transfers may do. `transfers_contained` says that
they do nothing else.
-/

namespace CapServer

/-! ## Places of a payload -/

namespace Payload

variable {bytes other : Nat → UInt8} {capacity place : Nat}

/-- From any place of the payload, going around comes to every other. -/
theorem exists_around (hplace : place < capacity) {target : Nat} (htarget : target < capacity) :
    ∃ i < capacity, target = (place + i) % capacity := by
  rcases Nat.lt_or_ge target place with hlt | hge
  · refine ⟨capacity - place + target, by omega, ?_⟩
    rw [← Nat.add_assoc, Nat.add_sub_cancel' (by omega), Nat.add_mod_left,
      Nat.mod_eq_of_lt htarget]
  · refine ⟨target - place, by omega, ?_⟩
    rw [Nat.add_sub_cancel' hge, Nat.mod_eq_of_lt htarget]

/-- Storing in two segments leaves alone what lies behind the payload. -/
theorem store_store_of_ge {src : List UInt8} {i : Nat} (hplace : place < capacity)
    (hsrc : src.length < capacity) (hi : capacity ≤ i) :
    store (store bytes place (src.take (min src.length (capacity - place)))) 0
        (src.drop (min src.length (capacity - place))) i = bytes i := by
  rw [store_apply, store_apply, if_pos (Nat.zero_le i), if_pos (by omega)]
  simp only [List.getD_eq_getElem?_getD]
  rw [List.getElem?_eq_none (by rw [List.length_drop]; omega),
    List.getElem?_eq_none (by rw [List.length_take]; omega)]
  rfl

/-- Storing in two segments leaves alone every place but those that the bytes go to. -/
theorem store_store_of_ne {src : List UInt8} {target : Nat} (hplace : place < capacity)
    (hsrc : src.length < capacity) (h : ∀ i < src.length, target ≠ (place + i) % capacity) :
    store (store bytes place (src.take (min src.length (capacity - place)))) 0
        (src.drop (min src.length (capacity - place))) target = bytes target := by
  rcases Nat.lt_or_ge target capacity with hlt | hge
  · obtain ⟨i, hi, rfl⟩ := exists_around hplace hlt
    have hlength : src.length ≤ i := Nat.le_of_not_lt fun hshort => h i hshort rfl
    rw [store_store_apply hplace hsrc hi, List.getD_eq_getElem?_getD,
      List.getElem?_eq_none hlength]
    rfl
  · exact store_store_of_ge hplace hsrc hge

/-- What is read going around the payload is read from nowhere else. -/
theorem cycle_congr_of_lt (hplace : place < capacity)
    (h : ∀ i < capacity, bytes i = other i) (n : Nat) :
    cycle bytes capacity place n = cycle other capacity place n :=
  cycle_congr fun _ _ => h _ (Nat.mod_lt _ (by omega))

end Payload

/-! ## What a transfer looks at -/

namespace Region

/-- The bytes of a region behind its cursor words. -/
def payloadSize (r : Region) : Nat := r.size - metadataSize

/-- The region has no payload, or one of two cursors does not lie in it. -/
def Unfit (r : Region) (start stop : Nat) : Prop :=
  r.size ≤ metadataSize ∨ r.payloadSize ≤ start ∨ r.payloadSize ≤ stop

variable {r : Region} {start stop : Nat}

theorem not_unfit : ¬ r.Unfit start stop ↔
    metadataSize < r.size ∧ start < r.payloadSize ∧ stop < r.payloadSize := by
  simp only [Unfit, not_or, Nat.not_le]

theorem capacity_of_fit (h : ¬ r.Unfit start stop) : r.capacity = .ok r.payloadSize :=
  if_neg (Nat.not_le.2 (not_unfit.1 h).1)

theorem checkCursors_of_fit (h : ¬ r.Unfit start stop) :
    checkCursors r.payloadSize start stop = .ok () := by
  obtain ⟨-, hstart, hstop⟩ := not_unfit.1 h
  refine if_neg ?_
  simp only [Bool.or_eq_true, decide_eq_true_eq]
  omega

/-- Where something is unfit, the region has no capacity or the check of the cursors fails. -/
theorem malformed_of_unfit (h : r.Unfit start stop) :
    r.capacity = .error .malformed ∨
      r.capacity = .ok r.payloadSize ∧
        checkCursors r.payloadSize start stop = .error .malformed := by
  by_cases hsize : r.size ≤ metadataSize
  · exact .inl (if_pos hsize)
  · refine .inr ⟨if_neg hsize, if_pos ?_⟩
    simp only [Bool.or_eq_true, decide_eq_true_eq]
    exact h.resolve_left hsize

/-- The bytes from one cursor on up to the other. -/
def between (r : Region) (start stop : Nat) : List UInt8 :=
  Payload.cycle r.payload r.payloadSize start (distance r.payloadSize start stop)

@[simp] theorem length_between (r : Region) (start stop : Nat) :
    (r.between start stop).length = distance r.payloadSize start stop :=
  Payload.length_cycle _ _ _ _

/-- Between cursors that lie in the payload, a region holds whatever bytes there are. -/
theorem queues_between (h : ¬ r.Unfit start stop) :
    Queues { r with start := start, stop := stop } r.payloadSize (r.between start stop) where
  size_eq := (Nat.add_sub_cancel' (Nat.le_of_lt (not_unfit.1 h).1)).symm
  start_lt := (not_unfit.1 h).2.1
  stop_eq := by
    obtain ⟨-, hstart, hstop⟩ := not_unfit.1 h
    rw [length_between, distance]
    split
    · rw [Nat.add_sub_cancel' ‹_›, Nat.mod_eq_of_lt hstop]
    · dsimp only
      rw [← Nat.add_assoc, Nat.add_sub_cancel' (by omega), Nat.add_mod_left,
        Nat.mod_eq_of_lt hstop]
  length_lt := by
    obtain ⟨-, hstart, hstop⟩ := not_unfit.1 h
    rw [length_between, distance]
    split <;> omega
  cycle_eq := by
    rw [length_between]
    rfl

/-- The cursors of a ring lie in its payload. -/
theorem Queues.fit {capacity : Nat} {queue : List UInt8} (h : r.Queues capacity queue) :
    ¬ r.Unfit r.start r.stop := by
  have hstart := h.start_lt
  rw [not_unfit, payloadSize, h.size_eq, Nat.add_sub_cancel_left]
  exact ⟨by omega, hstart, h.stop_lt⟩

/-- The oldest bytes of a ring and those behind them, each where they stand. -/
theorem Queues.cycles {capacity : Nat} {queue src : List UInt8}
    (h : r.Queues capacity (queue ++ src)) :
    Payload.cycle r.payload capacity r.start queue.length = queue ∧
      Payload.cycle r.payload capacity ((r.start + queue.length) % capacity) src.length = src := by
  have hcycle := h.cycle_eq
  rw [List.length_append, Payload.cycle_add] at hcycle
  exact List.append_inj hcycle (Payload.length_cycle _ _ _ _)

end Region

/-! ## Writing -/

namespace Outlet

/-- What bytes that fit do to a region and its producer. -/
structure Written (o : Outlet) (src : List UInt8) (o' : Outlet) : Prop where
  size_eq : o'.region.size = o.region.size
  start_eq : o'.region.start = o.region.start
  stop_eq : o'.region.stop = o'.cursor
  cursor_eq : o'.cursor = (o.cursor + src.length) % o.region.payloadSize
  cursor_lt : o'.cursor < o.region.payloadSize
  /-- The bytes stand from the producer's cursor on, going around. -/
  stored : Payload.cycle o'.region.payload o.region.payloadSize o.cursor src.length = src
  /-- Every other place holds what it held. -/
  elsewhere : ∀ place, (∀ i < src.length, place ≠ (o.cursor + i) % o.region.payloadSize) →
    o'.region.payload place = o.region.payload place
  /-- No place outside the payload is touched. -/
  within : ∀ place, o.region.payloadSize ≤ place →
    o'.region.payload place = o.region.payload place
  /-- The bytes not read yet, going by the consumer's word, are left alone. -/
  unread : o'.region.between o.region.start o.cursor = o.region.between o.region.start o.cursor

/-- All that writing may answer and leave. -/
inductive Writes (o : Outlet) (src : List UInt8) : Except Failure Unit × Outlet → Prop
  | malformed (h : o.region.Unfit o.region.start o.cursor) : Writes o src (.error .malformed, o)
  | exhausted (h : ¬ o.region.Unfit o.region.start o.cursor)
      (hfull : Region.space o.region.payloadSize o.region.start o.cursor < src.length) :
      Writes o src (.error .resourceExhausted, o)
  | written (h : ¬ o.region.Unfit o.region.start o.cursor)
      (hfits : src.length ≤ Region.space o.region.payloadSize o.region.start o.cursor)
      {o' : Outlet} (hwritten : o.Written src o') : Writes o src (.ok (), o')

variable {o : Outlet} {src : List UInt8}

theorem write_of_unfit (h : o.region.Unfit o.region.start o.cursor) :
    write src o = (.error .malformed, o) := by
  rcases Region.malformed_of_unfit h with hcapacity | ⟨hcapacity, hcheck⟩
  · simp only [write, Attempt.bind_apply, Attempt.get_apply, hcapacity, Attempt.ofExcept_apply]
  · simp only [write, Attempt.bind_apply, Attempt.get_apply, hcapacity, hcheck,
      Attempt.ofExcept_apply]

theorem write_of_full (h : ¬ o.region.Unfit o.region.start o.cursor)
    (hfull : Region.space o.region.payloadSize o.region.start o.cursor < src.length) :
    write src o = (.error .resourceExhausted, o) :=
  (write_eq src (Region.capacity_of_fit h) (Region.checkCursors_of_fit h)).trans (if_pos hfull)

/-- Bytes that fit are put down in free places only. -/
theorem written_of_fit (h : ¬ o.region.Unfit o.region.start o.cursor)
    (hfits : src.length ≤ Region.space o.region.payloadSize o.region.start o.cursor) :
    ∃ o', write src o = (.ok (), o') ∧ o.Written src o' := by
  have hcursor := (Region.not_unfit.1 h).2.2
  -- the ring that the region is once the producer's word says what its cursor says
  have hqueue := Region.queues_between h
  rw [hqueue.space_eq] at hfits
  have hlength := hqueue.length_lt
  have hroom : (o.region.between o.region.start o.cursor).length + src.length <
      o.region.payloadSize := by omega
  obtain ⟨hunread, hstored⟩ := (hqueue.append hroom).cycles
  rw [← hqueue.stop_eq] at hstored
  rw [Region.length_between] at hunread
  refine ⟨_, (write_eq src (Region.capacity_of_fit h) (Region.checkCursors_of_fit h)).trans
    (if_neg (by rw [hqueue.space_eq]; omega)), ?_⟩
  exact {
    size_eq := rfl
    start_eq := rfl
    stop_eq := rfl
    cursor_eq := rfl
    cursor_lt := Nat.mod_lt _ (by omega)
    stored := hstored
    elsewhere := fun place hplace => Payload.store_store_of_ne hcursor (by omega) hplace
    within := fun place hplace => Payload.store_store_of_ge hcursor (by omega) hplace
    unread := hunread }

/-- Writing does what it may, and never anything else. -/
theorem writes_write (o : Outlet) (src : List UInt8) : o.Writes src (write src o) := by
  by_cases h : o.region.Unfit o.region.start o.cursor
  · rw [write_of_unfit h]
    exact .malformed h
  rcases Nat.lt_or_ge (Region.space o.region.payloadSize o.region.start o.cursor) src.length
    with hfull | hfits
  · rw [write_of_full h hfull]
    exact .exhausted h hfull
  · obtain ⟨o', hwrite, hwritten⟩ := written_of_fit h hfits
    rw [hwrite]
    exact .written h hfits hwritten

theorem Writes.malformed_iff {result : Except Failure Unit × Outlet} (h : o.Writes src result) :
    result.1 = .error .malformed ↔ o.region.Unfit o.region.start o.cursor := by
  cases h with
  | malformed h => exact iff_of_true rfl h
  | exhausted h => exact iff_of_false (by simp) h
  | written h => exact iff_of_false (by simp) h

end Outlet

/-! ## Reading -/

namespace Inlet

/-- What taking `n` bytes out does to a region, its consumer and the buffer. -/
structure Taken (i : Inlet) (n : Nat) (i' : Inlet) : Prop where
  count_eq : n =
    min i.buffer.length (Region.distance i.region.payloadSize i.cursor i.region.stop)
  /-- Of the region, only the consumer's word is set. -/
  region_eq : i'.region = { i.region with start := i'.cursor }
  cursor_eq : i'.cursor = (i.cursor + n) % i.region.payloadSize
  cursor_lt : i'.cursor < i.region.payloadSize
  /-- The oldest bytes go to the front of the buffer, and the rest of it stays. -/
  buffer_eq : i'.buffer =
    (i.region.between i.cursor i.region.stop).take n ++ i.buffer.drop n
  /-- No place outside the payload is looked at: what stands there makes no difference. -/
  within : ∀ bytes, (∀ place < i.region.payloadSize, bytes place = i.region.payload place) →
    read { i with region := { i.region with payload := bytes } } =
      (.ok n, { i' with region := { i'.region with payload := bytes } })

/-- All that reading may answer and leave. -/
inductive Reads (i : Inlet) : Except Failure Nat × Inlet → Prop
  | malformed (h : i.region.Unfit i.cursor i.region.stop) : Reads i (.error .malformed, i)
  | taken (h : ¬ i.region.Unfit i.cursor i.region.stop) {n : Nat} {i' : Inlet}
      (htaken : i.Taken n i') : Reads i (.ok n, i')

variable {i : Inlet}

theorem read_of_unfit (h : i.region.Unfit i.cursor i.region.stop) :
    read i = (.error .malformed, i) := by
  rcases Region.malformed_of_unfit h with hcapacity | ⟨hcapacity, hcheck⟩
  · simp only [read, Attempt.bind_apply, Attempt.get_apply, hcapacity, Attempt.ofExcept_apply]
  · simp only [read, Attempt.bind_apply, Attempt.get_apply, hcapacity, hcheck,
      Attempt.ofExcept_apply]

/-- From a consumer's cursor that lies in the payload, as many bytes are moved as there are up to
the producer's word and the buffer takes. -/
theorem read_of_fit (h : ¬ i.region.Unfit i.cursor i.region.stop) {n : Nat} (hn : n =
      min i.buffer.length (Region.distance i.region.payloadSize i.cursor i.region.stop)) :
    read i = (.ok n,
      { region := { i.region with start := (i.cursor + n) % i.region.payloadSize }
        cursor := (i.cursor + n) % i.region.payloadSize
        buffer := (i.region.between i.cursor i.region.stop).take n ++ i.buffer.drop n }) := by
  obtain ⟨hsum, hbytes⟩ :=
    (Region.queues_between h).fetch_append_fetch i.buffer.length rfl rfl
  rw [Region.length_between, ← hn] at hsum hbytes
  rw [read_eq (Region.capacity_of_fit h) (Region.checkCursors_of_fit h)]
  dsimp only at hsum hbytes ⊢
  rw [hbytes, hsum, fill, List.length_take, Region.length_between, Nat.min_eq_left (by omega)]

/-- What the consumer's own word says makes no difference. -/
theorem read_restart (h : ¬ i.region.Unfit i.cursor i.region.stop) (start : Nat) :
    read { i with region := { i.region with start := start } } = read i := by
  rw [read_of_fit h rfl]
  exact read_of_fit (i := { i with region := { i.region with start := start } }) h rfl

theorem taken_of_fit (h : ¬ i.region.Unfit i.cursor i.region.stop) :
    ∃ n i', read i = (.ok n, i') ∧ i.Taken n i' := by
  refine ⟨_, _, read_of_fit h rfl, ?_⟩
  exact {
    count_eq := rfl
    region_eq := rfl
    cursor_eq := rfl
    cursor_lt := Nat.mod_lt _ (Nat.zero_lt_of_lt (Region.not_unfit.1 h).2.1)
    buffer_eq := rfl
    within := fun bytes hbytes => by
      have hbetween : ({ i.region with payload := bytes } : Region).between i.cursor i.region.stop =
          i.region.between i.cursor i.region.stop :=
        Payload.cycle_congr_of_lt (Region.not_unfit.1 h).2.1 hbytes _
      refine (read_of_fit (i := { i with region := { i.region with payload := bytes } }) h
        rfl).trans ?_
      dsimp only
      rw [hbetween]
      rfl }

theorem reads_read (i : Inlet) : i.Reads (read i) := by
  by_cases h : i.region.Unfit i.cursor i.region.stop
  · rw [read_of_unfit h]
    exact .malformed h
  · obtain ⟨n, i', hread, htaken⟩ := taken_of_fit h
    rw [hread]
    exact .taken h htaken

theorem Reads.malformed_iff {result : Except Failure Nat × Inlet} (h : i.Reads result) :
    result.1 = .error .malformed ↔ i.region.Unfit i.cursor i.region.stop := by
  cases h with
  | malformed h => exact iff_of_true rfl h
  | taken h => exact iff_of_false (by simp) h

end Inlet

/-- **A transfer stays within its ring, whatever the cursor words say.** It fails as malformed for
unfit cursors and for no other reason; what it leaves is one of the few things it may leave. -/
theorem transfers_contained (o : Outlet) (src : List UInt8) (i : Inlet) :
    ((Outlet.write src o).1 = .error .malformed ↔ o.region.Unfit o.region.start o.cursor) ∧
      o.Writes src (Outlet.write src o) ∧
      ((Inlet.read i).1 = .error .malformed ↔ i.region.Unfit i.cursor i.region.stop) ∧
      i.Reads (Inlet.read i) :=
  ⟨(o.writes_write src).malformed_iff, o.writes_write src, i.reads_read.malformed_iff,
    i.reads_read⟩

-- The producer's word is damaged here; bytes are put down around the end of the payload.
example :
    let o := (Outlet.write [7, 8] ⟨⟨20, 2, 99, fun _ => 0⟩, 3⟩).2
    (o.cursor, o.region.stop, o.region.between 2 1) = (1, 1, [0, 7, 8]) := by
  decide

end CapServer
