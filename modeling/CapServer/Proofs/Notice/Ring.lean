import CapServer.Notice.Post
import CapServer.Proofs.Notice.Record
import CapServer.Proofs.Ring.Fifo

/-!
# A ring of notices

A record is read back from its bytes, and all records are of one size. So a ring into which only
records of notices are written is a queue of notices: `Memory.Bears` says which ones are unread. A
notice is posted behind them or, if there is no room, not at all (`Writer.post_attach`), and the
reader finds the oldest one (`Reader.next_attach_cons`).
-/

namespace CapServer

/-! ## Unread records -/

section Records

variable {m : Memory} {ring : RegionId} {capacity : Nat}

/-- The bytes that records take in a ring. -/
def Record.bytes (records : List Record) : List UInt8 := records.flatMap toBytes

theorem Record.bytes_append (records : List Record) (r : Record) :
    bytes (records ++ [r]) = bytes records ++ r.toBytes := by
  rw [bytes, List.flatMap_append, List.flatMap_singleton, bytes]

theorem Record.bytes_cons (r : Record) (records : List Record) :
    bytes (r :: records) = r.toBytes ++ bytes records := List.flatMap_cons

/-- A ring has no more records than bytes. -/
theorem Record.length_le_size {r : Region} {records : List Record}
    (h : r.Queues capacity (bytes records)) : records.length ≤ r.size := by
  have hlt := h.length_lt
  have hsize := h.size_eq
  rw [bytes, length_flatMap_of_length_eq length_toBytes] at hlt
  have hle : records.length * 1 ≤ records.length * size := Nat.mul_le_mul_left _ (by decide)
  omega

/-- In an empty ring the reader finds no record. -/
theorem Reader.readExact_attach_nil (h : (m.region ring).Queues capacity []) :
    ∃ r, readExact ⟨.attach m ring, m, List.replicate Record.size 0⟩ =
        (.ok false, ⟨.attach (m.put ring r) ring, m.put ring r, List.replicate Record.size 0⟩) ∧
      ((m.put ring r).region ring).Queues capacity [] ∧
      Writer.attach (m.put ring r) ring = .attach m ring := by
  obtain ⟨r, hread, hr, hwriter⟩ := Reader.read_attach h (List.replicate Record.size 0)
    (Nat.min_zero _).symm
  refine ⟨r, ?_, hr, hwriter⟩
  rw [readExact_apply, hread]
  rfl

/-- The reader finds the oldest record and takes it out. -/
theorem Reader.readExact_attach_cons {record : Record} {rest : List UInt8}
    (h : (m.region ring).Queues capacity (record.toBytes ++ rest)) :
    ∃ r, readExact ⟨.attach m ring, m, List.replicate Record.size 0⟩ =
        (.ok true, ⟨.attach (m.put ring r) ring, m.put ring r, record.toBytes⟩) ∧
      ((m.put ring r).region ring).Queues capacity rest ∧
      Writer.attach (m.put ring r) ring = .attach m ring := by
  have hlength := record.length_toBytes
  have hmin : Record.size = min (List.replicate Record.size (0 : UInt8)).length
      (record.toBytes ++ rest).length := by
    rw [List.length_replicate, List.length_append, hlength]
    exact (Nat.min_eq_left (Nat.le_add_right _ _)).symm
  obtain ⟨r, hread, hr, hwriter⟩ := Reader.read_attach h _ hmin
  rw [List.drop_left' hlength] at hr
  rw [List.take_left' hlength, List.drop_eq_nil_of_le (Nat.le_of_eq List.length_replicate),
    List.append_nil] at hread
  refine ⟨r, ?_, hr, hwriter⟩
  rw [readExact_apply, hread]
  dsimp only
  rw [if_neg (by decide), if_pos hlength.symm]

end Records

/-! ## Unread notices -/

variable {m : Memory} {ring : RegionId} {unread : List Notice}

/-- The bytes that notices take in a ring. -/
def Notice.bytes (notices : List Notice) : List UInt8 := notices.flatMap fun n => n.record.toBytes

theorem Notice.bytes_eq (notices : List Notice) : bytes notices = Record.bytes (notices.map record) :=
  (List.flatMap_map _ _ _).symm

/-- A ring holds the records of some notices and nothing else, or it has no room for anything. -/
def Memory.Bears (m : Memory) (ring : RegionId) (unread : List Notice) : Prop :=
  (∃ capacity, (m.region ring).Queues capacity (Notice.bytes unread)) ∨
    (m.region ring).capacity = .error .malformed ∧ unread = []

/-- A zeroed region bears no notices yet. -/
theorem Memory.bears_nil {size : Nat} (h : m.region ring = .zeroed size) : m.Bears ring [] := by
  rcases Nat.lt_or_ge Region.metadataSize size with hlt | hge
  · refine .inl ⟨size - Region.metadataSize, Region.queues_nil ?_ ?_ ?_ ?_⟩
    · rw [h]
      exact (Nat.add_sub_cancel' (Nat.le_of_lt hlt)).symm
    · exact Nat.sub_pos_of_lt hlt
    · rw [h]
      rfl
    · rw [h]
      rfl
  · refine .inr ⟨?_, rfl⟩
    rw [h]
    exact if_pos hge

/-- A notice is posted behind the others, or nothing changes. -/
theorem Writer.post_attach (h : m.Bears ring unread) (n : Notice) :
    ∃ a m', Writer.post n (.attach m ring, m) = (a, .attach m' ring, m') ∧
      m'.Bears ring (if a.toBool then unread ++ [n] else unread) ∧
      Reader.attach m' ring = .attach m ring := by
  rcases h with ⟨capacity, hqueues⟩ | ⟨hnone, rfl⟩
  · by_cases hfits : n.record.toBytes.length ≤ capacity - 1 - (Notice.bytes unread).length
    · obtain ⟨r, hwrite, hr, hreader⟩ := Writer.write_attach hqueues hfits
      refine ⟨.ok (), m.put ring r, hwrite, .inl ⟨capacity, ?_⟩, hreader⟩
      have hbytes : Notice.bytes (unread ++ [n]) = Notice.bytes unread ++ n.record.toBytes := by
        rw [Notice.bytes, List.flatMap_append, List.flatMap_singleton, Notice.bytes]
      show ((m.put ring r).region ring).Queues capacity (Notice.bytes (unread ++ [n]))
      rw [hbytes]
      exact hr
    · exact ⟨_, m, Writer.write_attach_refused hqueues (Nat.lt_of_not_le hfits),
        .inl ⟨capacity, hqueues⟩, rfl⟩
  · have hwrite : Outlet.write n.record.toBytes ⟨m.region ring, (m.region ring).stop⟩ =
        (.error .malformed, ⟨m.region ring, (m.region ring).stop⟩) := by
      rw [Outlet.write, Attempt.bind_ok (Attempt.get_apply _), hnone]
      rfl
    refine ⟨.error .malformed, m, ?_, .inr ⟨hnone, rfl⟩, rfl⟩
    simp only [post, postRecord, write, attach, hwrite, Memory.put_region]

/-- The reader finds no notice in a ring without any. -/
theorem Reader.next_attach_nil (h : m.Bears ring []) :
    ∃ a m', readExact ⟨.attach m ring, m, List.replicate Record.size 0⟩ =
        (a, ⟨.attach m' ring, m', List.replicate Record.size 0⟩) ∧
      a ≠ .ok true ∧ m'.Bears ring [] ∧ Writer.attach m' ring = .attach m ring := by
  rcases h with ⟨capacity, hqueues⟩ | ⟨hnone, -⟩
  · obtain ⟨r, hread, hr, hwriter⟩ := readExact_attach_nil hqueues
    exact ⟨.ok false, m.put ring r, hread, by simp, .inl ⟨capacity, hr⟩, hwriter⟩
  · have hread : Inlet.readExact ⟨m.region ring, (m.region ring).start,
        List.replicate Record.size 0⟩ = (.error .malformed, ⟨m.region ring, (m.region ring).start,
          List.replicate Record.size 0⟩) := by
      have hcapacity : Inlet.read ⟨m.region ring, (m.region ring).start,
          List.replicate Record.size 0⟩ = (.error .malformed, ⟨m.region ring,
            (m.region ring).start, List.replicate Record.size 0⟩) := by
        rw [Inlet.read, Attempt.bind_ok (Attempt.get_apply _), hnone]
        rfl
      exact Attempt.bind_error hcapacity
    refine ⟨.error .malformed, m, ?_, by simp, .inr ⟨hnone, rfl⟩, rfl⟩
    simp only [readExact, lift, attach, hread, Memory.put_region]

/-- The reader finds the oldest notice and takes it out. -/
theorem Reader.next_attach_cons {n : Notice} (h : m.Bears ring (n :: unread)) :
    ∃ m', readExact ⟨.attach m ring, m, List.replicate Record.size 0⟩ =
        (.ok true, ⟨.attach m' ring, m', n.record.toBytes⟩) ∧
      m'.Bears ring unread ∧ Writer.attach m' ring = .attach m ring := by
  rcases h with ⟨capacity, hqueues⟩ | ⟨-, hnone⟩
  · have hbytes : Notice.bytes (n :: unread) = n.record.toBytes ++ Notice.bytes unread := by
      rw [Notice.bytes, List.flatMap_cons, Notice.bytes]
    rw [hbytes] at hqueues
    obtain ⟨r, hread, hr, hwriter⟩ := readExact_attach_cons hqueues
    exact ⟨m.put ring r, hread, .inl ⟨capacity, hr⟩, hwriter⟩
  · cases hnone

end CapServer
