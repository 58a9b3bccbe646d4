import CapServer.Slots

/-!
# Taken ids

A pool is seen through `Pool.isTaken`: taking an id adds one that was not taken (`Pool.alloc_spec`),
giving it back removes it (`Pool.isTaken_free`), and the count of a pool is the number of its taken
ids (`Pool.inUse_eq_length`). What neither changes is the pool's `frame`.

Giving back works only where the store has room. It has, for every id that is taken, if it can hold
the whole range: such a pool is `Roomy`. The pool of every slot allocator is
(`SlotAllocator.Made.roomy`).
-/

namespace CapServer

namespace Pool

/-- What taking ids and giving them back leaves alone: the range, and the room of the store. -/
def frame (p : Pool) : Nat × Nat × Option Nat := (p.start, p.stop, p.store.room)

/-- The store has room for the whole range. -/
def Roomy (p : Pool) : Prop := ∀ n, p.store.room = some n → p.stop - p.start ≤ n

theorem Roomy.of_frame_eq {p q : Pool} (hp : p.Roomy) (h : q.frame = p.frame) : q.Roomy := by
  simp only [frame, Prod.mk.injEq] at h
  obtain ⟨hstart, hstop, hroom⟩ := h
  intro n hn
  rw [hstart, hstop]
  exact hp n (hroom ▸ hn)

theorem roomy_ofRange (start stop : Nat) : (ofRange start stop).Roomy := fun _ h => nomatch h

theorem isTaken_iff {p : Pool} {id : Nat} :
    p.isTaken id = true ↔ p.start ≤ id ∧ id < p.next ∧ id ∉ p.store.ids := by
  simp [isTaken, and_assoc]

theorem not_isTaken_ofRange (start stop id : Nat) : (ofRange start stop).isTaken id = false := by
  rw [Bool.eq_false_iff, Ne, isTaken_iff]
  simp only [ofRange, ofStore]
  omega

/-- A free id is one of the range that is not taken. -/
theorem isFree_iff {p : Pool} {id : Nat} :
    p.isFree id = true ↔ p.start ≤ id ∧ id < p.stop ∧ p.isTaken id = false := by
  have hnext := p.next_le_stop
  have hids := p.mem_range id
  rw [Bool.eq_false_iff, Ne, isTaken_iff]
  simp only [isFree, Bool.and_eq_true, Bool.or_eq_true, decide_eq_true_eq, List.contains_iff_mem]
  constructor
  · rintro ⟨⟨hstart, hstop⟩, hle | hmem⟩
    · exact ⟨hstart, hstop, fun h => by omega⟩
    · exact ⟨hstart, hstop, fun h => h.2.2 hmem⟩
  · rintro ⟨hstart, hstop, h⟩
    refine ⟨⟨hstart, hstop⟩, ?_⟩
    by_cases hle : p.next ≤ id
    · exact .inl hle
    · exact .inr (Decidable.byContradiction fun hmem => h ⟨hstart, by omega, hmem⟩)

/-- An id that is handed out was not taken, and now it is, besides those that were. -/
theorem alloc_spec {p q : Pool} {id : Nat} (h : p.alloc = some (id, q)) :
    (p.start ≤ id ∧ id < p.stop) ∧ p.isTaken id = false ∧ q.frame = p.frame ∧
      ∀ i, q.isTaken i = true ↔ i = id ∨ p.isTaken i = true := by
  have hstart := p.start_le_next
  have hstop := p.next_le_stop
  have hrange := p.mem_range
  have hnodup := p.nodup
  unfold alloc at h
  split at h
  · next top rest hids =>
    simp only [Option.some.injEq, Prod.mk.injEq] at h
    obtain ⟨rfl, rfl⟩ := h
    have htop := hrange top (by simp [hids])
    rw [hids, List.nodup_cons] at hnodup
    refine ⟨by omega, ?_, rfl, fun i => ?_⟩
    · rw [Bool.eq_false_iff, Ne, isTaken_iff, hids]
      simp
    · rw [isTaken_iff, isTaken_iff]
      simp only [hids, List.mem_cons, not_or]
      constructor
      · rintro ⟨h₁, h₂, h₃⟩
        by_cases hi : i = top
        · exact .inl hi
        · exact .inr ⟨h₁, h₂, hi, h₃⟩
      · rintro (rfl | ⟨h₁, h₂, -, h₃⟩)
        · exact ⟨htop.1, htop.2, hnodup.1⟩
        · exact ⟨h₁, h₂, h₃⟩
  · next hids =>
    split at h
    · next hlt =>
      simp only [Option.some.injEq, Prod.mk.injEq] at h
      obtain ⟨rfl, rfl⟩ := h
      refine ⟨⟨hstart, hlt⟩, ?_, rfl, fun i => ?_⟩
      · rw [Bool.eq_false_iff, Ne, isTaken_iff]
        omega
      · rw [isTaken_iff, isTaken_iff]
        simp only [hids, List.not_mem_nil, not_false_eq_true, and_true]
        omega
    · cases h

/-- Taking an id: the latest freed one, or the mark, or there is none left. -/
theorem alloc_cases (p : Pool) :
    (∃ id rest q, p.store.ids = id :: rest ∧ p.alloc = some (id, q) ∧ q.store.ids = rest ∧
        q.next = p.next) ∨
      (∃ q, p.store.ids = [] ∧ p.next < p.stop ∧ p.alloc = some (p.next, q) ∧ q.store.ids = [] ∧
        q.next = p.next + 1) ∨
      (p.store.ids = [] ∧ p.next = p.stop ∧ p.alloc = none) := by
  have hstop := p.next_le_stop
  unfold alloc
  split
  · next id rest hids => exact .inl ⟨id, rest, _, hids, rfl, rfl, rfl⟩
  · next hids =>
    split
    · next hlt => exact .inr (.inl ⟨_, hids, hlt, rfl, hids, rfl⟩)
    · next hge => exact .inr (.inr ⟨hids, by omega, rfl⟩)

/-- A pool hands out nothing exactly if its whole range is in use. -/
theorem alloc_eq_none_iff {p : Pool} : p.alloc = none ↔ p.inUse = p.capacity := by
  have htotal := p.inUse_add_available
  have hstop := p.next_le_stop
  rcases p.alloc_cases with
    ⟨id, rest, q, hids, halloc, -⟩ | ⟨q, hids, hlt, halloc, -⟩ | ⟨hids, hmark, halloc⟩
  all_goals
    simp only [available, hids, List.length_cons, List.length_nil] at htotal
    simp only [halloc, reduceCtorEq, true_iff, false_iff]
    omega

theorem hasRoom_of_isTaken {p : Pool} (hp : p.Roomy) {id : Nat} (h : p.isTaken id = true) :
    p.store.hasRoom = true := by
  rw [isTaken_iff] at h
  have hsub : id :: p.store.ids ⊆ List.range' p.start (p.next - p.start) := fun i hi => by
    rw [List.mem_range'_1]
    rcases List.mem_cons.1 hi with rfl | hi
    · omega
    · have := p.mem_range i hi
      omega
  have hlength := List.Nodup.length_le_of_subset (List.nodup_cons.2 ⟨h.2.2, p.nodup⟩) hsub
  rw [List.length_cons, List.length_range'] at hlength
  have hnext := p.next_le_stop
  unfold FreeStore.hasRoom
  split
  · rfl
  · next n hroom =>
    have := hp n hroom
    rw [decide_eq_true_eq]
    omega

theorem frame_free (p : Pool) (id : Nat) : (p.free id).frame = p.frame := by
  unfold free free?
  split
  · split
    · next store hstore =>
      simp only [Option.getD_some, frame, (FreeStore.push?_eq_some hstore).1]
    · rfl
  · rfl

/-- Giving an id back makes it the only one that is not taken any more. -/
theorem isTaken_free {p : Pool} (hp : p.Roomy) (id i : Nat) :
    (p.free id).isTaken i = true ↔ i ≠ id ∧ p.isTaken i = true := by
  unfold free free?
  split
  · next h =>
    split
    · next store hstore =>
      rw [Option.getD_some, isTaken_iff, isTaken_iff, (FreeStore.push?_eq_some hstore).2,
        List.mem_cons, not_or]
      constructor
      · rintro ⟨h₁, h₂, h₃, h₄⟩
        exact ⟨h₃, h₁, h₂, h₄⟩
      · rintro ⟨h₃, h₁, h₂, h₄⟩
        exact ⟨h₁, h₂, h₃, h₄⟩
    · next hfull =>
      rw [FreeStore.push?, dif_pos (hasRoom_of_isTaken hp h)] at hfull
      cases hfull
  · next h =>
    rw [Option.getD_none]
    exact ⟨fun hi => ⟨fun e => h (e ▸ hi), hi⟩, fun hi => hi.2⟩

/-- The count of a pool is the number of its taken ids. -/
theorem inUse_eq_length {p : Pool} {ids : List Nat} (hnodup : ids.Nodup)
    (h : ∀ id, p.isTaken id = true ↔ id ∈ ids) : p.inUse = ids.length := by
  have hstart := p.start_le_next
  have hperm : List.Perm (ids ++ p.store.ids) (List.range' p.start (p.next - p.start)) := by
    rw [List.perm_ext_iff_of_nodup]
    · intro i
      rw [List.mem_append, ← h i, isTaken_iff, List.mem_range'_1]
      constructor
      · rintro (hi | hi)
        · omega
        · have := p.mem_range i hi
          omega
      · rintro ⟨h₁, h₂⟩
        by_cases hi : i ∈ p.store.ids
        · exact .inr hi
        · exact .inl ⟨h₁, by omega, hi⟩
    · refine List.nodup_append.2 ⟨hnodup, p.nodup, fun i hi j hj e => ?_⟩
      exact (isTaken_iff.1 ((h i).2 hi)).2.2 (e ▸ hj)
    · exact List.nodup_range'
  have hlength := hperm.length_eq
  rw [List.length_append, List.length_range'] at hlength
  rw [inUse]
  omega

/-- The taken ids in order. -/
def takenIds (p : Pool) : List Nat := (List.range' p.start (p.next - p.start)).filter p.isTaken

theorem mem_takenIds {p : Pool} {id : Nat} : id ∈ p.takenIds ↔ p.isTaken id = true := by
  have hstart := p.start_le_next
  rw [takenIds, List.mem_filter, List.mem_range'_1, isTaken_iff]
  constructor
  · exact fun h => h.2
  · exact fun h => ⟨by omega, h⟩

theorem nodup_takenIds (p : Pool) : p.takenIds.Nodup :=
  List.Pairwise.filter _ List.nodup_range'

theorem takenIds_eq_nil {p : Pool} (h : p.inUse = 0) : p.takenIds = [] := by
  rw [inUse_eq_length p.nodup_takenIds fun id => mem_takenIds.symm] at h
  exact List.eq_nil_of_length_eq_zero h

end Pool

namespace SlotAllocator

/-- A slot that is handed out was not taken, and now it is, besides those that were. -/
theorem alloc_spec {a b : SlotAllocator} {slot : CapPtr} (h : a.alloc = some (slot, b)) :
    (a.pool.start ≤ slot ∧ slot < a.pool.stop) ∧ a.pool.isTaken slot = false ∧
      b.pool.frame = a.pool.frame ∧
        ∀ i, b.pool.isTaken i = true ↔ i = slot ∨ a.pool.isTaken i = true := by
  obtain ⟨⟨_, pool⟩, halloc, heq⟩ := Option.map_eq_some_iff.1 h
  cases heq
  exact Pool.alloc_spec halloc

theorem isFree_iff {a : SlotAllocator} {slot : CapPtr} :
    a.isFree slot = true ↔
      a.pool.start ≤ slot ∧ slot < a.pool.stop ∧ a.pool.isTaken slot = false :=
  Pool.isFree_iff

/-- A slot that is handed out was free, and of the free slots it is the one that is not any more. -/
theorem isFree_alloc {a b : SlotAllocator} {slot : CapPtr} (h : a.alloc = some (slot, b)) :
    a.isFree slot = true ∧ ∀ i, b.isFree i = true ↔ a.isFree i = true ∧ i ≠ slot := by
  obtain ⟨hrange, hfresh, hframe, htaken⟩ := alloc_spec h
  have hstart : b.pool.start = a.pool.start := congrArg Prod.fst hframe
  have hstop : b.pool.stop = a.pool.stop := congrArg (fun f => f.2.1) hframe
  refine ⟨isFree_iff.2 ⟨hrange.1, hrange.2, hfresh⟩, fun i => ?_⟩
  rw [isFree_iff, isFree_iff, hstart, hstop, Bool.eq_false_iff, Bool.eq_false_iff, Ne, Ne, htaken,
    not_or]
  constructor
  · rintro ⟨hlow, hhigh, hne, hnot⟩
    exact ⟨⟨hlow, hhigh, hnot⟩, hne⟩
  · rintro ⟨⟨hlow, hhigh, hnot⟩, hne⟩
    exact ⟨hlow, hhigh, hne, hnot⟩

/-- A slot that is given back is free besides those that were. -/
theorem isFree_free {a : SlotAllocator} (ha : a.pool.Roomy) {slot : CapPtr}
    (h : a.pool.isTaken slot = true) (i : CapPtr) :
    (a.free slot).isFree i = true ↔ a.isFree i = true ∨ i = slot := by
  have hframe := a.pool.frame_free slot
  have hstart : (a.free slot).pool.start = a.pool.start := congrArg Prod.fst hframe
  have hstop : (a.free slot).pool.stop = a.pool.stop := congrArg (fun f => f.2.1) hframe
  have htaken : (a.free slot).pool.isTaken i = true ↔ i ≠ slot ∧ a.pool.isTaken i = true :=
    Pool.isTaken_free ha slot i
  rw [isFree_iff, isFree_iff, hstart, hstop, Bool.eq_false_iff, Bool.eq_false_iff, Ne, Ne, htaken]
  by_cases hi : i = slot
  · subst hi
    obtain ⟨hlow, hmark, -⟩ := Pool.isTaken_iff.1 h
    have hhigh : i < a.pool.stop := Nat.lt_of_lt_of_le hmark a.pool.next_le_stop
    simp [hlow, hhigh]
  · simp [hi]

/-- Slot allocators are made over a range, and then slots are taken and given back. -/
inductive Made : SlotAllocator → Prop
  | ofRange {start stop : CapPtr} {a : SlotAllocator} (h : ofRange start stop = .ok a) : Made a
  | ofFixed {room : Nat} {start stop : CapPtr} {a : SlotAllocator}
    (h : ofFixed room start stop = .ok a) : Made a
  | alloc {a b : SlotAllocator} {slot : CapPtr} (ha : Made a) (h : a.alloc = some (slot, b)) :
    Made b
  | free {a : SlotAllocator} (ha : Made a) (slot : CapPtr) : Made (a.free slot)

/-- Every slot allocator can keep its whole range. -/
theorem Made.roomy {a : SlotAllocator} (h : a.Made) : a.pool.Roomy := by
  induction h with
  | ofRange h =>
    unfold SlotAllocator.ofRange at h
    split at h
    · cases h
    · cases h
      exact Pool.roomy_ofRange _ _
  | @ofFixed room start stop a h =>
    unfold SlotAllocator.ofFixed at h
    split at h
    · cases h
    · next hfits =>
      cases h
      simp only [Bool.or_eq_true, decide_eq_true_eq, not_or] at hfits
      intro n hn
      cases Option.some.inj hn
      show max (stop : Nat) start - start ≤ room
      rw [Nat.max_eq_left (Nat.not_lt.1 hfits.1)]
      exact Nat.not_lt.1 hfits.2
  | @alloc a b slot _ h ih => exact ih.of_frame_eq (alloc_spec h).2.2.1
  | @free a _ slot ih => exact ih.of_frame_eq (a.pool.frame_free slot)

end SlotAllocator

end CapServer
