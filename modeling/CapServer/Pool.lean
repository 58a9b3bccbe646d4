/-!
# Id pools

A pool hands out numbers from a range `[start, stop)`. A freed number goes on top of a stack and is
handed out again before any number that was never issued; fresh numbers come from a mark that only
moves up.

The stack is a `FreeStore`, either growing without bound or fixed at some number of entries. A
fixed store may be smaller than the range: a number freed while it is full stays taken.

What every operation keeps is part of the type `Pool`: the freed numbers are pairwise distinct and
below the mark. So `Pool.inUse` and `Pool.available` never cut off a subtraction, and together they
make up the capacity (`Pool.inUse_add_available`).
-/

namespace CapServer

/-! ## Free stores -/

/-- A stack of freed ids, the latest first, with room for a number of them or for any number. -/
structure FreeStore where
  room : Option Nat
  ids : List Nat
  fits : ∀ n, room = some n → ids.length ≤ n

namespace FreeStore

/-- An empty store with the given room. -/
def ofRoom (room : Option Nat) : FreeStore := ⟨room, [], by simp⟩

/-- Whether another id finds room. -/
def hasRoom (s : FreeStore) : Bool :=
  match s.room with
  | none => true
  | some n => s.ids.length < n

/-- Put an id on top, unless the store is full. -/
def push? (s : FreeStore) (id : Nat) : Option FreeStore :=
  if h : s.hasRoom then
    some ⟨s.room, id :: s.ids, fun n hn => by
      simpa [hasRoom, hn, Nat.succ_le_iff] using h⟩
  else none

/-- Empty the store and keep its room. -/
def clear (s : FreeStore) : FreeStore := ofRoom s.room

theorem push?_eq_some {s t : FreeStore} {id : Nat} (h : s.push? id = some t) :
    t.room = s.room ∧ t.ids = id :: s.ids := by
  unfold push? at h
  split at h
  · cases h; exact ⟨rfl, rfl⟩
  · cases h

end FreeStore

/-! ## Pools -/

/-- An allocator of the numbers in `[start, stop)`. -/
structure Pool where
  start : Nat
  stop : Nat
  /-- The least number never issued. -/
  next : Nat
  store : FreeStore
  start_le_next : start ≤ next
  next_le_stop : next ≤ stop
  mem_range : ∀ id ∈ store.ids, start ≤ id ∧ id < next
  nodup : store.ids.Nodup

namespace Pool

/-- A pool with the given store, emptied first. A range that ends before it starts is empty. -/
def ofStore (start stop : Nat) (store : FreeStore) : Pool where
  start := start
  stop := max stop start
  next := start
  store := store.clear
  start_le_next := Nat.le_refl _
  next_le_stop := Nat.le_max_right _ _
  mem_range := by simp [FreeStore.clear, FreeStore.ofRoom]
  nodup := by simp [FreeStore.clear, FreeStore.ofRoom]

/-- A pool whose store grows without bound. -/
def ofRange (start stop : Nat) : Pool := ofStore start stop (.ofRoom none)

/-- Take the latest freed number, or else the least one never issued. -/
def alloc (p : Pool) : Option (Nat × Pool) :=
  match h : p.store.ids with
  | id :: rest =>
    some (id, { p with
      store := ⟨p.store.room, rest, fun n hn => by
        have := p.store.fits n hn
        simp only [h, List.length_cons] at this
        omega⟩
      mem_range := fun i hi => p.mem_range i (by simp [h, hi])
      nodup := (List.nodup_cons.1 (h ▸ p.nodup)).2 })
  | [] =>
    if hn : p.next < p.stop then
      some (p.next, { p with
        next := p.next + 1
        start_le_next := by have := p.start_le_next; omega
        next_le_stop := hn
        mem_range := by simp [h] })
    else none

/-- Whether a number was issued at some time and is not freed now. -/
def isTaken (p : Pool) (id : Nat) : Bool :=
  p.start ≤ id && id < p.next && !p.store.ids.contains id

/-- Put a number back. `none` if it is not taken, or if the store is full. -/
def free? (p : Pool) (id : Nat) : Option Pool :=
  if h : p.isTaken id then
    match hs : p.store.push? id with
    | some store =>
      some { p with
        store := store
        mem_range := fun i hi => by
          rw [(FreeStore.push?_eq_some hs).2] at hi
          rcases List.mem_cons.1 hi with rfl | hi
          · simp only [isTaken, Bool.and_eq_true, decide_eq_true_eq] at h
            exact h.1
          · exact p.mem_range i hi
        nodup := by
          rw [(FreeStore.push?_eq_some hs).2]
          simp only [isTaken, Bool.and_eq_true, Bool.not_eq_true'] at h
          exact List.nodup_cons.2 ⟨by simpa using h.2, p.nodup⟩ }
    | none => none
  else none

/-- Put a number back, or ignore it if it cannot be. -/
def free (p : Pool) (id : Nat) : Pool := (p.free? id).getD p

/-- Whether a number of the range is free: never issued, or freed since. -/
def isFree (p : Pool) (id : Nat) : Bool :=
  p.start ≤ id && id < p.stop && (p.next ≤ id || p.store.ids.contains id)

/-- How many numbers are handed out. -/
def inUse (p : Pool) : Nat := p.next - p.start - p.store.ids.length

/-- How many numbers are left. -/
def available (p : Pool) : Nat := p.stop - p.next + p.store.ids.length

/-- How many numbers the range has. -/
def capacity (p : Pool) : Nat := p.stop - p.start

/-- The freed numbers fit below the mark. -/
theorem length_ids_le (p : Pool) : p.store.ids.length ≤ p.next - p.start := by
  have h : p.store.ids ⊆ List.range' p.start (p.next - p.start) := fun i hi => by
    have := p.mem_range i hi
    rw [List.mem_range'_1]
    omega
  simpa using List.Nodup.length_le_of_subset p.nodup h

theorem inUse_add_available (p : Pool) : p.inUse + p.available = p.capacity := by
  have := p.length_ids_le
  have := p.start_le_next
  have := p.next_le_stop
  simp only [inUse, available, capacity]
  omega

end Pool

end CapServer
