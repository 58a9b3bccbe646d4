import CapServer.Proofs.Pool
import Mathlib.Data.Finset.Card
import Mathlib.Order.Bounds.Basic

/-!
# Pools and their histories

What a pool has answered so far says which ids are held (`History.held`), which freed ids wait to be
issued again (`History.freed`), and which ids were issued at any time (`History.issued`). These are
read off the answers alone, and the pool agrees with them at all times: whatever it answers next,
its history foretells (`Pool.goesBy_history`).

This needs nothing of the store of freed ids. A fixed one may be smaller than the range; an id that
is refused because the store is full is held on, by the history as by the pool.
-/

namespace CapServer

namespace Pool

/-! ## Calls and their history -/

/-- What a pool can be asked. -/
inductive Call
  | alloc
  | free (id : Nat)
  deriving DecidableEq, Repr

/-- What came of a call. -/
inductive Event
  /-- An id was issued, or there was none left. -/
  | issued (id : Option Nat)
  /-- An id was put back, or refused. -/
  | freed (id : Nat) (accepted : Bool)
  deriving DecidableEq, Repr

/-- What came of the calls so far, the latest first. -/
abbrev History : Type := List Event

namespace History

/-- The ids that were issued and not freed since. -/
def held : History → Finset Nat
  | [] => ∅
  | .issued none :: older => held older
  | .issued (some id) :: older => insert id (held older)
  | .freed id accepted :: older => if accepted then (held older).erase id else held older

/-- The ids that were freed and not issued since, the latest freed first. -/
def freed : History → List Nat
  | [] => []
  | .issued none :: older => freed older
  | .issued (some id) :: older => (freed older).filter (· != id)
  | .freed id accepted :: older => if accepted then id :: freed older else freed older

/-- The ids that were issued at any time. -/
def issued : History → Finset Nat
  | [] => ∅
  | .issued none :: older => issued older
  | .issued (some id) :: older => insert id (issued older)
  | .freed _ _ :: older => issued older

end History

/-- Carry out a call. -/
def step (p : Pool) : Call → Event × Pool
  | .alloc =>
    match p.alloc with
    | some (id, q) => (.issued (some id), q)
    | none => (.issued none, p)
  | .free id => (.freed id (p.free? id).isSome, p.free id)

/-- Carry out one call after the other, and go on with the history. -/
def run (p : Pool) (h : History) : List Call → Pool × History
  | [] => (p, h)
  | call :: calls => run (p.step call).2 ((p.step call).1 :: h) calls

/-! ## What one call does -/

/-- An id that is put back was taken and found room, and is now on top of the freed ones. -/
theorem free?_eq_some {p q : Pool} {id : Nat} (h : p.free? id = some q) :
    p.isTaken id = true ∧ p.store.hasRoom = true ∧ q.store.ids = id :: p.store.ids ∧
      q.next = p.next := by
  unfold free? at h
  split at h
  · next htaken =>
    split at h
    · next store hpush =>
      cases h
      refine ⟨htaken, ?_, (FreeStore.push?_eq_some hpush).2, rfl⟩
      unfold FreeStore.push? at hpush
      split at hpush
      · assumption
      · cases hpush
    · cases h
  · cases h

/-- An id that is not put back was not taken, or found no room. -/
theorem free?_eq_none {p : Pool} {id : Nat} (h : p.free? id = none) :
    ¬ (p.isTaken id = true ∧ p.store.hasRoom = true) := by
  rintro ⟨htaken, hroom⟩
  unfold free? at h
  rw [dif_pos htaken] at h
  split at h
  · cases h
  · next hpush =>
    rw [FreeStore.push?, dif_pos hroom] at hpush
    cases hpush

theorem free?_isSome_iff {p : Pool} {id : Nat} :
    (p.free? id).isSome = true ↔ p.isTaken id = true ∧ p.store.hasRoom = true := by
  rcases hfree : p.free? id with _ | q
  · simpa using free?_eq_none hfree
  · have := free?_eq_some hfree
    simp [this]

/-! ## A pool goes by its history -/

/-- A pool over `[start, stop)` in agreement with its history. -/
structure Agrees (p : Pool) (start stop : Nat) (room : Option Nat) (h : History) : Prop where
  frame_eq : p.frame = (start, max stop start, room)
  freed_eq : p.store.ids = h.freed
  taken : ∀ id, p.isTaken id = true ↔ id ∈ h.held
  issued : ∀ id, id ∈ h.issued ↔ start ≤ id ∧ id < p.next

variable {p : Pool} {start stop : Nat} {room : Option Nat} {h : History}

theorem agrees_ofStore (start stop : Nat) (store : FreeStore) :
    (ofStore start stop store).Agrees start stop store.room [] where
  frame_eq := rfl
  freed_eq := rfl
  taken id := by
    rw [isTaken_iff]
    simp only [ofStore, History.held, Finset.notMem_empty, iff_false]
    omega
  issued id := by
    simp only [ofStore, History.issued, Finset.notMem_empty, false_iff]
    omega

theorem Agrees.start_eq (hp : p.Agrees start stop room h) : p.start = start :=
  congrArg Prod.fst hp.frame_eq

theorem Agrees.stop_eq (hp : p.Agrees start stop room h) : p.stop = max stop start :=
  congrArg (fun f => f.2.1) hp.frame_eq

theorem Agrees.room_eq (hp : p.Agrees start stop room h) : p.store.room = room :=
  congrArg (fun f => f.2.2) hp.frame_eq

theorem Agrees.alloc (hp : p.Agrees start stop room h) :
    (p.step .alloc).2.Agrees start stop room ((p.step .alloc).1 :: h) := by
  rcases p.alloc_cases with
    ⟨id, rest, q, hids, halloc, hrest, hnext⟩ | ⟨q, hids, hlt, halloc, hrest, hnext⟩ |
      ⟨hids, hmark, halloc⟩
  · obtain ⟨-, -, hframe, htaken⟩ := alloc_spec halloc
    have hid := p.mem_range id (by simp [hids])
    have hnodup := p.nodup
    rw [hids, List.nodup_cons] at hnodup
    simp only [step, halloc]
    refine ⟨hframe.trans hp.frame_eq, ?_, fun i => ?_, fun i => ?_⟩
    · rw [History.freed, ← hp.freed_eq, hids, hrest, List.filter_cons_of_neg (by simp)]
      symm
      apply List.filter_eq_self.2
      intro j hj
      rw [bne_iff_ne]
      exact fun e => hnodup.1 (e ▸ hj)
    · rw [htaken i, hp.taken i, History.held, Finset.mem_insert]
    · rw [History.issued, Finset.mem_insert, hp.issued i, hnext, ← hp.start_eq]
      constructor
      · rintro (rfl | hi)
        · exact hid
        · exact hi
      · exact .inr
  · obtain ⟨-, -, hframe, htaken⟩ := alloc_spec halloc
    have hmark := p.start_le_next
    simp only [step, halloc]
    refine ⟨hframe.trans hp.frame_eq, ?_, fun i => ?_, fun i => ?_⟩
    · rw [History.freed, ← hp.freed_eq, hids, hrest, List.filter_nil]
    · rw [htaken i, hp.taken i, History.held, Finset.mem_insert]
    · rw [History.issued, Finset.mem_insert, hp.issued i, hnext, ← hp.start_eq]
      omega
  · simp only [step, halloc]
    exact ⟨hp.frame_eq, hp.freed_eq, hp.taken, hp.issued⟩

theorem Agrees.free (hp : p.Agrees start stop room h) (id : Nat) :
    (p.step (.free id)).2.Agrees start stop room ((p.step (.free id)).1 :: h) := by
  have hframe := p.frame_free id
  rcases hfree : p.free? id with _ | q
  · have hsame : p.free id = p := by rw [Pool.free, hfree, Option.getD_none]
    simp only [step, hfree, hsame, Option.isSome_none]
    exact ⟨hp.frame_eq, hp.freed_eq, hp.taken, hp.issued⟩
  · obtain ⟨htaken, -, hids, hnext⟩ := free?_eq_some hfree
    have hq : p.free id = q := by rw [Pool.free, hfree, Option.getD_some]
    rw [hq] at hframe
    simp only [step, hfree, hq, Option.isSome_some]
    refine ⟨hframe.trans hp.frame_eq, ?_, fun i => ?_, fun i => ?_⟩
    · rw [History.freed, if_pos rfl, ← hp.freed_eq, hids]
    · simp only [frame, Prod.mk.injEq] at hframe
      rw [History.held, if_pos rfl, Finset.mem_erase, ← hp.taken i, isTaken_iff, isTaken_iff,
        hframe.1, hnext, hids, List.mem_cons]
      tauto
    · rw [History.issued, hp.issued i, hnext]

theorem Agrees.step (hp : p.Agrees start stop room h) (call : Call) :
    (p.step call).2.Agrees start stop room ((p.step call).1 :: h) := by
  cases call with
  | alloc => exact hp.alloc
  | free id => exact hp.free id

theorem Agrees.run (hp : p.Agrees start stop room h) (calls : List Call) :
    (p.run h calls).1.Agrees start stop room (p.run h calls).2 := by
  induction calls generalizing p h with
  | nil => exact hp
  | cons call calls ih => exact ih (hp.step call)

/-- What its history says of a pool over `[start, stop)` with a store of some room. -/
structure GoesBy (p : Pool) (start stop : Nat) (room : Option Nat) (h : History) : Prop where
  /-- An id that is issued next is one of the range that nobody holds. -/
  fresh : ∀ id q, p.alloc = some (id, q) → id ∉ h.held ∧ start ≤ id ∧ id < stop
  /-- It is the latest freed one, if one was freed and not issued since. -/
  reissued : ∀ id older, h.freed = id :: older → p.alloc.map Prod.fst = some id
  /-- Otherwise it is the least one of the range that was never issued. -/
  least : h.freed = [] → ∀ id, p.alloc.map Prod.fst = some id ↔
    IsLeast {i | (start ≤ i ∧ i < stop) ∧ i ∉ h.issued} id
  /-- There is none exactly if all are held. -/
  exhausted : p.alloc = none ↔ h.held.card = stop - start
  /-- An id is put back exactly if it is held and there is room for one more. -/
  freed : ∀ id, (p.free? id).isSome = true ↔
    id ∈ h.held ∧ ∀ n, room = some n → h.freed.length < n
  /-- One that is not put back changes nothing. -/
  refused : ∀ id, (p.free? id).isSome = false → p.free id = p
  isFree_iff : ∀ id, p.isFree id = true ↔ (start ≤ id ∧ id < stop) ∧ id ∉ h.held
  inUse_eq : p.inUse = h.held.card
  capacity_eq : p.capacity = stop - start
  total : p.inUse + p.available = p.capacity
  /-- No subtraction in the counts is cut off. -/
  counts : p.start ≤ p.next ∧ p.store.ids.length ≤ p.next - p.start ∧ p.next ≤ p.stop

theorem Agrees.hasRoom_iff (hp : p.Agrees start stop room h) :
    p.store.hasRoom = true ↔ ∀ n, room = some n → h.freed.length < n := by
  rw [FreeStore.hasRoom, hp.room_eq, hp.freed_eq]
  cases room <;> simp

theorem Agrees.inUse_eq (hp : p.Agrees start stop room h) : p.inUse = h.held.card := by
  rw [← Finset.length_toList]
  apply inUse_eq_length h.held.nodup_toList
  intro id
  rw [hp.taken, Finset.mem_toList]

theorem Agrees.capacity_eq (hp : p.Agrees start stop room h) : p.capacity = stop - start := by
  rw [capacity, hp.stop_eq, hp.start_eq]
  omega

/-- What is still to be issued for the first time begins at the mark. -/
theorem Agrees.setOf_not_issued (hp : p.Agrees start stop room h) :
    {i | (start ≤ i ∧ i < stop) ∧ i ∉ h.issued} = {i | p.next ≤ i ∧ i < p.stop} := by
  have hmark := p.start_le_next
  rw [hp.start_eq] at hmark
  ext i
  simp only [Set.mem_ofPred_eq, hp.issued, hp.stop_eq]
  omega

theorem Agrees.reissued (hp : p.Agrees start stop room h) {id : Nat} {older : List Nat}
    (hfreed : h.freed = id :: older) : p.alloc.map Prod.fst = some id := by
  rw [← hp.freed_eq] at hfreed
  rcases p.alloc_cases with ⟨top, rest, q, hids, halloc, -⟩ | ⟨q, hids, -⟩ | ⟨hids, -⟩
  · rw [hfreed, List.cons.injEq] at hids
    simp [halloc, hids.1]
  · simp [hfreed] at hids
  · simp [hfreed] at hids

theorem Agrees.least (hp : p.Agrees start stop room h) (hfreed : h.freed = []) (id : Nat) :
    p.alloc.map Prod.fst = some id ↔
      IsLeast {i | (start ≤ i ∧ i < stop) ∧ i ∉ h.issued} id := by
  rw [← hp.freed_eq] at hfreed
  rw [hp.setOf_not_issued]
  rcases p.alloc_cases with ⟨top, rest, q, hids, -⟩ | ⟨q, -, hlt, halloc, -⟩ | ⟨-, hmark, halloc⟩
  · simp [hfreed] at hids
  · have hleast : IsLeast {i | p.next ≤ i ∧ i < p.stop} p.next := ⟨⟨le_rfl, hlt⟩, fun i hi => hi.1⟩
    rw [halloc, Option.map_some, Option.some.injEq]
    constructor
    · rintro rfl
      exact hleast
    · exact fun hid => hleast.unique hid
  · rw [halloc, Option.map_none]
    constructor
    · intro hnone
      cases hnone
    · rintro ⟨⟨hge, hlt⟩, -⟩
      omega

/-- **A pool goes by its history.** Whatever store of freed ids a pool begins with, and whatever ids
are taken from it and put back, what it does next is what its history says. -/
theorem goesBy_history (start stop : Nat) (store : FreeStore) (calls : List Call) :
    let p := (ofStore start stop store).run [] calls
    p.1.GoesBy start stop store.room p.2 := by
  intro p
  have hp : p.1.Agrees start stop store.room p.2 := (agrees_ofStore start stop store).run calls
  clear_value p
  obtain ⟨p, h⟩ := p
  have hrange : ∀ id, p.start ≤ id ∧ id < p.stop ↔ start ≤ id ∧ id < stop := by
    intro id
    rw [hp.start_eq, hp.stop_eq]
    omega
  refine ⟨fun id q halloc => ?_, fun id older hfreed => hp.reissued hfreed, hp.least,
    ?_, fun id => ?_, fun id hfree => ?_, fun id => ?_, hp.inUse_eq,
    hp.capacity_eq, p.inUse_add_available, p.start_le_next, p.length_ids_le, p.next_le_stop⟩
  · obtain ⟨hid, hfree, -, -⟩ := alloc_spec halloc
    rw [← hp.taken, hfree]
    exact ⟨Bool.false_ne_true, (hrange id).1 hid⟩
  · rw [alloc_eq_none_iff, hp.inUse_eq, hp.capacity_eq]
  · rw [free?_isSome_iff, hp.taken, hp.hasRoom_iff]
  · rw [Option.isSome_eq_false_iff, Option.isNone_iff_eq_none] at hfree
    rw [Pool.free, hfree, Option.getD_none]
  · rw [Pool.isFree_iff, ← and_assoc, hrange, ← hp.taken, Bool.not_eq_true]

/-- In a store with room for one id, the second one put back is refused and stays held. -/
example : ((ofStore 0 2 (.ofRoom (some 1))).run [] [.alloc, .alloc, .free 0, .free 1]).2 =
    [.freed 1 false, .freed 0 true, .issued (some 1), .issued (some 0)] := by decide

end Pool

end CapServer
