import CapServer.Proofs.Pool.History

/-!
# The supply of a pool

The free ids of a pool, in the order in which they are going to be handed out: first the freed ones,
the latest first, then those above the mark (`Pool.supply`). Taking an id takes the head of the
supply, and an id that is put back becomes its head. Whatever a pool answers is read off its range
and its supply.

Where the mark stands does not matter otherwise. An id that was taken from above the mark and put
back lies on the stack instead, and the supply is the same as before (`Pool.Alike.of_alloc`). Two
pools that hand out the same ids in the same order are `Alike`, and stay so.
-/

namespace CapServer

namespace Pool

variable {p q : Pool} {id : Nat}

/-- The free ids, those that are handed out sooner first. -/
def supply (p : Pool) : List Nat := p.store.ids ++ List.range' p.next (p.stop - p.next)

theorem mem_supply : id ∈ p.supply ↔ p.isFree id = true := by
  have hstart := p.start_le_next
  have hstop := p.next_le_stop
  have hids := p.mem_range id
  simp only [supply, List.mem_append, List.mem_range'_1, isFree, Bool.and_eq_true, Bool.or_eq_true,
    decide_eq_true_eq, List.contains_iff_mem]
  constructor
  · rintro (hid | hid)
    · have := hids hid
      exact ⟨by omega, .inr hid⟩
    · exact ⟨by omega, .inl hid.1⟩
  · rintro ⟨hrange, hid | hid⟩
    · exact .inr (by omega)
    · exact .inl hid

theorem length_supply (p : Pool) : p.supply.length = p.available := by
  simp only [supply, List.length_append, List.length_range', available]
  omega

/-- The taken ids are those of the range that are not in supply. -/
theorem isTaken_iff_supply :
    p.isTaken id = true ↔ (p.start ≤ id ∧ id < p.stop) ∧ id ∉ p.supply := by
  rw [mem_supply, isFree_iff]
  constructor
  · intro htaken
    have hid := isTaken_iff.1 htaken
    have hstop := p.next_le_stop
    refine ⟨by omega, fun hfree => ?_⟩
    rw [hfree.2.2] at htaken
    cases htaken
  · rintro ⟨⟨hstart, hstop⟩, hnot⟩
    by_contra htaken
    exact hnot ⟨hstart, hstop, Bool.eq_false_iff.2 htaken⟩

theorem alloc_of_supply_nil (h : p.supply = []) : p.alloc = none := by
  rw [alloc_eq_none_iff]
  have htotal := p.inUse_add_available
  rw [← length_supply, h] at htotal
  exact htotal

theorem alloc_of_supply_cons {rest : List Nat} (h : p.supply = id :: rest) :
    ∃ q, p.alloc = some (id, q) ∧ q.supply = rest ∧ q.frame = p.frame := by
  have hstop : ∀ {q : Pool}, q.frame = p.frame → q.stop = p.stop := fun hframe =>
    congrArg (fun f => f.2.1) hframe
  rcases p.alloc_cases with
    ⟨top, others, q, hids, halloc, hrest, hnext⟩ | ⟨q, hids, hlt, halloc, hrest, hnext⟩ |
      ⟨hids, hmark, -⟩
  · have hframe := (alloc_spec halloc).2.2.1
    rw [supply, hids, List.cons_append, List.cons.injEq] at h
    refine ⟨q, h.1 ▸ halloc, ?_, hframe⟩
    rw [← h.2, supply, hrest, hnext, hstop hframe]
  · have hframe := (alloc_spec halloc).2.2.1
    have hrange : p.stop - p.next = p.stop - (p.next + 1) + 1 := by omega
    rw [supply, hids, List.nil_append, hrange, List.range'_succ, List.cons.injEq] at h
    refine ⟨q, h.1 ▸ halloc, ?_, hframe⟩
    rw [← h.2, supply, hrest, hnext, hstop hframe, List.nil_append]
  · simp [supply, hids, hmark] at h

/-- A pool that can keep its whole range takes back every id that is taken. -/
theorem isSome_free?_iff (hp : p.Roomy) : (p.free? id).isSome = true ↔ p.isTaken id = true := by
  rw [free?_isSome_iff]
  exact and_iff_left_of_imp (hasRoom_of_isTaken hp)

/-- An id that was taken is the next to be handed out once it is put back. -/
theorem supply_free (hp : p.Roomy) (id : Nat) :
    (p.free id).supply = if p.isTaken id then id :: p.supply else p.supply := by
  have hframe := p.frame_free id
  rcases hfree : p.free? id with _ | q
  · have hnot : ¬ p.isTaken id = true := fun htaken =>
      free?_eq_none hfree ⟨htaken, hasRoom_of_isTaken hp htaken⟩
    rw [if_neg hnot, Pool.free, hfree, Option.getD_none]
  · obtain ⟨htaken, -, hids, hnext⟩ := free?_eq_some hfree
    rw [Pool.free, hfree, Option.getD_some] at hframe ⊢
    have hstop : q.stop = p.stop := congrArg (fun f => f.2.1) hframe
    rw [if_pos htaken, supply, supply, hids, hnext, hstop, List.cons_append]

/-! ## Pools with the same supply -/

/-- Two pools over one range hand out the same ids in the same order, and can keep all of them. -/
structure Alike (p q : Pool) : Prop where
  start_eq : p.start = q.start
  stop_eq : p.stop = q.stop
  supply_eq : p.supply = q.supply
  roomy : p.Roomy
  roomy_right : q.Roomy

namespace Alike

theorem refl (hp : p.Roomy) : p.Alike p := ⟨rfl, rfl, rfl, hp, hp⟩

theorem trans {r : Pool} (h : p.Alike q) (h' : q.Alike r) : p.Alike r where
  start_eq := h.start_eq.trans h'.start_eq
  stop_eq := h.stop_eq.trans h'.stop_eq
  supply_eq := h.supply_eq.trans h'.supply_eq
  roomy := h.roomy
  roomy_right := h'.roomy_right

theorem isTaken_eq (h : p.Alike q) (id : Nat) : p.isTaken id = q.isTaken id := by
  rw [Bool.eq_iff_iff, isTaken_iff_supply, isTaken_iff_supply, h.start_eq, h.stop_eq, h.supply_eq]

theorem isFree_eq (h : p.Alike q) (id : Nat) : p.isFree id = q.isFree id := by
  rw [Bool.eq_iff_iff, ← mem_supply, ← mem_supply, h.supply_eq]

theorem available_eq (h : p.Alike q) : p.available = q.available := by
  rw [← length_supply, ← length_supply, h.supply_eq]

theorem inUse_eq (h : p.Alike q) : p.inUse = q.inUse := by
  have hp := p.inUse_add_available
  have hq := q.inUse_add_available
  have hstart := h.start_eq
  have hstop := h.stop_eq
  have havailable := h.available_eq
  simp only [capacity] at hp hq
  omega

/-- Both accept an id that is put back, or neither. -/
theorem isSome_free?_eq (h : p.Alike q) (id : Nat) :
    (p.free? id).isSome = (q.free? id).isSome := by
  rw [Bool.eq_iff_iff, isSome_free?_iff h.roomy, isSome_free?_iff h.roomy_right, h.isTaken_eq]

theorem of_frame_eq {p' q' : Pool} (h : p.Alike q) (hp : p'.frame = p.frame)
    (hq : q'.frame = q.frame) (hsupply : p'.supply = q'.supply) : p'.Alike q' where
  start_eq := (congrArg Prod.fst hp).trans (h.start_eq.trans (congrArg Prod.fst hq).symm)
  stop_eq := (congrArg (fun f => f.2.1) hp).trans
    (h.stop_eq.trans (congrArg (fun f => f.2.1) hq).symm)
  supply_eq := hsupply
  roomy := h.roomy.of_frame_eq hp
  roomy_right := h.roomy_right.of_frame_eq hq

/-- Both hand out the same id, or neither has one. -/
theorem alloc_cases (h : p.Alike q) :
    (p.alloc = none ∧ q.alloc = none) ∨
      ∃ id p' q', p.alloc = some (id, p') ∧ q.alloc = some (id, q') ∧ p'.Alike q' := by
  rcases hsupply : p.supply with _ | ⟨id, rest⟩
  · exact .inl ⟨alloc_of_supply_nil hsupply, alloc_of_supply_nil (h.supply_eq ▸ hsupply)⟩
  · obtain ⟨p', hp, hrest, hframe⟩ := alloc_of_supply_cons hsupply
    obtain ⟨q', hq, hrest', hframe'⟩ := alloc_of_supply_cons (h.supply_eq ▸ hsupply)
    exact .inr ⟨id, p', q', hp, hq, h.of_frame_eq hframe hframe' (hrest.trans hrest'.symm)⟩

theorem free (h : p.Alike q) (id : Nat) : (p.free id).Alike (q.free id) := by
  apply h.of_frame_eq (frame_free p id) (frame_free q id)
  rw [supply_free h.roomy, supply_free h.roomy_right, h.isTaken_eq, h.supply_eq]

/-- Taking an id and putting it back leaves the supply as it was. -/
theorem of_alloc (hp : p.Roomy) (halloc : p.alloc = some (id, q)) : p.Alike (q.free id) := by
  obtain ⟨-, -, hframe, htaken⟩ := alloc_spec halloc
  have hfree : (q.free id).supply = p.supply := by
    rw [supply_free (hp.of_frame_eq hframe), if_pos ((htaken id).2 (.inl rfl))]
    rcases hsupply : p.supply with _ | ⟨top, rest⟩
    · rw [alloc_of_supply_nil hsupply] at halloc
      cases halloc
    · obtain ⟨q', halloc', hrest, -⟩ := alloc_of_supply_cons hsupply
      rw [halloc, Option.some.injEq, Prod.mk.injEq] at halloc'
      rw [halloc'.1, halloc'.2, hrest]
  exact (refl hp).of_frame_eq rfl ((frame_free q id).trans hframe) hfree.symm

end Alike

/-- The first id of a range, taken and put back, has moved from above the mark to the stack. -/
example : ((ofRange 1 4).alloc.map fun (id, q) => (q.free id).supply) = some (ofRange 1 4).supply ∧
    ((ofRange 1 4).alloc.map fun (id, q) => (q.free id).next) ≠ some (ofRange 1 4).next := by
  decide

end Pool

end CapServer
