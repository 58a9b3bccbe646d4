import CapServer.Proofs.CapSpace
import CapServer.Proofs.Sim.Machine
import CapServer.Sim.Holder
import Mathlib.Data.Set.Function
import Mathlib.Order.Interval.Set.Basic

/-!
# Recycled slots

A capability space on the machine is put to use: slots of its range are taken and filled, emptied
and given back, in any order, and the kernel may fail at any of its calls. Nothing else puts
capabilities into the range.

Then a slot that is taken is always empty (`SlotUser.recycles_run`), so that minting and receiving
never find their slot occupied, and no capability is lost to another. A slot that the kernel refused
to empty may be occupied, and it is never taken again.

The invariant is `SlotUser.Tidy`: what is not taken is empty, and what is held or was refused is
taken. All the ways of taking a slot have `Machine.Fills` in common, with one case for success and
one for failure, and all the ways of giving one back have `SlotUser.Empties`.
-/

namespace CapServer

/-! ## What the kernel does to the slots -/

namespace Machine

variable {ν α : Type} {range : Set CapPtr} {dest slot : CapPtr} {w : World (Machine ν)}

/-- The capability in a slot. -/
def cap (w : World (Machine ν)) (slot : CapPtr) : Option SimCap := w.rest.kernel.cap slot

/-- Filling a slot of a range leaves the other slots of the range alone; and if it fails, that slot,
too. -/
inductive Fills (range : Set CapPtr) (dest : CapPtr) (w : World (Machine ν)) :
    Except Failure Unit × World (Machine ν) → Prop
  | filled {w' : World (Machine ν)} (others : (range \ {dest}).EqOn (cap w') (cap w)) :
      Fills range dest w (.ok (), w')
  | failed {e : Failure} {w' : World (Machine ν)} (same : range.EqOn (cap w') (cap w)) :
      Fills range dest w (.error e, w')

theorem cap_of_slots_eq {w' : World (Machine ν)}
    (h : w'.rest.kernel.slots = w.rest.kernel.slots) : cap w' = cap w := by
  funext slot
  rw [cap, cap, SimKernel.cap, SimKernel.cap, h]

theorem fills_kernelCall {call : KernelCall} {x : Attempt SimKernel Unit} {badge : Option Badge}
    (hx : Places dest badge x) (range : Set CapPtr) (w : World (Machine ν)) :
    Fills range dest w (kernelCall call x w) := by
  obtain ⟨plan, ⟨e, hcall⟩ | hcall⟩ := kernelCall_cases call x w
  · rw [hcall]
    exact .failed fun slot _ => rfl
  · rcases hx w.rest.kernel with ⟨e, herror, hslots⟩ | ⟨c, hok, -, hslots, -⟩
    · rw [hcall, herror]
      exact .failed fun slot _ => congrFun (cap_of_slots_eq hslots) slot
    · rw [hcall, hok]
      refine .filled fun slot hslot => ?_
      have hne : slot ≠ dest := hslot.2
      simp only [cap, SimKernel.cap, hslots, IdMap.get?_insert, if_neg hne]

/-- A call that fails does so by plan, or because the kernel fails. -/
theorem error_of_kernelCall {call : KernelCall} {x : Attempt SimKernel α} {e : Failure}
    (h : (kernelCall call x w).1 = .error e) :
    (w.rest.kernelFaults.next call).1 = some e ∨ (x w.rest.kernel).1 = .error e := by
  rcases hnext : w.rest.kernelFaults.next call with ⟨_ | e', plan⟩
  · simp only [kernelCall, Attempt.on_apply, FaultPlan.guard, World.restPart, kernelFaultsPart,
      kernelPart, hnext] at h
    exact .inr h
  · simp only [kernelCall, Attempt.on_apply, FaultPlan.guard, World.restPart, kernelFaultsPart,
      hnext, Except.error.injEq] at h
    exact .inl (congrArg some h)

/-- Minting into an empty slot does not find it occupied. -/
theorem mint_ne_slotOccupied {k : SimKernel} (h : k.cap dest = none) (src : CapPtr)
    (badge : Badge) :
    (SimKernel.mint dest src badge k).1 ≠ .error (.kernel SimKernel.slotOccupied) := by
  have hinjected : Failure.kernel SimKernel.injectedFailure ≠ .kernel SimKernel.slotOccupied := by
    decide
  rw [SimKernel.mint]
  split
  · exact fun e => hinjected (Except.error.inj e)
  · simp [place_eq_ok h]

/-- Nor does receiving into one. -/
theorem accept_ne_slotOccupied {k : SimKernel} (h : k.cap dest = none) (index : Nat) :
    (SimKernel.accept dest index k).1 ≠ .error (.kernel SimKernel.slotOccupied) := by
  rw [SimKernel.accept]
  split
  · simp [place_eq_ok h]
  · simp

theorem cap_revoke (slot : CapPtr) (w : World (Machine ν)) :
    cap (guardedKernel.revoke slot w).2 = cap w :=
  cap_of_slots_eq (slots_kernelCall (slots_revoke slot) w)

/-- Deleting empties the slot and no other one, or fails and leaves all slots alone. -/
theorem cap_delete (slot : CapPtr) (w : World (Machine ν)) :
    (∃ e w', guardedKernel.delete slot w = (.error e, w') ∧ cap w' = cap w) ∨
      ∃ w', guardedKernel.delete slot w = (.ok (), w') ∧
        ∀ j, cap w' j = if j = slot then none else cap w j := by
  obtain ⟨plan, ⟨e, hcall⟩ | hcall⟩ := kernelCall_cases .delete (SimKernel.delete slot) w
  · exact .inl ⟨e, _, hcall, rfl⟩
  · exact .inr ⟨_, hcall, fun j => IdMap.get?_erase _ _ _⟩

/-- Receiving puts a capability of the last message into an empty slot, or fails and leaves all
slots alone. -/
theorem cap_accept (dest : CapPtr) (index : Nat) (w : World (Machine ν)) :
    (∃ e w', guardedKernel.accept dest index w = (.error e, w') ∧ cap w' = cap w) ∨
      ∃ object w', guardedKernel.accept dest index w = (.ok (), w') ∧ cap w dest = none ∧
        w.rest.kernel.received[index]? = some object ∧
        ∀ j, cap w' j = if j = dest then some ⟨object, Badge.none⟩ else cap w j := by
  obtain ⟨plan, ⟨e, hcall⟩ | hcall⟩ := kernelCall_cases .accept (SimKernel.accept dest index) w
  · exact .inl ⟨e, _, hcall, rfl⟩
  rcases hreceived : w.rest.kernel.received[index]? with _ | object
  · have haccept : SimKernel.accept dest index w.rest.kernel = (.error .malformed, w.rest.kernel) :=
      by simp only [SimKernel.accept, hreceived]
    rw [haccept] at hcall
    exact .inl ⟨_, _, hcall, rfl⟩
  · have haccept : SimKernel.accept dest index w.rest.kernel =
        SimKernel.place dest ⟨object, Badge.none⟩ w.rest.kernel := by
      simp only [SimKernel.accept, hreceived]
    rcases place_cases dest ⟨object, Badge.none⟩ w.rest.kernel with
      ⟨e, hplace⟩ | ⟨hempty, hplace⟩
    · rw [haccept, hplace] at hcall
      exact .inl ⟨e, _, hcall, rfl⟩
    · rw [haccept, hplace] at hcall
      exact .inr ⟨object, _, hcall, hempty, rfl, fun j => IdMap.get?_insert _ _ _ _⟩

end Machine

/-! ## Using a capability space -/

/-- Whoever uses a capability space on the machine. -/
structure SlotUser (ν : Type) extends Holder (World (Machine ν)) where
  /-- The slots that were given up although the kernel refused to empty them. -/
  refused : List CapPtr

namespace SlotUser

open Machine (cap Fills)

/-- The ways of taking a slot. -/
inductive Taking (ν : Type)
  | alloc
  | mint (src : CapPtr) (badge : Badge)
  | accept (index : Nat)
  | allocFilled (fill : CapPtr → Attempt (World (Machine ν)) Unit)

/-- What is done with a capability space. -/
inductive Call (ν : Type)
  | take (how : Taking ν)
  | free (slot : CapPtr)
  | release (slot : CapPtr)
  | reclaim (slot : CapPtr)
  /-- Something happens elsewhere. -/
  | meanwhile (change : World (Machine ν) → World (Machine ν))

variable {ν : Type}

/-- A capability space on the machine. -/
abbrev Space (ν : Type) : Type := CapSpace (World (Machine ν))

/-- Take a slot in one of the ways. -/
def Taking.attempt : Taking ν → Attempt (Space ν) CapPtr
  | .alloc => CapSpace.alloc
  | .mint src badge => CapSpace.mint Machine.guardedKernel src badge
  | .accept index => CapSpace.accept Machine.guardedKernel index
  | .allocFilled fill => CapSpace.allocFilled fill

/-- Give a slot back, and give it up whatever comes of it. -/
def spend (slot : CapPtr) (x : Attempt (Space ν) Unit) (s : SlotUser ν) : SlotUser ν :=
  ⟨Holder.giveUp slot ⟨x.settle s.caps, s.held⟩,
    if (x s.caps).1.toBool then s.refused else slot :: s.refused⟩

/-- Carry out a call. -/
def step (s : SlotUser ν) : Call ν → SlotUser ν
  | .take how => ⟨(Holder.take how.attempt).settle s.toHolder, s.refused⟩
  | .free slot => s.spend slot (modify (CapSpace.free slot))
  | .release slot => s.spend slot (CapSpace.release Machine.guardedKernel slot)
  | .reclaim slot => s.spend slot (CapSpace.reclaim Machine.guardedKernel slot)
  | .meanwhile change => ⟨⟨⟨s.caps.slots, change s.caps.world⟩, s.held⟩, s.refused⟩

/-- Carry out one call after the other. -/
def run (s : SlotUser ν) (calls : List (Call ν)) : SlotUser ν := calls.foldl step s

/-- What may be done: a slot is given back by who holds it, without more ado only if nothing is in
it; and a capability comes into the range only where a slot is taken, and only with success. -/
def Allows (range : Set CapPtr) (s : SlotUser ν) : Call ν → Prop
  | .take (.allocFilled fill) => ∀ dest slots, s.caps.slots.alloc = some (dest, slots) →
      Fills range dest s.caps.world (fill dest s.caps.world)
  | .take _ => True
  | .free slot => slot ∈ s.held ∧ cap s.caps.world slot = none
  | .release slot => slot ∈ s.held
  | .reclaim slot => slot ∈ s.held
  | .meanwhile change => range.EqOn (cap (change s.caps.world)) (cap s.caps.world)

/-- Each call in turn may be made. -/
def AllowsAll (range : Set CapPtr) : SlotUser ν → List (Call ν) → Prop
  | _, [] => True
  | s, call :: calls => s.Allows range call ∧ AllowsAll range (s.step call) calls

/-! ## What a call comes down to -/

variable {range : Set CapPtr} {s : SlotUser ν} {slot : CapPtr} {slots : SlotAllocator}
  {w : World (Machine ν)}

/-- What a slot is filled with; just taking it leaves it as it is. -/
def Taking.filling : Taking ν → CapPtr → Attempt (World (Machine ν)) Unit
  | .alloc => fun _ => pure ()
  | .mint src badge => fun dest => Machine.guardedKernel.mint dest src badge
  | .accept index => fun dest => Machine.guardedKernel.accept dest index
  | .allocFilled fill => fill

theorem Taking.attempt_eq (how : Taking ν) :
    how.attempt = CapSpace.allocFilled how.filling := by
  cases how with
  | alloc =>
    funext c
    simp only [attempt, filling, CapSpace.allocFilled, CapSpace.alloc, Attempt.bind_apply]
    rcases c.slots.alloc with _ | ⟨slot, slots⟩
    · rfl
    · rfl
  | _ => rfl

/-- Whatever slot is taken, the rest of the range stays as it is. -/
theorem Allows.fills {how : Taking ν} (h : s.Allows range (.take how))
    (halloc : s.caps.slots.alloc = some (slot, slots)) :
    Fills range slot s.caps.world (how.filling slot s.caps.world) := by
  cases how with
  | alloc => exact .filled fun _ _ => rfl
  | mint src badge => exact Machine.fills_kernelCall (Machine.places_mint slot src badge) range _
  | accept index => exact Machine.fills_kernelCall (Machine.places_accept slot index) range _
  | allocFilled fill => exact h slot slots halloc

/-- Giving a slot back: the slot is empty then, and the allocator has it; or the kernel refuses, and
the allocator does not get it. -/
inductive Empties (range : Set CapPtr) (slot : CapPtr) (c : Space ν) :
    Except Failure Unit × Space ν → Prop
  | emptied {w : World (Machine ν)} (empty : cap w slot = none)
      (others : (range \ {slot}).EqOn (cap w) (cap c.world)) :
      Empties range slot c (.ok (), ⟨c.slots.free slot, w⟩)
  | refused {e : Failure} {w : World (Machine ν)} (same : range.EqOn (cap w) (cap c.world)) :
      Empties range slot c (.error e, ⟨c.slots, w⟩)

theorem empties_free {c : Space ν} (h : cap c.world slot = none) (range : Set CapPtr) :
    Empties range slot c ((modify (CapSpace.free slot) : Attempt (Space ν) Unit) c) :=
  .emptied h fun _ _ => rfl

theorem empties_release (range : Set CapPtr) (slot : CapPtr) (c : Space ν) :
    Empties range slot c (CapSpace.release Machine.guardedKernel slot c) := by
  rw [CapSpace.release_apply]
  rcases Machine.cap_delete slot c.world with ⟨e, w, hdelete, hcap⟩ | ⟨w, hdelete, hcap⟩
  · rw [hdelete]
    exact .refused fun j _ => congrFun hcap j
  · rw [hdelete]
    refine .emptied ?_ fun j hj => ?_
    · rw [hcap, if_pos rfl]
    · have hne : j ≠ slot := hj.2
      rw [hcap, if_neg hne]

theorem Empties.of_cap_eq {c : Space ν} {r : Except Failure Unit × Space ν}
    (h : Empties range slot ⟨c.slots, w⟩ r) (hcap : cap w = cap c.world) :
    Empties range slot c r := by
  cases h with
  | emptied empty others => exact .emptied empty fun j hj => (others hj).trans (congrFun hcap j)
  | refused same => exact .refused fun j hj => (same hj).trans (congrFun hcap j)

theorem empties_reclaim (range : Set CapPtr) (slot : CapPtr) (c : Space ν) :
    Empties range slot c (CapSpace.reclaim Machine.guardedKernel slot c) := by
  have hcap := Machine.cap_revoke slot c.world
  rw [CapSpace.reclaim_apply]
  rcases hrevoke : Machine.guardedKernel.revoke slot c.world with ⟨e | ⟨⟩, w⟩
  · rw [hrevoke] at hcap
    exact .refused fun j _ => congrFun hcap j
  · rw [hrevoke] at hcap
    exact (empties_release range slot ⟨c.slots, w⟩).of_cap_eq hcap

/-! ## Tidiness -/

/-- What is not taken is empty, and what is held or was refused is taken, by one alone. -/
structure Tidy (range : Set CapPtr) (s : SlotUser ν) : Prop where
  roomy : s.caps.slots.pool.Roomy
  range_eq : Set.Ico s.caps.slots.pool.start s.caps.slots.pool.stop = range
  vacant : ∀ slot ∈ range, s.caps.slots.pool.isTaken slot = false → cap s.caps.world slot = none
  nodup : (s.held ++ s.refused).Nodup
  taken : ∀ slot ∈ s.held ++ s.refused, s.caps.slots.pool.isTaken slot = true

theorem range_of_frame_eq {p q : Pool} (h : q.frame = p.frame) :
    Set.Ico q.start q.stop = Set.Ico p.start p.stop := by
  simp only [Pool.frame, Prod.mk.injEq] at h
  rw [h.1, h.2.1]

namespace Tidy

/-- A slot to be taken is empty, and neither held nor refused. -/
theorem fresh (h : s.Tidy range) (halloc : s.caps.slots.alloc = some (slot, slots)) :
    slot ∈ range ∧ cap s.caps.world slot = none ∧ slot ∉ s.held ++ s.refused := by
  obtain ⟨hrange, hfree, -, -⟩ := SlotAllocator.alloc_spec halloc
  have hmem : slot ∈ range := h.range_eq ▸ hrange
  refine ⟨hmem, h.vacant slot hmem hfree, fun htaken => ?_⟩
  rw [h.taken slot htaken] at hfree
  cases hfree

theorem obtain (h : s.Tidy range) (halloc : s.caps.slots.alloc = some (slot, slots))
    (hothers : (range \ {slot}).EqOn (cap w) (cap s.caps.world)) :
    Tidy range ⟨⟨⟨slots, w⟩, slot :: s.held⟩, s.refused⟩ := by
  obtain ⟨-, -, hfresh⟩ := h.fresh halloc
  obtain ⟨-, -, hframe, htaken⟩ := SlotAllocator.alloc_spec halloc
  refine ⟨h.roomy.of_frame_eq hframe, (range_of_frame_eq hframe).trans h.range_eq,
    fun j hj hfree => ?_, List.nodup_cons.2 ⟨hfresh, h.nodup⟩, fun j hj => (htaken j).2 ?_⟩
  · rw [Bool.eq_false_iff, Ne, htaken, not_or] at hfree
    rw [hothers ⟨hj, hfree.1⟩]
    exact h.vacant j hj (Bool.eq_false_iff.2 hfree.2)
  · exact (List.mem_cons.1 hj).imp_right (h.taken j)

theorem giveBack (h : s.Tidy range) (hslot : slot ∈ s.held) (hempty : cap w slot = none)
    (hothers : (range \ {slot}).EqOn (cap w) (cap s.caps.world)) :
    Tidy range ⟨⟨⟨s.caps.slots.free slot, w⟩, s.held.erase slot⟩, s.refused⟩ := by
  have hframe := Pool.frame_free s.caps.slots.pool slot
  have hback := Pool.isTaken_free h.roomy slot
  have hperm : (s.held ++ s.refused).Perm (slot :: (s.held.erase slot ++ s.refused)) :=
    (List.perm_cons_erase hslot).append_right _
  have hnodup := List.nodup_cons.1 (hperm.nodup_iff.1 h.nodup)
  refine ⟨h.roomy.of_frame_eq hframe, (range_of_frame_eq hframe).trans h.range_eq,
    fun j hj hfree => ?_, hnodup.2,
    fun j hj => (hback j).2 ⟨?_, h.taken j (hperm.mem_iff.2 (List.mem_cons_of_mem _ hj))⟩⟩
  · by_cases heq : j = slot
    · rw [heq]
      exact hempty
    · rw [hothers ⟨hj, heq⟩]
      apply h.vacant j hj
      rw [Bool.eq_false_iff]
      exact fun htaken => Bool.eq_false_iff.1 hfree ((hback j).2 ⟨heq, htaken⟩)
  · rintro rfl
    exact hnodup.1 hj

/-- Taking a slot in vain comes to taking it and giving it back. -/
theorem putBack (h : s.Tidy range) (halloc : s.caps.slots.alloc = some (slot, slots))
    (hsame : range.EqOn (cap w) (cap s.caps.world)) :
    Tidy range ⟨⟨⟨slots.free slot, w⟩, s.held⟩, s.refused⟩ := by
  obtain ⟨hmem, hempty, -⟩ := h.fresh halloc
  have hobtain := h.obtain halloc fun j hj => hsame hj.1
  have hback := hobtain.giveBack List.mem_cons_self ((hsame hmem).trans hempty) fun _ _ => rfl
  rwa [List.erase_cons_head] at hback

theorem withhold (h : s.Tidy range) (hslot : slot ∈ s.held)
    (hsame : range.EqOn (cap w) (cap s.caps.world)) :
    Tidy range ⟨⟨⟨s.caps.slots, w⟩, s.held.erase slot⟩, slot :: s.refused⟩ := by
  have hperm : (s.held ++ s.refused).Perm (s.held.erase slot ++ slot :: s.refused) :=
    ((List.perm_cons_erase hslot).append_right _).trans List.perm_middle.symm
  refine ⟨h.roomy, h.range_eq, fun j hj hfree => ?_, hperm.nodup_iff.1 h.nodup,
    fun j hj => h.taken j (hperm.mem_iff.2 hj)⟩
  rw [hsame hj]
  exact h.vacant j hj hfree

theorem elsewhere (h : s.Tidy range) (hsame : range.EqOn (cap w) (cap s.caps.world)) :
    Tidy range ⟨⟨⟨s.caps.slots, w⟩, s.held⟩, s.refused⟩ := by
  refine ⟨h.roomy, h.range_eq, fun j hj hfree => ?_, h.nodup, h.taken⟩
  rw [hsame hj]
  exact h.vacant j hj hfree

end Tidy

/-! ## One call -/

/-- Taking a slot: there is none, or it is held, or it could not be filled and goes back. -/
theorem step_take_cases {how : Taking ν} (hallows : s.Allows range (.take how)) :
    (s.caps.slots.alloc = none ∧ s.step (.take how) = s) ∨
      ∃ slot slots w, s.caps.slots.alloc = some (slot, slots) ∧
        ((range \ {slot}).EqOn (cap w) (cap s.caps.world) ∧
            s.step (.take how) = ⟨⟨⟨slots, w⟩, slot :: s.held.erase slot⟩, s.refused⟩ ∨
          range.EqOn (cap w) (cap s.caps.world) ∧
            s.step (.take how) = ⟨⟨⟨slots.free slot, w⟩, s.held⟩, s.refused⟩) := by
  have hstep : s.step (.take how) = ⟨(Holder.take (CapSpace.allocFilled how.filling)).settle
      s.toHolder, s.refused⟩ := by
    rw [step, how.attempt_eq]
  simp only [hstep, Holder.take, Attempt.settle, Attempt.bind_apply, Attempt.on_apply,
    Holder.capsPart]
  rcases s.caps.allocFilled_cases how.filling with
    ⟨hnone, hfilled⟩ | ⟨slot, slots, w, halloc, ⟨hfill, hfilled⟩ | ⟨e, hfill, hfilled⟩⟩
  · exact .inl ⟨hnone, by rw [hfilled]⟩
  · have hfills := hallows.fills halloc
    rw [hfill] at hfills
    cases hfills with
    | filled others => exact .inr ⟨slot, slots, w, halloc, .inl ⟨others, by rw [hfilled]; rfl⟩⟩
  · have hfills := hallows.fills halloc
    rw [hfill] at hfills
    cases hfills with
    | failed same => exact .inr ⟨slot, slots, w, halloc, .inr ⟨same, by rw [hfilled]⟩⟩

theorem Tidy.take (h : s.Tidy range) {how : Taking ν} (hallows : s.Allows range (.take how)) :
    (s.step (.take how)).Tidy range := by
  rcases step_take_cases hallows with
    ⟨-, hstep⟩ | ⟨slot, slots, w, halloc, ⟨hothers, hstep⟩ | ⟨hsame, hstep⟩⟩
  · rw [hstep]
    exact h
  · have hheld : slot ∉ s.held := fun hmem => (h.fresh halloc).2.2 (List.mem_append_left _ hmem)
    rw [hstep, List.erase_of_not_mem hheld]
    exact h.obtain halloc hothers
  · rw [hstep]
    exact h.putBack halloc hsame

theorem Tidy.spend (h : s.Tidy range) (hslot : slot ∈ s.held) {x : Attempt (Space ν) Unit}
    (hx : Empties range slot s.caps (x s.caps)) : (s.spend slot x).Tidy range := by
  rw [SlotUser.spend, Attempt.settle]
  generalize x s.caps = r at hx
  cases hx with
  | emptied empty others => exact h.giveBack hslot empty others
  | refused same => exact h.withhold hslot same

theorem Tidy.step (h : s.Tidy range) {call : Call ν} (hallows : s.Allows range call) :
    (s.step call).Tidy range := by
  cases call with
  | take how => exact h.take hallows
  | free slot => exact h.spend hallows.1 (empties_free hallows.2 range)
  | release slot => exact h.spend hallows (empties_release range slot s.caps)
  | reclaim slot => exact h.spend hallows (empties_reclaim range slot s.caps)
  | meanwhile change => exact h.elsewhere hallows

theorem Tidy.run (h : s.Tidy range) {calls : List (Call ν)}
    (hallows : s.AllowsAll range calls) : (s.run calls).Tidy range := by
  induction calls generalizing s with
  | nil => exact h
  | cons call calls ih => exact ih (h.step hallows.1) hallows.2

/-- Of what is in the range, giving a slot back removes at most what is in that slot. -/
theorem Empties.cap_eq {c : Space ν} {r : Except Failure Unit × Space ν}
    (h : Empties range slot c r) {j : CapPtr} (hj : j ∈ range) :
    cap r.2.world j = cap c.world j ∨ j = slot ∧ cap r.2.world j = none := by
  cases h with
  | emptied empty others =>
    by_cases hslot : j = slot
    · exact .inr ⟨hslot, hslot ▸ empty⟩
    · exact .inl (others ⟨hj, hslot⟩)
  | refused same => exact .inl (same hj)

/-- A capability in the range stays where it is until its slot is released or reclaimed. -/
theorem Tidy.kept (h : s.Tidy range) {call : Call ν} (hallows : s.Allows range call) {j : CapPtr}
    (hj : j ∈ range) {c : SimCap} (hc : cap s.caps.world j = some c) :
    cap (s.step call).caps.world j = some c ∨
      (call = .release j ∨ call = .reclaim j) ∧ cap (s.step call).caps.world j = none := by
  cases call with
  | take how =>
    left
    rcases step_take_cases hallows with
      ⟨-, hstep⟩ | ⟨slot, slots, w, halloc, ⟨hothers, hstep⟩ | ⟨hsame, hstep⟩⟩
    · rw [hstep]
      exact hc
    · -- The slot taken was empty, so it is not the one of the capability.
      have hne : j ≠ slot := by
        rintro rfl
        rw [(h.fresh halloc).2.1] at hc
        cases hc
      rw [hstep]
      exact (hothers ⟨hj, hne⟩).trans hc
    · rw [hstep]
      exact (hsame hj).trans hc
  | free slot => exact .inl hc
  | release slot =>
    rcases (empties_release range slot s.caps).cap_eq hj with hcap | ⟨rfl, hcap⟩
    · exact .inl (hcap.trans hc)
    · exact .inr ⟨.inl rfl, hcap⟩
  | reclaim slot =>
    rcases (empties_reclaim range slot s.caps).cap_eq hj with hcap | ⟨rfl, hcap⟩
    · exact .inl (hcap.trans hc)
    · exact .inr ⟨.inr rfl, hcap⟩
  | meanwhile change => exact .inl ((hallows hj).trans hc)

/-- A failure that an empty slot never gives rise to was planned. -/
theorem Tidy.planned (h : s.Tidy range) {call : KernelCall}
    {x : CapPtr → Attempt SimKernel Unit} {e : Failure} (he : e ≠ .resourceExhausted)
    (hx : ∀ dest k, k.cap dest = none → (x dest k).1 ≠ .error e)
    (herror : (CapSpace.allocFilled (fun dest => Machine.kernelCall call (x dest)) s.caps).1 =
      .error e) :
    (s.caps.world.rest.kernelFaults.next call).1 = some e := by
  rcases s.caps.allocFilled_cases fun dest => Machine.kernelCall call (x dest) with
    ⟨-, hfilled⟩ | ⟨slot, slots, w, halloc, ⟨-, hfilled⟩ | ⟨e', hfill, hfilled⟩⟩
  · rw [hfilled] at herror
    exact absurd (Except.error.inj herror).symm he
  · rw [hfilled] at herror
    cases herror
  · rw [hfilled] at herror
    cases herror
    rcases Machine.error_of_kernelCall (congrArg Prod.fst hfill) with hplan | hkernel
    · exact hplan
    · exact absurd hkernel (hx slot _ (h.fresh halloc).2.1)

/-! ## Slots that could not be emptied -/

theorem refused_subset_step (s : SlotUser ν) (call : Call ν) :
    s.refused ⊆ (s.step call).refused := by
  have hspend : ∀ slot x, s.refused ⊆ (s.spend slot x).refused := by
    intro slot x j hj
    rw [SlotUser.spend]
    split
    · exact hj
    · exact List.mem_cons_of_mem _ hj
  cases call with
  | take how => exact fun _ hj => hj
  | free slot => exact hspend slot _
  | release slot => exact hspend slot _
  | reclaim slot => exact hspend slot _
  | meanwhile change => exact fun _ hj => hj

theorem refused_subset_run (s : SlotUser ν) (calls : List (Call ν)) :
    s.refused ⊆ (s.run calls).refused := by
  induction calls generalizing s with
  | nil => exact fun _ hj => hj
  | cons call calls ih => exact fun _ hj => ih (s.step call) (s.refused_subset_step call hj)

theorem Tidy.not_isFree (h : s.Tidy range) (hslot : slot ∈ s.refused) :
    s.caps.slots.isFree slot = false := by
  rw [SlotAllocator.isFree, Bool.eq_false_iff, Ne, Pool.isFree_iff,
    h.taken slot (List.mem_append_right _ hslot)]
  simp

/-! ## All of it -/

/-- What recycling slots of a range is to guarantee. -/
structure Recycles (range : Set CapPtr) (s : SlotUser ν) : Prop where
  /-- The slot that is taken next is empty. It belongs to nobody, and the kernel never refused to
  empty it. -/
  fresh : ∀ slot slots, s.caps.slots.alloc = some (slot, slots) →
    slot ∈ range ∧ cap s.caps.world slot = none ∧ slot ∉ s.held ∧ slot ∉ s.refused
  /-- Whichever way a slot is taken, it is this one. -/
  taken : ∀ (how : Taking ν) slot, (how.attempt s.caps).1 = .ok slot →
    s.caps.slots.alloc.map Prod.fst = some slot
  /-- Minting finds its slot occupied only if the plan says that it does. -/
  mint : ∀ src badge, (CapSpace.mint Machine.guardedKernel src badge s.caps).1 =
      .error (.kernel SimKernel.slotOccupied) →
    (s.caps.world.rest.kernelFaults.next .mint).1 = some (.kernel SimKernel.slotOccupied)
  /-- So does receiving. -/
  accept : ∀ index, (CapSpace.accept Machine.guardedKernel index s.caps).1 =
      .error (.kernel SimKernel.slotOccupied) →
    (s.caps.world.rest.kernelFaults.next .accept).1 = some (.kernel SimKernel.slotOccupied)
  /-- No capability makes way for another: it stays until its slot is released or reclaimed. -/
  kept : ∀ call, s.Allows range call → ∀ slot ∈ range, ∀ c, cap s.caps.world slot = some c →
    cap (s.step call).caps.world slot = some c ∨
      (call = .release slot ∨ call = .reclaim slot) ∧ cap (s.step call).caps.world slot = none
  /-- A slot that the kernel refused to empty is not free at any later time. -/
  withheld : ∀ slot ∈ s.refused, ∀ calls, s.AllowsAll range calls →
    (s.run calls).caps.slots.isFree slot = false

/-- A slot that was taken is the one that the allocator had to give. -/
theorem Taking.attempt_eq_ok {how : Taking ν} {c : Space ν} (h : (how.attempt c).1 = .ok slot) :
    c.slots.alloc.map Prod.fst = some slot := by
  rw [how.attempt_eq] at h
  rcases c.allocFilled_cases how.filling with
    ⟨-, hfilled⟩ | ⟨slot', slots, w, halloc, ⟨-, hfilled⟩ | ⟨e, -, hfilled⟩⟩
  · simp [hfilled] at h
  · rw [hfilled, Except.ok.injEq] at h
    rw [halloc, ← h]
    rfl
  · simp [hfilled] at h

theorem Tidy.recycles (h : s.Tidy range) : s.Recycles range where
  fresh slot slots halloc := by
    obtain ⟨hmem, hempty, hfresh⟩ := h.fresh halloc
    rw [List.mem_append, not_or] at hfresh
    exact ⟨hmem, hempty, hfresh⟩
  taken how slot hok := Taking.attempt_eq_ok hok
  mint src badge herror := h.planned (fun e => nomatch e)
    (fun dest k hempty => Machine.mint_ne_slotOccupied hempty src badge) herror
  accept index herror := h.planned (fun e => nomatch e)
    (fun dest k hempty => Machine.accept_ne_slotOccupied hempty index) herror
  kept call hallows slot hslot c hc := h.kept hallows hslot hc
  withheld slot hslot calls hallows :=
    (h.run hallows).not_isFree (s.refused_subset_run calls hslot)

/-- A capability space whose slots are all still to be taken. -/
def begin (slots : SlotAllocator) (w : World (Machine ν)) : SlotUser ν := ⟨⟨⟨slots, w⟩, []⟩, []⟩

theorem range_ofRange {start stop : CapPtr} (h : SlotAllocator.ofRange start stop = .ok slots) :
    Set.Ico slots.pool.start slots.pool.stop = Set.Ico start stop := by
  rw [SlotAllocator.ofRange] at h
  split at h
  · cases h
  · next hle =>
    cases h
    exact congrArg (Set.Ico start) (Nat.max_eq_left (Nat.not_lt.1 hle))

theorem range_ofFixed {room : Nat} {start stop : CapPtr}
    (h : SlotAllocator.ofFixed room start stop = .ok slots) :
    Set.Ico slots.pool.start slots.pool.stop = Set.Ico start stop := by
  rw [SlotAllocator.ofFixed] at h
  split at h
  · cases h
  · next hle =>
    simp only [Bool.or_eq_true, decide_eq_true_eq, not_or] at hle
    cases h
    exact congrArg (Set.Ico start) (Nat.max_eq_left (Nat.not_lt.1 hle.1))

theorem tidy_begin {start stop : CapPtr}
    (hslots : SlotAllocator.ofRange start stop = .ok slots ∨
      ∃ room, SlotAllocator.ofFixed room start stop = .ok slots)
    (hempty : ∀ slot ∈ Set.Ico start stop, cap w slot = none) :
    (begin slots w).Tidy (Set.Ico start stop) := by
  have hmade : slots.Made ∧ Set.Ico slots.pool.start slots.pool.stop = Set.Ico start stop := by
    rcases hslots with hslots | ⟨room, hslots⟩
    · exact ⟨.ofRange hslots, range_ofRange hslots⟩
    · exact ⟨.ofFixed hslots, range_ofFixed hslots⟩
  exact ⟨hmade.1.roomy, hmade.2, fun slot hslot _ => hempty slot hslot, List.nodup_nil,
    fun _ hj => nomatch hj⟩

/-- **A recycled slot is empty.** Let the slots of a range be empty at first. Then whatever is done,
and whenever the kernel fails, slots are recycled as `Recycles` says. -/
theorem recycles_run {start stop : CapPtr}
    (hslots : SlotAllocator.ofRange start stop = .ok slots ∨
      ∃ room, SlotAllocator.ofFixed room start stop = .ok slots)
    (hempty : ∀ slot ∈ Set.Ico start stop, cap w slot = none) {calls : List (Call ν)}
    (hcalls : (begin slots w).AllowsAll (Set.Ico start stop) calls) :
    ((begin slots w).run calls).Recycles (Set.Ico start stop) :=
  ((tidy_begin hslots hempty).run hcalls).recycles

/-- Two slots, of which one is used over and over, and the other one cannot be emptied. -/
theorem recycles_run_with_failures :
    let plan : FaultPlan KernelCall :=
      ⟨fun call => if call = .mint ∨ call = .delete then [some .notFound] else []⟩
    let w : World (Machine Unit) := ⟨.empty, { Machine.fresh () with kernelFaults := plan }⟩
    let calls : List (Call Unit) := [.take (.mint 1 7), .take (.mint 1 7), .take .alloc, .free 101,
      .take (.accept 0), .release 100, .take (.mint 1 8), .take .alloc, .reclaim 101,
      .take (.allocFilled fun dest => Machine.kernelCall .mint (SimKernel.mint dest 1 9))]
    ∃ slots, SlotAllocator.ofRange 100 102 = .ok slots ∧
      (begin slots w).AllowsAll (Set.Ico 100 102) calls ∧
      ((begin slots w).run calls).refused = [100] ∧ ((begin slots w).run calls).held = [101] ∧
      ((begin slots w).run calls).Recycles (Set.Ico 100 102) := by
  intro plan w calls
  have hslots : SlotAllocator.ofRange 100 102 = .ok ⟨.ofRange 100 102⟩ := rfl
  have hcalls : (begin ⟨.ofRange 100 102⟩ w).AllowsAll (Set.Ico 100 102) calls := by
    refine ⟨trivial, trivial, trivial, ⟨?_, ?_⟩, trivial, ?_, trivial, trivial, ?_, ?_, trivial⟩
    · decide +kernel
    · decide +kernel
    · show 100 ∈ _
      decide +kernel
    · show 101 ∈ _
      decide +kernel
    · exact fun dest _ _ => Machine.fills_kernelCall (Machine.places_mint dest 1 9) _ _
  have hempty : ∀ slot ∈ Set.Ico 100 102, cap w slot = none := fun _ _ => rfl
  refine ⟨_, hslots, hcalls, ?_, ?_, recycles_run (.inl hslots) hempty hcalls⟩
  · decide +kernel
  · decide +kernel

end SlotUser

end CapServer
