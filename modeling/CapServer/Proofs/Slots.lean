import CapServer.Proofs.Alike
import CapServer.Proofs.CapSpace
import CapServer.Sim.Machine
import Mathlib.Data.Finset.Basic

/-!
# Slots before and after there is a heap

A slot allocator keeps the slots that were given back in a buffer that grows, or in one of a fixed
size if there is no heap yet. The fixed one has to be able to hold the whole range, and then nobody
can tell the two apart (`SlotAllocator.fixed_eq_growing`): the slots given back are in the range and
differ from each other, so there are never too many of them.

What callers hold is read off the answers (`SlotAllocator.Call.hold`). All other slots of the range
are free at all times, so none is ever lost.
-/

namespace CapServer

namespace SlotAllocator

variable {ω υ : Type} {R : ω → υ → Prop} {k : Kernel ω} {l : Kernel υ}

/-! ## Calls -/

/-- What a slot allocator can be asked. -/
inductive Call
  | alloc
  | free (slot : CapPtr)
  /-- Delete the capability in a slot, then free the slot. -/
  | release (slot : CapPtr)
  | isFree (slot : CapPtr)
  | inUse
  | available
  deriving DecidableEq, Repr

/-- What it answers if it does not fail. -/
inductive Answer
  | slot (taken : Option CapPtr)
  | done
  | flag (isFree : Bool)
  | count (n : Nat)
  deriving DecidableEq, Repr

/-- Carry out a call. Only a release can fail, if the kernel refuses to delete. -/
def Call.attempt (k : Kernel ω) : Call → Attempt (CapSpace ω) Answer
  | .alloc => fun c =>
    match c.slots.alloc with
    | some (slot, slots) => (.ok (.slot (some slot)), { c with slots := slots })
    | none => (.ok (.slot none), c)
  | .free slot => do
    modify (CapSpace.free slot)
    return .done
  | .release slot => do
    CapSpace.release k slot
    return .done
  | .isFree slot => fun c => (.ok (.flag (c.slots.isFree slot)), c)
  | .inUse => fun c => (.ok (.count c.slots.inUse), c)
  | .available => fun c => (.ok (.count c.slots.available), c)

/-- Carry out one call after the other, and note the answers. -/
def askAll (k : Kernel ω) (calls : List Call) (c : CapSpace ω) :
    List (Except Failure Answer) × CapSpace ω :=
  Attempt.inTurn (calls.map (Call.attempt k)) c

/-- The slots that callers hold after a call that was answered. -/
def Call.hold (held : Finset CapPtr) : Call → Except Failure Answer → Finset CapPtr
  | .alloc, .ok (.slot (some slot)) => insert slot held
  | .free slot, _ => held.erase slot
  | .release slot, .ok _ => held.erase slot
  | _, _ => held

/-- The slots that callers hold after some calls that were answered, if they held some before. -/
def holdAll (held : Finset CapPtr) (calls : List Call) (answers : List (Except Failure Answer)) :
    Finset CapPtr :=
  (calls.zip answers).foldl (fun held e => e.1.hold held e.2) held

/-! ## Two allocators with one supply -/

/-- Allocators with the same supply answer alike, if their kernels delete alike. -/
theorem Call.alike_attempt (hdelete : ∀ slot, (k.delete slot).Alike (l.delete slot) R)
    (call : Call) : (call.attempt k).Alike (call.attempt l) (CapSpace.Alike R) := by
  cases call with
  | alloc =>
    intro c d h
    obtain ⟨hc, hd⟩ | ⟨slot, p, q, hc, hd, hpq⟩ := h.1.alloc_cases
    · simp only [attempt, SlotAllocator.alloc, hc, hd, Option.map_none]
      exact ⟨trivial, h⟩
    · simp only [attempt, SlotAllocator.alloc, hc, hd, Option.map_some]
      exact ⟨trivial, hpq, h.2⟩
  | free slot => exact (CapSpace.alike_free slot).bind fun _ => .pure _
  | release slot => exact (CapSpace.alike_release (hdelete slot)).bind fun _ => .pure _
  | isFree slot =>
    intro c d h
    have hfree : c.slots.isFree slot = d.slots.isFree slot := h.1.isFree_eq slot
    exact ⟨by simp only [attempt, hfree], h⟩
  | inUse =>
    intro c d h
    have hcount : c.slots.inUse = d.slots.inUse := h.1.inUse_eq
    exact ⟨by simp only [attempt, hcount], h⟩
  | available =>
    intro c d h
    have hcount : c.slots.available = d.slots.available := h.1.available_eq
    exact ⟨by simp only [attempt, hcount], h⟩

/-! ## What is held -/

/-- An allocator over a range that can keep all of it, and of which just some slots are taken. -/
structure Holds (start stop : CapPtr) (a : SlotAllocator) (held : Finset CapPtr) : Prop where
  start_eq : a.pool.start = start
  stop_eq : a.pool.stop = stop
  roomy : a.pool.Roomy
  taken : ∀ slot, a.pool.isTaken slot = true ↔ slot ∈ held

namespace Holds

variable {start stop slot : CapPtr} {a b : SlotAllocator} {held held' : Finset CapPtr}
  {c : CapSpace ω}

theorem of_frame_eq (h : Holds start stop a held) (hframe : b.pool.frame = a.pool.frame)
    (htaken : ∀ slot, b.pool.isTaken slot = true ↔ slot ∈ held') : Holds start stop b held' where
  start_eq := (congrArg Prod.fst hframe).trans h.start_eq
  stop_eq := (congrArg (fun f => f.2.1) hframe).trans h.stop_eq
  roomy := h.roomy.of_frame_eq hframe
  taken := htaken

theorem free (h : Holds start stop a held) (slot : CapPtr) :
    Holds start stop (a.free slot) (held.erase slot) := by
  refine h.of_frame_eq (a.pool.frame_free slot) fun other => ?_
  rw [Finset.mem_erase, ← h.taken]
  exact Pool.isTaken_free h.roomy slot other

theorem call (h : Holds start stop c.slots held) (call : Call) :
    Holds start stop (call.attempt k c).2.slots (call.hold held (call.attempt k c).1) := by
  cases call with
  | alloc =>
    rcases halloc : c.slots.alloc with _ | ⟨slot, slots⟩
    · simp only [Call.attempt, halloc]
      exact h
    · obtain ⟨-, -, hframe, htaken⟩ := alloc_spec halloc
      simp only [Call.attempt, halloc]
      apply h.of_frame_eq hframe
      intro other
      rw [htaken, h.taken, Call.hold, Finset.mem_insert]
  | free slot => exact h.free slot
  | release slot =>
    rw [Call.attempt, Attempt.bind_apply, CapSpace.release_apply]
    rcases k.delete slot c.world with ⟨e | ⟨⟩, w⟩
    · exact h
    · exact h.free slot
  | isFree slot => exact h
  | inUse => exact h
  | available => exact h

theorem askAll (h : Holds start stop c.slots held) (calls : List Call) :
    Holds start stop (askAll k calls c).2.slots
      (holdAll held calls (SlotAllocator.askAll k calls c).1) := by
  induction calls generalizing c held with
  | nil => exact h
  | cons call calls ih => exact ih (h.call call)

theorem isFree_iff (h : Holds start stop a held) :
    a.isFree slot = true ↔ (start ≤ slot ∧ slot < stop) ∧ slot ∉ held := by
  rw [SlotAllocator.isFree_iff, ← h.taken, Bool.not_eq_true, and_assoc, h.start_eq, h.stop_eq]

/-- What is put back finds room if it was held. -/
theorem isSome_free?_iff (h : Holds start stop a held) :
    (a.pool.free? slot).isSome = true ↔ slot ∈ held := by
  rw [Pool.isSome_free?_iff h.roomy, h.taken]

end Holds

/-! ## The two allocators -/

/-- A new allocator holds no slot, whatever it keeps the freed ones in. -/
theorem holds_ofStore {start stop : CapPtr} {store : FreeStore} (hrange : start ≤ stop)
    (hroomy : (Pool.ofStore start stop store).Roomy) :
    Holds start stop ⟨.ofStore start stop store⟩ ∅ where
  start_eq := rfl
  stop_eq := Nat.max_eq_left hrange
  roomy := hroomy
  taken slot := by
    rw [Pool.isTaken_iff]
    simp only [Pool.ofStore, Finset.notMem_empty, iff_false]
    omega

/-- **A fixed buffer that can hold the range is as good as one that grows.** Both allocators can be
made, and whatever they are asked, they answer alike, as long as their kernels delete alike. A slot
that is put back into the fixed buffer finds room if it was held. All other slots of the range are
free, so none is lost. -/
theorem fixed_eq_growing (hdelete : ∀ slot, (k.delete slot).Alike (l.delete slot) R)
    {start stop : CapPtr} {room : Nat} (hrange : start ≤ stop) (hroom : stop - start ≤ room)
    {w : ω} {v : υ} (hR : R w v) :
    ∃ a b, ofRange start stop = .ok a ∧ ofFixed room start stop = .ok b ∧
      ∀ calls : List Call,
        let growing := askAll k calls ⟨a, w⟩
        let fixed := askAll l calls ⟨b, v⟩
        let held := holdAll ∅ calls fixed.1
        fixed.1 = growing.1 ∧ R growing.2.world fixed.2.world ∧
          (∀ slot, (fixed.2.slots.pool.free? slot).isSome = true ↔ slot ∈ held) ∧
          ∀ slot, fixed.2.slots.isFree slot = true ↔
            (start ≤ slot ∧ slot < stop) ∧ slot ∉ held := by
  have hgrowing : ofRange start stop = .ok ⟨.ofRange start stop⟩ := by
    rw [ofRange, if_neg (Nat.not_lt.2 hrange)]
  have hfixed : ofFixed room start stop = .ok ⟨.ofStore start stop (.ofRoom (some room))⟩ := by
    rw [ofFixed, if_neg (by simp [hrange, hroom])]
  have hroomy := (Made.ofFixed hfixed).roomy
  have halike : (Pool.ofRange start stop).Alike (.ofStore start stop (.ofRoom (some room))) :=
    ⟨rfl, rfl, rfl, (Made.ofRange hgrowing).roomy, hroomy⟩
  refine ⟨_, _, hgrowing, hfixed, fun calls => ?_⟩
  have hseen : CapSpace.Alike R ⟨⟨.ofRange start stop⟩, w⟩ ⟨⟨.ofStore start stop _⟩, v⟩ :=
    ⟨halike, hR⟩
  obtain ⟨hanswers, -, hworlds⟩ :=
    Attempt.Alike.inTurn (fun call (_ : call ∈ calls) => call.alike_attempt hdelete) hseen
  have hholds : Holds start stop _ _ := (holds_ofStore hrange hroomy).askAll
    (k := l) (c := ⟨_, v⟩) calls
  exact ⟨hanswers.symm, hworlds, fun _ => hholds.isSome_free?_iff, fun _ => hholds.isFree_iff⟩

/-- The whole range of three slots is handed out and given back. A foreign slot is freed on the way,
one is freed twice, and the kernel refuses to delete once. -/
def sampleCalls : List Call :=
  [.alloc, .alloc, .alloc, .alloc, .free 7, .free 101, .free 101, .release 100, .isFree 100, .inUse,
    .release 100, .free 102, .available, .alloc]

/-- A machine that refuses its first deletion. -/
def sampleWorld : World (Machine Unit) :=
  ⟨.empty, { Machine.fresh () with
    kernelFaults := FaultPlan.empty.extend .delete [some (.kernel (-1))] }⟩

/-- A buffer of three entries holds them all. -/
theorem fixed_eq_growing_of_three :
    ∃ a b, ofRange 100 103 = .ok a ∧ ofFixed 3 100 103 = .ok b ∧
      (askAll Machine.guardedKernel sampleCalls ⟨b, sampleWorld⟩).1 =
        (askAll Machine.guardedKernel sampleCalls ⟨a, sampleWorld⟩).1 ∧
      (askAll Machine.guardedKernel sampleCalls ⟨b, sampleWorld⟩).1 =
        [.ok (.slot (some 100)), .ok (.slot (some 101)), .ok (.slot (some 102)), .ok (.slot none),
          .ok .done, .ok .done, .ok .done, .error (.kernel (-1)), .ok (.flag false), .ok (.count 2),
          .ok .done, .ok .done, .ok (.count 3), .ok (.slot (some 102))] := by
  have hdelete : ∀ slot, (Machine.guardedKernel.delete slot).Alike
      (Machine.guardedKernel.delete slot) (Eq (α := World (Machine Unit))) :=
    fun _ => Attempt.alike_self _
  have hrange : (100 : CapPtr) ≤ 103 := by decide
  have hroom : (103 : CapPtr) - 100 ≤ 3 := by decide
  obtain ⟨a, b, ha, hb, hcalls⟩ := fixed_eq_growing hdelete hrange hroom (Eq.refl sampleWorld)
  refine ⟨a, b, ha, hb, (hcalls sampleCalls).1, ?_⟩
  cases hb
  decide +kernel

end SlotAllocator

end CapServer
