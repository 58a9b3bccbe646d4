import CapServer.Proofs.CapSpace
import CapServer.Server.Basic

/-!
# Slots borrowed and given back

An operation that fails half-way has taken slots by then, and has to give them back. Until it has,
it borrows them: the space differs from the one it started in by slots that were free and empty
there, and by nothing else that is seen (`CapSpace.Borrows`). Filling a slot borrows it if that
succeeds (`Borrows.allocFilled`), discarding a borrowed one gives it back (`Borrows.discard`), and
when none is borrowed any more, all is as it was (`Borrows.isFree_eq`, `Borrows.inUse_eq`,
`Borrows.cap_eq`).

This takes a platform that is `Tidy`: what it cannot do it leaves alone, and it can always delete.
-/

namespace CapServer

/-! ## What is seen of a world -/

/-- What is seen of the world around a process: the capability in each slot, and who is watched. -/
structure View (ω γ τ : Type) where
  cap : ω → CapPtr → Option γ
  watches : ω → τ

namespace View

variable {ω γ τ α : Type} (v : View ω γ τ)

/-- Nothing that is seen has changed. -/
def Same (w w' : ω) : Prop := v.cap w' = v.cap w ∧ v.watches w' = v.watches w

/-- A slot that was empty is filled, and nothing else has changed. -/
def Filled (dest : CapPtr) (w w' : ω) : Prop :=
  v.cap w dest = none ∧ (∀ slot, slot ≠ dest → v.cap w' slot = v.cap w slot) ∧
    v.watches w' = v.watches w

/-- A slot is empty, and nothing else has changed. -/
def Emptied (slot : CapPtr) (w w' : ω) : Prop :=
  (∀ other, v.cap w' other = if other = slot then none else v.cap w other) ∧
    v.watches w' = v.watches w

/-- A call that keeps `I`. It changes what it should, or it fails and changes nothing. -/
structure Leaves (I : ω → Prop) (x : Attempt ω α) (change : ω → ω → Prop) : Prop where
  inv : ∀ w, I w → I (x w).2
  done : ∀ w, I w → ∀ a, (x w).1 = .ok a → change w (x w).2
  failed : ∀ w, I w → ∀ e, (x w).1 = .error e → v.Same w (x w).2

end View

/-- A platform on which a call that fails changes nothing, and no deletion fails. -/
structure Platform.Tidy {ω γ τ : Type} (p : Platform ω) (v : View ω γ τ) (I : ω → Prop) : Prop where
  mint : ∀ dest src badge, v.Leaves I (p.kernel.mint dest src badge) (v.Filled dest)
  accept : ∀ dest index, v.Leaves I (p.kernel.accept dest index) (v.Filled dest)
  delete : ∀ slot, v.Leaves I (p.kernel.delete slot) (v.Emptied slot)
  deletes : ∀ slot w, I w → (p.kernel.delete slot w).1 = .ok ()
  watch : ∀ liveness notifyEp,
    v.Leaves I (p.procs.watch liveness notifyEp) fun _ _ => True

namespace CapSpace

/-! ## Borrowed slots -/

variable {ω γ τ : Type} {v : View ω γ τ} {I : ω → Prop} {c c' : CapSpace ω} {slot : CapPtr}
  {slots : List CapPtr}

/-- Some slots are taken that were free and empty in another space. But for them, the same slots are
taken in both, and the same is seen. -/
structure Borrows (v : View ω γ τ) (I : ω → Prop) (c : CapSpace ω) (slots : List CapPtr)
    (c' : CapSpace ω) : Prop where
  inv : I c'.world
  roomy : c'.slots.pool.Roomy
  frame : c'.slots.pool.frame = c.slots.pool.frame
  nodup : slots.Nodup
  fresh : ∀ slot ∈ slots, c.slots.pool.isTaken slot = false ∧ v.cap c.world slot = none
  taken : ∀ slot, c'.slots.pool.isTaken slot = true ↔
    slot ∈ slots ∨ c.slots.pool.isTaken slot = true
  cap : ∀ slot, slot ∉ slots → v.cap c'.world slot = v.cap c.world slot
  watches : v.watches c'.world = v.watches c.world

namespace Borrows

theorem refl (hroomy : c.slots.pool.Roomy) (hinv : I c.world) : Borrows v I c [] c where
  inv := hinv
  roomy := hroomy
  frame := rfl
  nodup := List.nodup_nil
  fresh _ h := nomatch h
  taken slot := by simp
  cap _ _ := rfl
  watches := rfl

theorem perm {slots' : List CapPtr} (h : Borrows v I c slots c') (hp : slots.Perm slots') :
    Borrows v I c slots' c' where
  inv := h.inv
  roomy := h.roomy
  frame := h.frame
  nodup := hp.nodup_iff.1 h.nodup
  fresh slot hslot := h.fresh slot (hp.mem_iff.2 hslot)
  taken slot := by rw [h.taken, hp.mem_iff]
  cap slot hslot := h.cap slot fun hmem => hslot (hp.mem_iff.1 hmem)
  watches := h.watches

/-- What changes nothing that is seen borrows nothing and gives nothing back. -/
theorem of_same {w : ω} (h : Borrows v I c slots c') (hw : v.Same c'.world w) (hinv : I w) :
    Borrows v I c slots ⟨c'.slots, w⟩ :=
  { h with
    inv := hinv
    cap := fun slot hslot => (congrFun hw.1 slot).trans (h.cap slot hslot)
    watches := hw.2.trans h.watches }

/-- A slot that was taken and filled is borrowed. -/
theorem filled {a : SlotAllocator} {w : ω} (h : Borrows v I c slots c')
    (halloc : c'.slots.alloc = some (slot, a)) (hw : v.Filled slot c'.world w) (hinv : I w) :
    Borrows v I c (slot :: slots) ⟨a, w⟩ := by
  obtain ⟨-, hfree, hframe, htaken⟩ := SlotAllocator.alloc_spec halloc
  obtain ⟨hempty, hothers, hwatches⟩ := hw
  have hnew : ¬ (slot ∈ slots ∨ c.slots.pool.isTaken slot = true) := by
    rw [← h.taken, hfree]
    exact Bool.false_ne_true
  rw [not_or] at hnew
  constructor
  case inv => exact hinv
  case roomy => exact h.roomy.of_frame_eq hframe
  case frame => exact hframe.trans h.frame
  case nodup => exact List.nodup_cons.2 ⟨hnew.1, h.nodup⟩
  case fresh =>
    intro other hother
    obtain rfl | hother := List.mem_cons.1 hother
    · exact ⟨Bool.eq_false_iff.2 hnew.2, (h.cap other hnew.1).symm.trans hempty⟩
    · exact h.fresh other hother
  case taken =>
    intro other
    rw [htaken, h.taken, List.mem_cons, or_assoc]
  case cap =>
    intro other hother
    rw [List.mem_cons, not_or] at hother
    exact (hothers other hother.1).trans (h.cap other hother.2)
  case watches => exact hwatches.trans h.watches

/-- A slot that was taken and could not be filled is free again. -/
theorem unfilled {a : SlotAllocator} {w : ω} (h : Borrows v I c slots c')
    (halloc : c'.slots.alloc = some (slot, a)) (hw : v.Same c'.world w) (hinv : I w) :
    Borrows v I c slots ⟨a.free slot, w⟩ := by
  obtain ⟨-, hfree, hframe, htaken⟩ := SlotAllocator.alloc_spec halloc
  have hroomy := h.roomy.of_frame_eq hframe
  have hsame : Borrows v I c slots ⟨c'.slots, w⟩ := h.of_same hw hinv
  refine { hsame with
    roomy := hroomy.of_frame_eq (Pool.frame_free _ _)
    frame := (Pool.frame_free _ _).trans (hframe.trans h.frame)
    taken := fun other => ?_ }
  rw [SlotAllocator.free, Pool.isTaken_free hroomy, htaken, ← h.taken]
  by_cases hother : other = slot
  · simp [hother, hfree]
  · simp [hother]

theorem allocFilled {fill : CapPtr → Attempt ω Unit} (h : Borrows v I c slots c')
    (hfill : ∀ dest, v.Leaves I (fill dest) (v.Filled dest)) {a : Except Failure CapPtr}
    {c'' : CapSpace ω} (hr : CapSpace.allocFilled fill c' = (a, c'')) :
    Borrows v I c (a.toOption.toList ++ slots) c'' := by
  obtain ⟨-, hnone⟩ | ⟨dest, b, w, halloc, ⟨hcall, hok⟩ | ⟨e, hcall, herror⟩⟩ :=
    c'.allocFilled_cases fill
  · cases hnone.symm.trans hr
    exact h
  · cases hok.symm.trans hr
    have hinv := (hfill dest).inv c'.world h.inv
    have hdone := (hfill dest).done c'.world h.inv ()
    rw [hcall] at hinv hdone
    exact h.filled halloc (hdone rfl) hinv
  · cases herror.symm.trans hr
    have hinv := (hfill dest).inv c'.world h.inv
    have hfailed := (hfill dest).failed c'.world h.inv e
    rw [hcall] at hinv hfailed
    exact h.unfilled halloc (hfailed rfl) hinv

/-- A borrowed slot whose capability was deleted is given back. -/
theorem emptied {w : ω} (h : Borrows v I c (slot :: slots) c')
    (hw : v.Emptied slot c'.world w) (hinv : I w) :
    Borrows v I c slots ⟨c'.slots.free slot, w⟩ := by
  obtain ⟨hslot, hnodup⟩ := List.nodup_cons.1 h.nodup
  obtain ⟨hfree, hempty⟩ := h.fresh slot List.mem_cons_self
  obtain ⟨hcap, hwatches⟩ := hw
  constructor
  case inv => exact hinv
  case roomy => exact h.roomy.of_frame_eq (Pool.frame_free _ _)
  case frame => exact (Pool.frame_free _ _).trans h.frame
  case nodup => exact hnodup
  case fresh => exact fun other hother => h.fresh other (List.mem_cons_of_mem _ hother)
  case taken =>
    intro other
    rw [SlotAllocator.free, Pool.isTaken_free h.roomy, h.taken, List.mem_cons]
    by_cases hother : other = slot
    · simp [hother, hslot, hfree]
    · simp [hother]
  case cap =>
    intro other hother
    rw [hcap]
    by_cases hother' : other = slot
    · rw [if_pos hother', hother', hempty]
    · rw [if_neg hother']
      exact h.cap other fun hmem => (List.mem_cons.1 hmem).elim hother' hother
  case watches => exact hwatches.trans h.watches

section Platforms

variable {p : Platform ω} (hp : p.Tidy v I)

include hp

theorem discard (h : Borrows v I c (slot :: slots) c') :
    Borrows v I c slots (c'.discard p.kernel slot) := by
  have hok := hp.deletes slot c'.world h.inv
  have hinv := (hp.delete slot).inv c'.world h.inv
  have hdone := (hp.delete slot).done c'.world h.inv () hok
  rw [CapSpace.discard, Attempt.settle, release_apply]
  rcases hdelete : p.kernel.delete slot c'.world with ⟨e | ⟨⟩, w⟩
  · rw [hdelete] at hok
    cases hok
  · rw [hdelete] at hinv hdone
    exact h.emptied hdone hinv

theorem discardAll (h : Borrows v I c slots c') :
    Borrows v I c [] (slots.foldl (fun c slot => c.discard p.kernel slot) c') := by
  induction slots generalizing c' with
  | nil => exact h
  | cons slot slots ih => exact ih (h.discard hp)

end Platforms

/-! ## Nothing borrowed -/

section Returned

variable (h : Borrows v I c [] c')

include h

theorem isTaken_eq (slot : CapPtr) : c'.slots.pool.isTaken slot = c.slots.pool.isTaken slot := by
  rw [Bool.eq_iff_iff, h.taken]
  simp

theorem isFree_eq (slot : CapPtr) : c'.slots.isFree slot = c.slots.isFree slot := by
  have hstart : c'.slots.pool.start = c.slots.pool.start := congrArg Prod.fst h.frame
  have hstop : c'.slots.pool.stop = c.slots.pool.stop := congrArg (fun f => f.2.1) h.frame
  rw [Bool.eq_iff_iff, SlotAllocator.isFree_iff, SlotAllocator.isFree_iff, hstart, hstop,
    h.isTaken_eq]

theorem inUse_eq : c'.slots.inUse = c.slots.inUse := by
  have htaken : ∀ slot, c'.slots.pool.isTaken slot = true ↔ slot ∈ c.slots.pool.takenIds := by
    intro slot
    rw [h.isTaken_eq, Pool.mem_takenIds]
  calc c'.slots.inUse
      = c.slots.pool.takenIds.length := Pool.inUse_eq_length c.slots.pool.nodup_takenIds htaken
    _ = c.slots.inUse :=
      (Pool.inUse_eq_length c.slots.pool.nodup_takenIds fun _ => Pool.mem_takenIds.symm).symm

theorem cap_eq : v.cap c'.world = v.cap c.world :=
  funext fun slot => h.cap slot List.not_mem_nil

end Returned

end Borrows

end CapSpace

end CapServer
