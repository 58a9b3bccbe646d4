import CapServer.Proofs.Journal
import CapServer.Proofs.Keeps

/-!
# Accounting for slots

`CapSpace.Accounts` says of a capability space that the slots which its allocator counts as handed
out are accounted for: some are set aside (`Terms.kept`), some are at the disposal of whatever runs
next (`owned`), and the kernel refused to empty the rest. It also says that since some moment
nothing happened to what is set aside.

An operation that is given slots at its disposal says how they change (`Accounts.allocFilled`,
`Accounts.release`, `Accounts.reclaim`), whatever else is set aside or owned. So no operation
touches a slot that is neither given to it nor taken by it.
-/

namespace CapServer

namespace CapSpace

/-! ## What each operation does -/

section Operations

variable {ω : Type} (c : CapSpace ω)

/-- Taking and filling a slot: there is none, or it is filled, or the filling fails. -/
theorem allocFilled_cases (fill : CapPtr → Attempt ω Unit) :
    (c.slots.alloc = none ∧ allocFilled fill c = (.error .resourceExhausted, c)) ∨
      ∃ slot slots w, c.slots.alloc = some (slot, slots) ∧
        (fill slot c.world = (.ok (), w) ∧ allocFilled fill c = (.ok slot, ⟨slots, w⟩) ∨
          ∃ e, fill slot c.world = (.error e, w) ∧
            allocFilled fill c = (.error e, ⟨slots.free slot, w⟩)) := by
  rcases halloc : c.slots.alloc with _ | ⟨slot, slots⟩
  · exact .inl ⟨rfl, by simp only [allocFilled, alloc, Attempt.bind_apply, halloc]⟩
  · refine .inr ⟨slot, slots, (fill slot c.world).2, rfl, ?_⟩
    rcases hfill : fill slot c.world with ⟨e | ⟨⟩, w⟩
    · refine .inr ⟨e, rfl, ?_⟩
      simp only [allocFilled, alloc, Attempt.bind_apply, halloc, Attempt.catching_apply,
        Attempt.on_apply, worldPart, hfill]
      rfl
    · refine .inl ⟨rfl, ?_⟩
      simp only [allocFilled, alloc, Attempt.bind_apply, halloc, Attempt.catching_apply,
        Attempt.on_apply, worldPart, hfill]
      rfl

/-- Work on the world of a capability space is work on a world. -/
theorem world_of_on {α : Type} {c c' : CapSpace ω} {x : Attempt ω α} {a : Except Failure α}
    (hr : x.on worldPart c = (a, c')) : x c.world = (a, c'.world) := by
  have h : x c.world = ((x.on worldPart c).1, (x.on worldPart c).2.world) := rfl
  rwa [hr] at h

theorem alloc_keeps {I : ω → Prop} : (alloc : Attempt (CapSpace ω) CapPtr).Keeps fun c =>
    I c.world := by
  intro c h
  rw [alloc]
  split <;> exact h

/-- What filling a slot keeps is kept, whether or not there is one. -/
theorem allocFilled_keeps {I : ω → Prop} {fill : CapPtr → Attempt ω Unit}
    (hfill : ∀ dest, (fill dest).Keeps I) : (allocFilled fill).Keeps fun c => I c.world := by
  intro c h
  rcases c.allocFilled_cases fill with
    ⟨-, hr⟩ | ⟨slot, slots, w, -, ⟨hslot, hr⟩ | ⟨e, hslot, hr⟩⟩ <;> rw [hr]
  · exact h
  · exact (hfill slot).of_eq hslot h
  · exact (hfill slot).of_eq hslot h

theorem release_apply (k : Kernel ω) (slot : CapPtr) :
    release k slot c = match k.delete slot c.world with
      | (.ok _, w) => (.ok (), ⟨c.slots.free slot, w⟩)
      | (.error e, w) => (.error e, ⟨c.slots, w⟩) := by
  simp only [release, Attempt.bind_apply, Attempt.on_apply, worldPart]
  rcases k.delete slot c.world with ⟨_ | _, _⟩ <;> rfl

theorem reclaim_apply (k : Kernel ω) (slot : CapPtr) :
    reclaim k slot c = match k.revoke slot c.world with
      | (.ok _, w) => release k slot ⟨c.slots, w⟩
      | (.error e, w) => (.error e, ⟨c.slots, w⟩) := by
  simp only [reclaim, Attempt.bind_apply, Attempt.on_apply, worldPart]
  rcases k.revoke slot c.world with ⟨_ | _, _⟩ <;> rfl

end Operations

/-! ## Accounts -/

variable {σ : Type}

/-- What is agreed on for a while: a moment, what is set aside since then, and a property that every
call keeps. -/
structure Terms (σ : Type) where
  since : Journal
  kept : List Holding
  inv : World (Journaled σ) → Prop

/-- The slots handed out are those set aside, those at disposal, and those the kernel refused to
empty; and nothing happened to what is set aside. -/
structure Accounts (c : CapSpace (World (Journaled σ))) (T : Terms σ) (owned : List Holding) :
    Prop where
  roomy : c.slots.pool.Roomy
  lawful : c.world.journal.Lawful
  held : c.world.journal.held.Perm (T.kept ++ owned)
  taken : ∀ slot, c.slots.pool.isTaken slot = true ↔
    slot ∈ c.world.journal.slots ++ c.world.journal.refused
  spared : ∃ recent, c.world.journal = recent ++ T.since ∧
    ∀ e ∈ recent, e.slot ∉ Holding.slots T.kept
  inv : T.inv c.world

variable {c : CapSpace (World (Journaled σ))} {T : Terms σ} {owned : List Holding}
  {slot : CapPtr} {badge : Option Badge} {slots : SlotAllocator} {w : World (Journaled σ)}

namespace Accounts

/-- No slot has two owners, and none that is given up has one. -/
theorem nodup (h : c.Accounts T owned) :
    (Holding.slots (T.kept ++ owned) ++ c.world.journal.refused).Nodup :=
  ((Holding.perm_slots h.held).append_right _).nodup_iff.1 h.lawful.nodup

theorem isTaken_iff (h : c.Accounts T owned) (slot : CapPtr) :
    c.slots.pool.isTaken slot = true ↔
      slot ∈ Holding.slots (T.kept ++ owned) ++ c.world.journal.refused :=
  (h.taken slot).trans ((Holding.perm_slots h.held).append_right _).mem_iff

/-- The allocator counts the slots that are accounted for. -/
theorem inUse_eq (h : c.Accounts T owned) :
    c.slots.inUse = (Holding.slots (T.kept ++ owned) ++ c.world.journal.refused).length :=
  Pool.inUse_eq_length h.nodup h.isTaken_iff

theorem perm {owned' : List Holding} (h : c.Accounts T owned) (hp : owned.Perm owned') :
    c.Accounts T owned' :=
  { h with held := h.held.trans (hp.append_left T.kept) }

/-- From now on something else may be set aside. -/
theorem rebase {kept' owned' : List Holding} (h : c.Accounts T owned)
    (hp : (T.kept ++ owned).Perm (kept' ++ owned')) :
    c.Accounts ⟨c.world.journal, kept', T.inv⟩ owned' :=
  { h with held := h.held.trans hp, spared := ⟨[], rfl, fun _ he => nomatch he⟩ }

/-- What leaves the journal alone leaves the accounts alone, and another property may be kept from
then on. -/
theorem withInv {I : World (Journaled σ) → Prop} (h : c.Accounts T owned)
    (hw : w.journal = c.world.journal) (hI : I w) :
    Accounts ⟨c.slots, w⟩ ⟨T.since, T.kept, I⟩ owned where
  roomy := h.roomy
  lawful := by rw [hw]; exact h.lawful
  held := by rw [hw]; exact h.held
  taken := by rw [hw]; exact h.taken
  spared := by rw [hw]; exact h.spared
  inv := hI

theorem of_journal_eq (h : c.Accounts T owned) (hw : w.journal = c.world.journal)
    (hinv : T.inv w) : Accounts ⟨c.slots, w⟩ T owned :=
  h.withInv hw hinv

/-- Where a journal is begun, all slots in use are set aside. -/
theorem withJournal {c : CapSpace (World σ)} (hroomy : c.slots.pool.Roomy)
    {I : World (Journaled σ) → Prop} (hI : I c.withJournal.world) :
    c.withJournal.Accounts ⟨c.withJournal.world.journal,
      c.slots.pool.takenIds.map fun slot => ⟨slot, none⟩, I⟩ [] where
  roomy := hroomy
  lawful := Journal.lawful_ofSlots c.slots.pool.nodup_takenIds
  held := by
    rw [List.append_nil]
    exact List.Perm.of_eq (Journal.held_ofSlots _)
  taken slot := by
    refine Pool.mem_takenIds.symm.trans ?_
    show _ ↔ slot ∈ (Journal.ofSlots _).slots ++ (Journal.ofSlots _).refused
    rw [Journal.slots_ofSlots, Journal.refused_ofSlots, List.append_nil]
    exact Iff.rfl
  spared := ⟨[], rfl, fun _ he => nomatch he⟩
  inv := hI

theorem mem_slots (h : c.Accounts T (⟨slot, badge⟩ :: owned)) : slot ∈ c.world.journal.slots :=
  (Holding.perm_slots h.held).mem_iff.2 (by simp)

theorem not_mem_rest (h : c.Accounts T (⟨slot, badge⟩ :: owned)) :
    slot ∉ Holding.slots (T.kept ++ owned) := by
  have hp : (Holding.slots (T.kept ++ ⟨slot, badge⟩ :: owned)).Perm
      (slot :: Holding.slots (T.kept ++ owned)) := Holding.perm_slots List.perm_middle
  exact (List.nodup_cons.1 (hp.nodup_iff.1 (List.nodup_append.1 h.nodup).1)).1

theorem not_mem_kept (h : c.Accounts T (⟨slot, badge⟩ :: owned)) :
    slot ∉ Holding.slots T.kept := fun hk =>
  h.not_mem_rest (by rw [Holding.slots_append]; exact List.mem_append_left _ hk)

theorem drop_held (h : c.Accounts T (⟨slot, badge⟩ :: owned)) :
    (Holding.drop slot c.world.journal.held).Perm (T.kept ++ owned) := by
  have hp := (h.held.trans List.perm_middle).filter fun x => x.slot != slot
  have hdrop : Holding.drop slot (⟨slot, badge⟩ :: (T.kept ++ owned)) = T.kept ++ owned :=
    Holding.drop_cons_self h.not_mem_rest
  exact hdrop ▸ hp

theorem spared_cons (h : c.Accounts T owned) {e : SlotEvent}
    (hw : w.journal = e :: c.world.journal) (he : e.slot ∉ Holding.slots T.kept) :
    ∃ recent, w.journal = recent ++ T.since ∧ ∀ e ∈ recent, e.slot ∉ Holding.slots T.kept := by
  obtain ⟨recent, hrecent, hspared⟩ := h.spared
  refine ⟨e :: recent, by rw [hw, hrecent]; rfl, fun f hf => ?_⟩
  rcases List.mem_cons.1 hf with rfl | hf
  · exact he
  · exact hspared f hf

/-! ## One event after the other -/

/-- A slot that was taken and filled is at disposal. -/
theorem filled (h : c.Accounts T owned) (halloc : c.slots.alloc = some (slot, slots))
    (hw : w.journal = .filled slot badge :: c.world.journal) (hinv : T.inv w) :
    Accounts ⟨slots, w⟩ T (⟨slot, badge⟩ :: owned) := by
  obtain ⟨-, hfree, hframe, htaken⟩ := SlotAllocator.alloc_spec halloc
  have hnew : slot ∉ c.world.journal.slots ++ c.world.journal.refused := fun hmem => by
    rw [← h.taken slot, hfree] at hmem
    cases hmem
  have hkept : slot ∉ Holding.slots T.kept := fun hk => by
    refine hnew (List.mem_append_left _ ((Holding.perm_slots h.held).mem_iff.2 ?_))
    rw [Holding.slots_append]
    exact List.mem_append_left _ hk
  refine ⟨h.roomy.of_frame_eq hframe, ?_, ?_, fun i => ?_, h.spared_cons hw hkept, hinv⟩
  · rw [hw]
    exact ⟨hnew, h.lawful⟩
  · rw [hw]
    exact (h.held.cons ⟨slot, badge⟩).trans List.perm_middle.symm
  · rw [hw, htaken i, h.taken i]
    exact List.mem_cons.symm

/-- A slot that was taken and not filled goes back. -/
theorem unfilled (h : c.Accounts T owned) (halloc : c.slots.alloc = some (slot, slots))
    (hw : w.journal = c.world.journal) (hinv : T.inv w) :
    Accounts ⟨slots.free slot, w⟩ T owned := by
  obtain ⟨-, hfree, hframe, htaken⟩ := SlotAllocator.alloc_spec halloc
  have hroomy := h.roomy.of_frame_eq hframe
  have haccounts : Accounts ⟨c.slots, w⟩ T owned := h.of_journal_eq hw hinv
  refine { haccounts with
    roomy := hroomy.of_frame_eq (Pool.frame_free _ _), taken := fun i => ?_ }
  rw [← haccounts.taken i, SlotAllocator.free, Pool.isTaken_free hroomy, htaken i]
  constructor
  · rintro ⟨hne, rfl | hi⟩
    · exact absurd rfl hne
    · exact hi
  · intro hi
    refine ⟨fun e => ?_, .inr hi⟩
    rw [e, hfree] at hi
    cases hi

/-- A slot whose capability was deleted goes back. -/
theorem deleted (h : c.Accounts T (⟨slot, badge⟩ :: owned))
    (hw : w.journal = .deleted slot true :: c.world.journal) (hinv : T.inv w) :
    Accounts ⟨c.slots.free slot, w⟩ T owned := by
  have hnodup := h.lawful.nodup
  refine ⟨h.roomy.of_frame_eq (Pool.frame_free _ _), ?_, ?_, fun i => ?_,
    h.spared_cons hw h.not_mem_kept, hinv⟩
  · rw [hw]
    exact ⟨h.mem_slots, h.lawful⟩
  · rw [hw]
    exact h.drop_held
  · rw [hw, SlotAllocator.free, Pool.isTaken_free h.roomy, h.taken i, List.mem_append]
    have hrefused : slot ∉ c.world.journal.refused := fun hmem =>
      (List.nodup_append.1 hnodup).2.2 slot h.mem_slots slot hmem rfl
    have hdrop : Journal.slots (.deleted slot true :: c.world.journal) =
        c.world.journal.slots.erase slot := Holding.slots_drop (List.nodup_append.1 hnodup).1 slot
    have herase := (List.nodup_append.1 hnodup).1.mem_erase_iff (a := i) (b := slot)
    rw [hdrop, List.mem_append, herase]
    constructor
    · rintro ⟨hne, hi | hi⟩
      · exact .inl ⟨hne, hi⟩
      · exact .inr hi
    · rintro (⟨hne, hi⟩ | hi)
      · exact ⟨hne, .inl hi⟩
      · exact ⟨fun e => hrefused (e ▸ hi), .inr hi⟩

/-- A slot that the kernel refused to empty stays taken, and nobody owns it any more. -/
theorem refused (h : c.Accounts T (⟨slot, badge⟩ :: owned))
    (hw : w.journal = .deleted slot false :: c.world.journal ∨
      w.journal = .revoked slot false :: c.world.journal) (hinv : T.inv w) :
    Accounts ⟨c.slots, w⟩ T owned := by
  have hheld : w.journal.held = Holding.drop slot c.world.journal.held := by
    rcases hw with hw | hw <;> rw [hw] <;> rfl
  have hrefused : w.journal.refused = slot :: c.world.journal.refused := by
    rcases hw with hw | hw <;> rw [hw] <;> rfl
  refine ⟨h.roomy, ?_, by rw [hheld]; exact h.drop_held, fun i => ?_, ?_, hinv⟩
  · rcases hw with hw | hw <;> rw [hw] <;> exact ⟨h.mem_slots, h.lawful⟩
  · rw [Journal.slots, hheld, hrefused, h.taken i]
    exact (Journal.slots_drop_append_cons_perm h.lawful.nodup h.mem_slots).mem_iff.symm
  · rcases hw with hw | hw <;> exact h.spared_cons hw h.not_mem_kept

/-- A slot from whose capability nothing is derived any more is still owned. -/
theorem revoked (h : c.Accounts T (⟨slot, badge⟩ :: owned))
    (hw : w.journal = .revoked slot true :: c.world.journal) (hinv : T.inv w) :
    Accounts ⟨c.slots, w⟩ T (⟨slot, badge⟩ :: owned) where
  roomy := h.roomy
  lawful := by rw [hw]; exact ⟨h.mem_slots, h.lawful⟩
  held := by rw [hw]; exact h.held
  taken := by rw [hw]; exact h.taken
  spared := h.spared_cons hw h.not_mem_kept
  inv := hinv

/-! ## Operations -/

/-- A slot taken and filled is at disposal; if that fails, nothing is. -/
theorem allocFilled (h : c.Accounts T owned) {x : CapPtr → Attempt (World σ) Unit}
    (hx : ∀ dest, ((x dest).filling dest badge).Keeps T.inv) {a : Except Failure CapPtr}
    {c' : CapSpace (World (Journaled σ))}
    (hr : CapSpace.allocFilled (fun dest => (x dest).filling dest badge) c = (a, c')) :
    c'.Accounts T (Holding.gained badge a ++ owned) := by
  rcases c.allocFilled_cases fun dest => (x dest).filling dest badge with
    ⟨-, hfail⟩ | ⟨slot, slots, w, halloc, ⟨hfill, hok⟩ | ⟨e, hfill, hfail⟩⟩
  · cases hfail.symm.trans hr
    exact h
  · cases hok.symm.trans hr
    exact h.filled halloc (Attempt.journal_recorded hfill) ((hx slot).of_eq hfill h.inv)
  · cases hfail.symm.trans hr
    exact h.unfilled halloc (Attempt.journal_recorded hfill) ((hx slot).of_eq hfill h.inv)

section Kernels

variable {k : Kernel (World σ)} (hk : k.journaled.Keeps T.inv)

include hk

/-- Whatever the kernel says, a slot that is released is not owned any more. -/
theorem release (h : c.Accounts T (⟨slot, badge⟩ :: owned)) :
    (CapSpace.release k.journaled slot c).2.Accounts T owned := by
  rw [release_apply]
  rcases hdelete : k.journaled.delete slot c.world with ⟨e | ⟨⟩, w⟩
  · exact h.refused (.inl (Kernel.journal_delete hdelete))
      ((hk.delete slot).of_eq hdelete h.inv)
  · exact h.deleted (Kernel.journal_delete hdelete) ((hk.delete slot).of_eq hdelete h.inv)

/-- The same for a slot from whose capability others were derived. -/
theorem reclaim (h : c.Accounts T (⟨slot, badge⟩ :: owned)) :
    (CapSpace.reclaim k.journaled slot c).2.Accounts T owned := by
  rw [reclaim_apply]
  rcases hrevoke : k.journaled.revoke slot c.world with ⟨e | ⟨⟩, w⟩
  · exact h.refused (.inr (Kernel.journal_revoke hrevoke))
      ((hk.revoke slot).of_eq hrevoke h.inv)
  · exact (h.revoked (Kernel.journal_revoke hrevoke)
      ((hk.revoke slot).of_eq hrevoke h.inv)).release hk

theorem discard (h : c.Accounts T (⟨slot, badge⟩ :: owned)) :
    (c.discard k.journaled slot).Accounts T owned :=
  h.release hk

/-- What is discarded, one thing after the other, is not owned any more. -/
theorem discardAll {held : List Holding} (h : c.Accounts T (held ++ owned)) :
    ((Holding.slots held).foldl (fun c slot => c.discard k.journaled slot) c).Accounts T
      owned := by
  induction held generalizing c with
  | nil => exact h
  | cons x held ih => exact ih (h.discard hk)

/-- Minting into a slot taken for it puts the slot at disposal, with its badge. -/
theorem mint (h : c.Accounts T owned) {src : CapPtr} {b : Badge} {a : Except Failure CapPtr}
    {c' : CapSpace (World (Journaled σ))} (hr : CapSpace.mint k.journaled src b c = (a, c')) :
    c'.Accounts T (Holding.gained (some b) a ++ owned) :=
  h.allocFilled (fun dest => hk.mint dest src b) hr

/-- Receiving a capability into a slot taken for it puts the slot at disposal. -/
theorem accept (h : c.Accounts T owned) {index : Nat} {a : Except Failure CapPtr}
    {c' : CapSpace (World (Journaled σ))} (hr : CapSpace.accept k.journaled index c = (a, c')) :
    c'.Accounts T (Holding.gained none a ++ owned) :=
  h.allocFilled (fun dest => hk.accept dest index) hr

end Kernels

end Accounts

end CapSpace

end CapServer
