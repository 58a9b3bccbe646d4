import CapServer.Proofs.Pool
import CapServer.Server.Basic

/-!
# A journal of the slots

A platform can be asked to keep a journal of what happens to the slots of a capability space: which
were filled, and for which a revocation or a deletion was asked, granted or not
(`Platform.journaled`). The journal is written beside the state of the world. No call reads it, so
it changes nothing: without it, the same server comes up and goes on (`Server.run_plain`).

Read from its beginning, a journal tells at each moment what the process holds in its slots
(`Journal.held`) and which slots it gave up because the kernel refused to empty them
(`Journal.refused`). It is `Lawful` if no slot was filled that was held or given up at the time, and
nothing was asked for a slot that was not held.
-/

namespace CapServer

/-! ## Holdings -/

/-- A slot with a capability in it, and the badge that the capability was minted with. -/
structure Holding where
  slot : CapPtr
  badge : Option Badge
  deriving DecidableEq, Repr

namespace Holding

/-- The slots of some holdings. -/
def slots (held : List Holding) : List CapPtr := held.map slot

/-- Without what is held in a slot. -/
def drop (slot : CapPtr) (held : List Holding) : List Holding :=
  held.filter fun h => h.slot != slot

/-- What is held more after filling a slot, if that was done. -/
def gained (badge : Option Badge) : Except Failure CapPtr → List Holding
  | .ok slot => [⟨slot, badge⟩]
  | .error _ => []

@[simp] theorem slots_cons (h : Holding) (held : List Holding) :
    slots (h :: held) = h.slot :: slots held := rfl

@[simp] theorem slots_append (held held' : List Holding) :
    slots (held ++ held') = slots held ++ slots held' := List.map_append

theorem mem_slots {held : List Holding} {h : Holding} (hmem : h ∈ held) : h.slot ∈ slots held :=
  List.mem_map_of_mem hmem

theorem perm_slots {held held' : List Holding} (h : held.Perm held') :
    (slots held).Perm (slots held') := h.map slot

theorem drop_of_not_mem {slot : CapPtr} {held : List Holding} (h : slot ∉ slots held) :
    drop slot held = held := by
  refine List.filter_eq_self.2 fun x hx => ?_
  rw [bne_iff_ne]
  rintro rfl
  exact h (mem_slots hx)

theorem drop_cons_self {h : Holding} {held : List Holding} (hnew : h.slot ∉ slots held) :
    drop h.slot (h :: held) = held := by
  rw [drop, List.filter_cons_of_neg (by simp)]
  exact drop_of_not_mem hnew

theorem slots_drop {held : List Holding} (hnodup : (slots held).Nodup) (slot : CapPtr) :
    slots (drop slot held) = (slots held).erase slot := by
  rw [hnodup.erase_eq_filter, slots, slots, List.filter_map]
  rfl

end Holding

/-! ## Journals -/

/-- Something that happens to a slot. -/
inductive SlotEvent
  /-- A capability was put into the slot, minted with the badge if there is one. -/
  | filled (slot : CapPtr) (badge : Option Badge)
  /-- The kernel was asked to revoke what was derived from the slot's capability. -/
  | revoked (slot : CapPtr) (granted : Bool)
  /-- The kernel was asked to delete the slot's capability. -/
  | deleted (slot : CapPtr) (granted : Bool)
  deriving DecidableEq, Repr

/-- The slot an event happens to. -/
def SlotEvent.slot : SlotEvent → CapPtr
  | filled slot _ => slot
  | revoked slot _ => slot
  | deleted slot _ => slot

/-- What happened so far, the latest first. -/
abbrev Journal : Type := List SlotEvent

namespace Journal

/-- What is held: put into a slot, and neither deleted nor given up since. -/
def held : Journal → List Holding
  | [] => []
  | .filled slot badge :: older => ⟨slot, badge⟩ :: held older
  | .revoked slot granted :: older => if granted then held older else Holding.drop slot (held older)
  | .deleted slot _ :: older => Holding.drop slot (held older)

/-- The slots that the kernel refused to empty. -/
def refused : Journal → List CapPtr
  | [] => []
  | .filled _ _ :: older => refused older
  | .revoked slot granted :: older => if granted then refused older else slot :: refused older
  | .deleted slot granted :: older => if granted then refused older else slot :: refused older

/-- The slots with something in them. -/
def slots (j : Journal) : List CapPtr := Holding.slots j.held

/-- Only slots without an owner are filled, and only slots that are held are emptied. -/
def Lawful : Journal → Prop
  | [] => True
  | .filled slot _ :: older => slot ∉ slots older ++ refused older ∧ Lawful older
  | .revoked slot _ :: older => slot ∈ slots older ∧ Lawful older
  | .deleted slot _ :: older => slot ∈ slots older ∧ Lawful older

/-- Giving a slot up moves it from the held ones to the refused ones. -/
theorem slots_drop_append_cons_perm {held : List Holding} {refused : List CapPtr} {slot : CapPtr}
    (hnodup : (Holding.slots held ++ refused).Nodup) (h : slot ∈ Holding.slots held) :
    (Holding.slots (Holding.drop slot held) ++ slot :: refused).Perm
      (Holding.slots held ++ refused) := by
  rw [Holding.slots_drop (List.nodup_append.1 hnodup).1]
  exact List.perm_middle.trans ((List.perm_cons_erase h).symm.append_right refused)

/-- No slot has two owners, and none is both held and given up. -/
theorem Lawful.nodup {j : Journal} (h : j.Lawful) : (j.slots ++ j.refused).Nodup := by
  induction j with
  | nil => exact List.nodup_nil
  | cons e older ih =>
    cases e with
    | filled slot badge => exact List.nodup_cons.2 ⟨h.1, ih h.2⟩
    | revoked slot granted =>
      cases granted with
      | true => exact ih h.2
      | false => exact (slots_drop_append_cons_perm (ih h.2) h.1).nodup_iff.2 (ih h.2)
    | deleted slot granted =>
      cases granted with
      | true =>
        have hsub : (slots (.deleted slot true :: older)).Sublist (slots older) :=
          List.filter_sublist.map _
        exact (ih h.2).sublist (hsub.append_right _)
      | false => exact (slots_drop_append_cons_perm (ih h.2) h.1).nodup_iff.2 (ih h.2)

/-- A journal that begins with what is held already. -/
def ofSlots (slots : List CapPtr) : Journal := slots.map fun slot => .filled slot none

theorem held_ofSlots (l : List CapPtr) : (ofSlots l).held = l.map fun slot => ⟨slot, none⟩ := by
  induction l with
  | nil => rfl
  | cons slot l ih => exact congrArg (_ :: ·) ih

theorem refused_ofSlots (l : List CapPtr) : (ofSlots l).refused = [] := by
  induction l with
  | nil => rfl
  | cons slot l ih => exact ih

theorem slots_ofSlots (l : List CapPtr) : (ofSlots l).slots = l := by
  rw [slots, held_ofSlots, Holding.slots, List.map_map]
  exact List.map_id l

theorem lawful_ofSlots {l : List CapPtr} (h : l.Nodup) : (ofSlots l).Lawful := by
  induction l with
  | nil => trivial
  | cons slot l ih =>
    rw [List.nodup_cons] at h
    refine ⟨?_, ih h.2⟩
    show slot ∉ (ofSlots l).slots ++ (ofSlots l).refused
    rw [slots_ofSlots, refused_ofSlots, List.append_nil]
    exact h.1

end Journal

/-! ## Keeping a journal -/

/-- A state with a journal beside it. -/
structure Journaled (σ : Type) where
  rest : σ
  journal : Journal

namespace World

variable {σ : Type}

/-- The journal kept in a world. -/
def journal (w : World (Journaled σ)) : Journal := w.rest.journal

/-- A world beside its journal. -/
def plainPart : Part (World (Journaled σ)) (World σ) where
  get w := ⟨w.memory, w.rest.rest⟩
  set v w := ⟨v.memory, ⟨v.rest, w.rest.journal⟩⟩

/-- A world in which a journal is kept from now on. -/
def withJournal (j : Journal) (w : World σ) : World (Journaled σ) := ⟨w.memory, ⟨w.rest, j⟩⟩

end World

namespace Attempt

variable {σ α : Type}

/-- Do something, and write down what came of it. -/
def recorded (x : Attempt (World σ) α) (event : Bool → Journal) :
    Attempt (World (Journaled σ)) α := fun w =>
  let (a, v) := x (World.plainPart.get w)
  (a, ⟨v.memory, ⟨v.rest, event a.toBool ++ w.journal⟩⟩)

/-- Fill a slot, and write down if that was done. -/
def filling (x : Attempt (World σ) α) (slot : CapPtr) (badge : Option Badge) :
    Attempt (World (Journaled σ)) α :=
  x.recorded fun ok => if ok then [.filled slot badge] else []

/-- Beside the journal, what is written down is done as it would be without one. -/
theorem plain_recorded {x : Attempt (World σ) α} {event : Bool → Journal}
    {w w' : World (Journaled σ)} {a : Except Failure α} (h : x.recorded event w = (a, w')) :
    x (World.plainPart.get w) = (a, World.plainPart.get w') := by
  have hw : x (World.plainPart.get w) =
      ((x.recorded event w).1, World.plainPart.get (x.recorded event w).2) := rfl
  rwa [h] at hw

theorem plain_on_plain {x : Attempt (World σ) α} {w w' : World (Journaled σ)} {a : Except Failure α}
    (h : x.on World.plainPart w = (a, w')) :
    x (World.plainPart.get w) = (a, World.plainPart.get w') := by
  have hw : x (World.plainPart.get w) =
      ((x.on World.plainPart w).1, World.plainPart.get (x.on World.plainPart w).2) := rfl
  rwa [h] at hw

/-- The journal goes on with what is written down. -/
theorem journal_recorded {x : Attempt (World σ) α} {event : Bool → Journal}
    {w w' : World (Journaled σ)} {a : Except Failure α} (h : x.recorded event w = (a, w')) :
    w'.journal = event a.toBool ++ w.journal := by
  have hw : (x.recorded event w).2.journal = event (x.recorded event w).1.toBool ++ w.journal := rfl
  rwa [h] at hw

theorem journal_on_plain {x : Attempt (World σ) α} {w w' : World (Journaled σ)}
    {a : Except Failure α} (h : x.on World.plainPart w = (a, w')) : w'.journal = w.journal := by
  have hw : (x.on World.plainPart w).2.journal = w.journal := rfl
  rwa [h] at hw

end Attempt

section Platforms

variable {σ : Type}

/-- The kernel, with a journal of what it does to the slots. -/
def Kernel.journaled (k : Kernel (World σ)) : Kernel (World (Journaled σ)) where
  mint dest src badge := (k.mint dest src badge).filling dest (some badge)
  revoke slot := (k.revoke slot).recorded fun ok => [.revoked slot ok]
  delete slot := (k.delete slot).recorded fun ok => [.deleted slot ok]
  accept dest index := (k.accept dest index).filling dest none
  bindNotification asyncEp := (k.bindNotification asyncEp).on World.plainPart
  receive endpoint := (k.receive endpoint).on World.plainPart
  reply message := (k.reply message).on World.plainPart

theorem Kernel.journal_delete {k : Kernel (World σ)} {slot : CapPtr}
    {w w' : World (Journaled σ)} {a : Except Failure Unit}
    (h : k.journaled.delete slot w = (a, w')) :
    w'.journal = .deleted slot a.toBool :: w.journal := by
  have hw : (k.journaled.delete slot w).2.journal =
      .deleted slot (k.journaled.delete slot w).1.toBool :: w.journal := rfl
  rwa [h] at hw

theorem Kernel.journal_revoke {k : Kernel (World σ)} {slot : CapPtr}
    {w w' : World (Journaled σ)} {a : Except Failure Unit}
    (h : k.journaled.revoke slot w = (a, w')) :
    w'.journal = .revoked slot a.toBool :: w.journal := by
  have hw : (k.journaled.revoke slot w).2.journal =
      .revoked slot (k.journaled.revoke slot w).1.toBool :: w.journal := rfl
  rwa [h] at hw

/-- The process server, with a journal of the slots it fills. -/
def ProcessServer.journaled (s : ProcessServer (World σ)) :
    ProcessServer (World (Journaled σ)) where
  newEndpoint dest := (s.newEndpoint dest).filling dest none
  newAsyncEndpoint dest := (s.newAsyncEndpoint dest).filling dest none
  watch liveness notifyEp := (s.watch liveness notifyEp).on World.plainPart
  unwatch liveness := (s.unwatch liveness).on World.plainPart
  openDataspace size dest := (s.openDataspace size dest).filling dest none
  registerNotices dataspace := (s.registerNotices dataspace).on World.plainPart
  registerParams dataspace size := (s.registerParams dataspace size).on World.plainPart

/-- The platform, with a journal of the slots. -/
def Platform.journaled (p : Platform (World σ)) : Platform (World (Journaled σ)) :=
  ⟨p.kernel.journaled, p.procs.journaled⟩

/-- A name service beside a journal. -/
def NameResolver.journaled (n : NameResolver (World σ)) : NameResolver (World (Journaled σ)) :=
  n.lift World.plainPart

/-- A capability space in whose world a journal is kept from now on. It begins with the slots that
are handed out already. -/
def CapSpace.withJournal (c : CapSpace (World σ)) : CapSpace (World (Journaled σ)) :=
  ⟨c.slots, c.world.withJournal (.ofSlots c.slots.pool.takenIds)⟩

end Platforms

end CapServer
