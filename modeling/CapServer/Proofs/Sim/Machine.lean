import CapServer.Proofs.Server.Confined
import CapServer.Sim.Machine

/-!
# Calls on the machine

A call on the simulated kernel or process server either fails by plan, and then nothing but the plan
has changed, or reaches it (`Machine.kernelCall_cases`, `Machine.procCall_cases`).

`Machine.Faithful` ties the simulated kernel to the journal: what was minted into a slot and is
still held is there, with the badge it was minted with. Every call of the platform keeps it
(`Machine.respects_faithful`).
-/

namespace CapServer

namespace Machine

variable {ν α : Type}

/-! ## Calls by plan -/

/-- A call on the simulated kernel, by plan. -/
def kernelCall (call : KernelCall) (x : Attempt SimKernel α) : Attempt (World (Machine ν)) α :=
  (FaultPlan.guard kernelFaultsPart call (x.on kernelPart)).on World.restPart

/-- A call on the simulated process server, by plan. -/
def procCall (call : ProcCall) (x : Attempt SimProcs.Run α) : Attempt (World (Machine ν)) α :=
  FaultPlan.guard (World.restPart.comp procFaultsPart) call (x.on procsPart)

/-- The plan for other calls stays as it is. -/
theorem next_queue_of_ne {μ : Type} [DecidableEq μ] (plan : FaultPlan μ) {call other : μ}
    (h : other ≠ call) : (plan.next call).2.queue other = plan.queue other := by
  rw [FaultPlan.next]
  split
  · rfl
  · exact if_neg h

theorem kernelCall_cases (call : KernelCall) (x : Attempt SimKernel α) (w : World (Machine ν)) :
    ∃ plan, (∃ e, kernelCall call x w =
        (.error e, { w with rest := { w.rest with kernelFaults := plan } })) ∨
      kernelCall call x w = ((x w.rest.kernel).1, { w with rest := { w.rest with
        kernelFaults := plan, kernel := (x w.rest.kernel).2 } }) := by
  refine ⟨(w.rest.kernelFaults.next call).2, ?_⟩
  rcases hnext : w.rest.kernelFaults.next call with ⟨_ | e, plan⟩
  · refine .inr ?_
    simp only [kernelCall, Attempt.on_apply, FaultPlan.guard, World.restPart, kernelFaultsPart,
      hnext]
    rfl
  · refine .inl ⟨e, ?_⟩
    simp only [kernelCall, Attempt.on_apply, FaultPlan.guard, World.restPart, kernelFaultsPart,
      hnext]

theorem procCall_cases (call : ProcCall) (x : Attempt SimProcs.Run α) (w : World (Machine ν)) :
    ∃ plan, ((∃ e, plan.1 = some e ∧ procCall call x w =
        (.error e, { w with rest := { w.rest with procFaults := plan.2 } })) ∨
      plan.1 = none ∧ procCall call x w = ((x (w.memory, w.rest.procs)).1,
        ⟨(x (w.memory, w.rest.procs)).2.1, { w.rest with
          procFaults := plan.2, procs := (x (w.memory, w.rest.procs)).2.2 }⟩)) ∧
      plan = w.rest.procFaults.next call := by
  refine ⟨_, ?_, rfl⟩
  rcases hnext : w.rest.procFaults.next call with ⟨_ | e, plan⟩
  · refine .inr ⟨rfl, ?_⟩
    simp only [procCall, FaultPlan.guard, Part.comp, World.restPart, procFaultsPart, hnext]
    rfl
  · refine .inl ⟨e, rfl, ?_⟩
    simp only [procCall, FaultPlan.guard, Part.comp, World.restPart, procFaultsPart, hnext]

/-! ## What the kernel leaves alone -/

/-- Memory and the process server are as they were, and so is the plan for it. -/
def Undisturbed (w₀ w : World (Machine ν)) : Prop :=
  w.memory = w₀.memory ∧ w.rest.procs = w₀.rest.procs ∧ w.rest.procFaults = w₀.rest.procFaults

theorem undisturbed_kernelCall {w₀ : World (Machine ν)} (call : KernelCall)
    (x : Attempt SimKernel α) : (kernelCall call x).Keeps (Undisturbed w₀) := by
  intro w hw
  obtain ⟨plan, ⟨e, hcall⟩ | hcall⟩ := kernelCall_cases call x w <;> rw [hcall] <;> exact hw

/-- No call of the kernel has to do with memory or the process server. -/
theorem keeps_undisturbed (w₀ : World (Machine ν)) :
    (platform : Platform (World (Machine ν))).kernel.journaled.Keeps
      fun w => Undisturbed w₀ (World.plainPart.get w) where
  mint dest src badge _ hw := undisturbed_kernelCall .mint (SimKernel.mint dest src badge) _ hw
  revoke slot _ hw := undisturbed_kernelCall .revoke (SimKernel.revoke slot) _ hw
  delete slot _ hw := undisturbed_kernelCall .delete (SimKernel.delete slot) _ hw
  accept dest index _ hw := undisturbed_kernelCall .accept (SimKernel.accept dest index) _ hw
  bindNotification asyncEp _ hw :=
    undisturbed_kernelCall .bindNotification (SimKernel.bindNotification asyncEp) _ hw
  receive endpoint _ hw := undisturbed_kernelCall .receive (SimKernel.receive endpoint) _ hw
  reply message _ hw := undisturbed_kernelCall .reply (SimKernel.reply message) _ hw

/-! ## The directory -/

theorem directory_kernelCall {I : Directory → Prop} (call : KernelCall) (x : Attempt SimKernel α) :
    (kernelCall call x : Attempt (World (Machine ν)) α).Keeps fun w => I w.rest.directory := by
  intro w hw
  obtain ⟨plan, ⟨e, hcall⟩ | hcall⟩ := kernelCall_cases call x w <;> rw [hcall] <;> exact hw

theorem directory_procCall {I : Directory → Prop} (call : ProcCall)
    (x : Attempt SimProcs.Run α) :
    (procCall call x : Attempt (World (Machine ν)) α).Keeps fun w => I w.rest.directory := by
  intro w hw
  obtain ⟨plan, ⟨e, -, hcall⟩ | ⟨-, hcall⟩, -⟩ := procCall_cases call x w <;>
    rw [hcall] <;> exact hw

/-- The platform has nothing to do with the name servers. -/
theorem keeps_directory (I : Directory → Prop) :
    (platform : Platform (World (Machine ν))).Keeps fun w => I w.rest.directory where
  kernel :=
    { mint := fun dest src badge => directory_kernelCall .mint (SimKernel.mint dest src badge)
      revoke := fun slot => directory_kernelCall .revoke (SimKernel.revoke slot)
      delete := fun slot => directory_kernelCall .delete (SimKernel.delete slot)
      accept := fun dest index => directory_kernelCall .accept (SimKernel.accept dest index)
      bindNotification := fun asyncEp =>
        directory_kernelCall .bindNotification (SimKernel.bindNotification asyncEp)
      receive := fun endpoint => directory_kernelCall .receive (SimKernel.receive endpoint)
      reply := fun message => directory_kernelCall .reply (SimKernel.reply message) }
  procs :=
    { newEndpoint := fun _ => directory_procCall .newEndpoint _
      newAsyncEndpoint := fun _ => directory_procCall .newAsyncEndpoint _
      watch := fun _ _ => directory_procCall .watch _
      unwatch := fun _ => directory_procCall .unwatch _
      openDataspace := fun _ _ => directory_procCall .openDataspace _
      registerNotices := fun _ => directory_procCall .registerNotices _
      registerParams := fun _ _ => directory_procCall .registerParams _ }

/-! ## What was minted is there -/

/-- The badge of the capability in a slot. -/
def badgeOf (w : World (Machine ν)) (slot : CapPtr) : Option Badge := w.rest.kernel.badgeOf slot

/-- What was minted into a slot and is still held is there, with its badge. -/
def Faithful (w : World (Journaled (Machine ν))) : Prop :=
  ∀ h ∈ w.journal.held, ∀ b, h.badge = some b → badgeOf (World.plainPart.get w) h.slot = some b

theorem badgeOf_congr {v w : World (Machine ν)} (h : v.rest.kernel.slots = w.rest.kernel.slots) :
    badgeOf v = badgeOf w := by
  funext slot
  rw [badgeOf, badgeOf, SimKernel.badgeOf, SimKernel.badgeOf, SimKernel.cap, SimKernel.cap, h]

/-- What leaves the kernel's slots alone and mints nothing keeps the machine faithful. -/
theorem faithful_recorded {x : Attempt (World (Machine ν)) α} {event : Bool → Journal}
    (hx : ∀ w, (x w).2.rest.kernel.slots = w.rest.kernel.slots)
    (hevent : ∀ ok (j : Journal), ∀ h ∈ Journal.held (event ok ++ j), h.badge = none ∨ h ∈ j.held) :
    (x.recorded event).Keeps Faithful := by
  intro w hw h hh b hb
  rcases hevent _ _ h hh with hnone | hheld
  · rw [hb] at hnone
    cases hnone
  · exact (congrFun (badgeOf_congr (hx (World.plainPart.get w))) h.slot).trans (hw h hheld b hb)

theorem faithful_on_plain {x : Attempt (World (Machine ν)) α}
    (hx : ∀ w, (x w).2.rest.kernel.slots = w.rest.kernel.slots) :
    (x.on World.plainPart).Keeps Faithful := by
  intro w hw h hh b hb
  exact (congrFun (badgeOf_congr (hx (World.plainPart.get w))) h.slot).trans (hw h hh b hb)

theorem slots_kernelCall {call : KernelCall} {x : Attempt SimKernel α}
    (hx : ∀ k, (x k).2.slots = k.slots) (w : World (Machine ν)) :
    (kernelCall call x w).2.rest.kernel.slots = w.rest.kernel.slots := by
  obtain ⟨plan, ⟨e, hcall⟩ | hcall⟩ := kernelCall_cases call x w
  · rw [hcall]
  · rw [hcall]
    exact hx w.rest.kernel

theorem kernel_procCall {call : ProcCall} {x : Attempt SimProcs.Run α} (w : World (Machine ν)) :
    (procCall call x w).2.rest.kernel = w.rest.kernel := by
  obtain ⟨plan, ⟨e, -, hcall⟩ | ⟨-, hcall⟩, -⟩ := procCall_cases call x w <;> rw [hcall]

/-- Putting a capability into an empty slot, with a badge if one is given: a call that does this
and nothing else to the slots, unless it fails. -/
def Places (dest : CapPtr) (badge : Option Badge) (x : Attempt SimKernel Unit) : Prop :=
  ∀ k, (∃ e, (x k).1 = .error e ∧ (x k).2.slots = k.slots) ∨
    ∃ c, (x k).1 = .ok () ∧ k.slots.get? dest = none ∧ (x k).2.slots = k.slots.insert dest c ∧
      ∀ b, badge = some b → c.badge = b

/-- Filling an empty slot keeps the machine faithful, if a badge that is written down is the one of
the capability put there. -/
theorem faithful_filling {call : KernelCall} {x : Attempt SimKernel Unit} {dest : CapPtr}
    {badge : Option Badge} (hx : Places dest badge x) :
    ((kernelCall call x : Attempt (World (Machine ν)) Unit).filling dest badge).Keeps Faithful := by
  intro w hw h hh b hb
  obtain ⟨plan, ⟨e, hcall⟩ | hcall⟩ := kernelCall_cases call x (World.plainPart.get w)
  · simp only [Attempt.filling, Attempt.recorded, hcall] at hh ⊢
    exact hw h hh b hb
  · rcases hx (World.plainPart.get w).rest.kernel with
      ⟨e, herror, hslots⟩ | ⟨c, hok, hempty, hslots, hbadge⟩
    · rw [herror] at hcall
      simp only [Attempt.filling, Attempt.recorded, hcall] at hh ⊢
      refine (congrFun (badgeOf_congr ?_) h.slot).trans (hw h hh b hb)
      exact hslots
    · rw [hok] at hcall
      simp only [Attempt.filling, Attempt.recorded, hcall] at hh ⊢
      have hcap : (x (World.plainPart.get w).rest.kernel).2.badgeOf h.slot =
          if h.slot = dest then some c.badge else badgeOf (World.plainPart.get w) h.slot := by
        rw [SimKernel.badgeOf, SimKernel.cap, hslots, IdMap.get?_insert]
        split <;> rfl
      refine hcap.trans ?_
      rcases List.mem_cons.1 hh with rfl | hheld
      · rw [if_pos rfl, hbadge b hb]
      · have hthere := hw h hheld b hb
        rw [if_neg]
        · exact hthere
        · intro hdest
          rw [badgeOf, SimKernel.badgeOf, SimKernel.cap, hdest, hempty] at hthere
          cases hthere

theorem place_cases (dest : CapPtr) (c : SimCap) (k : SimKernel) :
    (∃ e, SimKernel.place dest c k = (.error e, k)) ∨
      k.slots.get? dest = none ∧ SimKernel.place dest c k = (.ok (), k.insertCap dest c) := by
  rw [SimKernel.place]
  split
  · exact .inl ⟨_, rfl⟩
  · next h =>
    refine .inr ⟨?_, rfl⟩
    rwa [IdMap.contains, Option.not_isSome_iff_eq_none] at h

/-- An empty slot takes whatever is put there. -/
theorem place_eq_ok {dest : CapPtr} {k : SimKernel} (h : k.cap dest = none) (c : SimCap) :
    SimKernel.place dest c k = (.ok (), k.insertCap dest c) := by
  rw [SimKernel.place, if_neg]
  rw [IdMap.contains, Option.not_isSome_iff_eq_none]
  exact h

theorem places_mint (dest src : CapPtr) (badge : Badge) :
    Places dest (some badge) (SimKernel.mint dest src badge) := by
  intro k
  rw [SimKernel.mint]
  split
  · exact .inl ⟨_, rfl, rfl⟩
  · rcases place_cases dest ⟨((k.cap src).map SimCap.object).getD src, badge⟩ k with
      ⟨e, hplace⟩ | ⟨hempty, hplace⟩
    · rw [hplace]
      exact .inl ⟨e, rfl, rfl⟩
    · rw [hplace]
      exact .inr ⟨_, rfl, hempty, rfl, fun b hb => Option.some.inj hb⟩

theorem places_accept (dest : CapPtr) (index : Nat) :
    Places dest none (SimKernel.accept dest index) := by
  intro k
  rw [SimKernel.accept]
  split
  · next src _ =>
    rcases place_cases dest ⟨src, Badge.none⟩ k with ⟨e, hplace⟩ | ⟨hempty, hplace⟩
    · rw [hplace]
      exact .inl ⟨e, rfl, rfl⟩
    · rw [hplace]
      refine .inr ⟨_, rfl, hempty, rfl, ?_⟩
      intro b hb
      cases hb
  · exact .inl ⟨_, rfl, rfl⟩

theorem faithful_mint (dest src : CapPtr) (badge : Badge) :
    ((kernelCall .mint (SimKernel.mint dest src badge) :
      Attempt (World (Machine ν)) Unit).filling dest (some badge)).Keeps Faithful :=
  faithful_filling (places_mint dest src badge)

theorem faithful_accept (dest : CapPtr) (index : Nat) :
    ((kernelCall .accept (SimKernel.accept dest index) :
      Attempt (World (Machine ν)) Unit).filling dest none).Keeps Faithful :=
  faithful_filling (places_accept dest index)

/-- A slot that is emptied is not held any more, and no other slot changes. -/
theorem faithful_delete (slot : CapPtr) :
    ((kernelCall .delete (SimKernel.delete slot) : Attempt (World (Machine ν)) Unit).recorded
      fun ok => [.deleted slot ok]).Keeps Faithful := by
  intro w hw h hh b hb
  obtain ⟨hheld, hne⟩ := List.mem_filter.1 (show h ∈ Holding.drop slot w.journal.held from hh)
  rw [bne_iff_ne] at hne
  have hthere := hw h hheld b hb
  obtain ⟨plan, ⟨e, hcall⟩ | hcall⟩ := kernelCall_cases .delete (SimKernel.delete slot)
    (World.plainPart.get w)
  · simp only [Attempt.recorded, hcall]
    exact hthere
  · simp only [Attempt.recorded, hcall]
    refine Eq.trans ?_ hthere
    show SimKernel.badgeOf _ _ = SimKernel.badgeOf _ _
    rw [SimKernel.badgeOf, SimKernel.badgeOf, SimKernel.cap, SimKernel.cap]
    show (IdMap.get? (IdMap.erase _ slot) h.slot).map _ = _
    rw [IdMap.get?_erase, if_neg hne]

theorem slots_revoke (slot : CapPtr) (k : SimKernel) :
    (SimKernel.revoke slot k).2.slots = k.slots := by
  unfold SimKernel.revoke
  split <;> rfl

theorem slots_receive (endpoint : CapPtr) (k : SimKernel) :
    (SimKernel.receive endpoint k).2.slots = k.slots := by
  unfold SimKernel.receive
  split <;> rfl

theorem held_revoked (slot : CapPtr) (ok : Bool) (j : Journal) :
    ∀ h ∈ Journal.held ([.revoked slot ok] ++ j), h.badge = none ∨ h ∈ j.held := by
  intro h hh
  cases ok with
  | true => exact .inr hh
  | false => exact .inr (List.mem_filter.1 hh).1

theorem held_filled (dest : CapPtr) (ok : Bool) (j : Journal) :
    ∀ h ∈ Journal.held ((if ok then [.filled dest none] else []) ++ j),
      h.badge = none ∨ h ∈ j.held := by
  intro h hh
  cases ok with
  | true =>
    rcases List.mem_cons.1 hh with rfl | hh
    · exact .inl rfl
    · exact .inr hh
  | false => exact .inr hh

/-- Every call of the platform keeps the machine faithful, and shared memory does not matter. -/
theorem respects_faithful : Server.Respects (platform : Platform (World (Machine ν))) Faithful where
  calls :=
    { kernel :=
        { mint := faithful_mint
          revoke := fun slot =>
            faithful_recorded (slots_kernelCall (slots_revoke slot)) (held_revoked slot)
          delete := faithful_delete
          accept := faithful_accept
          bindNotification := fun _ => faithful_on_plain (slots_kernelCall fun _ => rfl)
          receive := fun endpoint => faithful_on_plain (slots_kernelCall (slots_receive endpoint))
          reply := fun _ => faithful_on_plain (slots_kernelCall fun _ => rfl) }
      procs :=
        { newEndpoint := fun dest => faithful_recorded
            (fun w => congrArg _ (kernel_procCall w)) (held_filled dest)
          newAsyncEndpoint := fun dest => faithful_recorded
            (fun w => congrArg _ (kernel_procCall w)) (held_filled dest)
          watch := fun _ _ => faithful_on_plain fun w => congrArg _ (kernel_procCall w)
          unwatch := fun _ => faithful_on_plain fun w => congrArg _ (kernel_procCall w)
          openDataspace := fun _ dest => faithful_recorded
            (fun w => congrArg _ (kernel_procCall w)) (held_filled dest)
          registerNotices := fun _ => faithful_on_plain fun w => congrArg _ (kernel_procCall w)
          registerParams := fun _ _ => faithful_on_plain fun w => congrArg _ (kernel_procCall w) } }
  memory _ _ h := h

end Machine

end CapServer
