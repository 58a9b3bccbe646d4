import CapServer.Proofs.CapSpace.Recycling
import CapServer.Proofs.Pool.Supply
import CapServer.Proofs.Server.Ownership

/-!
# Replacing a parameter buffer

A client that asks for a parameter buffer gets the new one before the old one is given up. So a
request that is refused has changed nothing (`CapSpace.Untouched`), and one that is granted stands
whatever becomes of the old buffer: its slot is revoked, deleted and given back, each only after the
kernel agreed to what comes before (`CapSpace.Reclaimed`).

The new slot is taken before the old one is free, and all that the server owns is taken
(`Server.owned_taken`). Hence the two differ, and nobody else owns the new one, either.
-/

namespace CapServer

open Machine (guardedKernel)

variable {ν : Type}

/-! ## The kernel and the journal -/

namespace Machine

/-- The capability in a slot, where a journal is kept. -/
def capIn (w : World (Journaled (Machine ν))) (slot : CapPtr) : Option SimCap :=
  cap (World.plainPart.get w) slot

variable (slot : CapPtr) (w : World (Journaled (Machine ν)))

/-- Receiving is written down if it fills the slot, and leaves all slots alone if it does not. -/
theorem journaled_accept (index : Nat) :
    (∃ e w', guardedKernel.journaled.accept slot index w = (.error e, w') ∧ capIn w' = capIn w ∧
        w'.journal = w.journal) ∨
      ∃ object w', guardedKernel.journaled.accept slot index w = (.ok (), w') ∧
        capIn w slot = none ∧ w.rest.rest.kernel.received[index]? = some object ∧
        (∀ j, capIn w' j = if j = slot then some ⟨object, Badge.none⟩ else capIn w j) ∧
        w'.journal = .filled slot none :: w.journal := by
  rcases cap_accept slot index (World.plainPart.get w) with
    ⟨e, v, haccept, hcap⟩ | ⟨object, v, haccept, hempty, hobject, hcap⟩
  · refine .inl ⟨e, ⟨v.memory, v.rest, w.journal⟩, ?_, hcap, rfl⟩
    simp only [Kernel.journaled, Attempt.filling, Attempt.recorded, haccept]
    rfl
  · refine .inr ⟨object, ⟨v.memory, v.rest, .filled slot none :: w.journal⟩, ?_, hempty, hobject,
      hcap, rfl⟩
    simp only [Kernel.journaled, Attempt.filling, Attempt.recorded, haccept]
    rfl

/-- Revoking leaves all slots alone. -/
theorem journaled_revoke :
    ∃ a w', guardedKernel.journaled.revoke slot w = (a, w') ∧ capIn w' = capIn w ∧
      w'.journal = .revoked slot a.toBool :: w.journal :=
  ⟨_, _, rfl, cap_revoke slot (World.plainPart.get w), rfl⟩

/-- Deleting empties the slot if the kernel agrees. -/
theorem journaled_delete :
    (∃ e w', guardedKernel.journaled.delete slot w = (.error e, w') ∧ capIn w' = capIn w ∧
        w'.journal = .deleted slot false :: w.journal) ∨
      ∃ w', guardedKernel.journaled.delete slot w = (.ok (), w') ∧
        (∀ j, capIn w' j = if j = slot then none else capIn w j) ∧
        w'.journal = .deleted slot true :: w.journal := by
  rcases cap_delete slot (World.plainPart.get w) with ⟨e, v, hdelete, hcap⟩ | ⟨v, hdelete, hcap⟩
  · refine .inl ⟨e, ⟨v.memory, v.rest, .deleted slot false :: w.journal⟩, ?_, hcap, rfl⟩
    simp only [Kernel.journaled, Attempt.recorded, hdelete]
    rfl
  · refine .inr ⟨⟨v.memory, v.rest, .deleted slot true :: w.journal⟩, ?_, hcap, rfl⟩
    simp only [Kernel.journaled, Attempt.recorded, hdelete]
    rfl

end Machine

/-! ## Receiving a capability and giving one up -/

namespace CapSpace

open Machine (capIn)

variable {c c' : CapSpace (World (Journaled (Machine ν)))} {index : Nat} {slot : CapPtr}

/-- The same slots are free and hold the same capabilities, and nothing was asked of the kernel that
the journal would tell. -/
structure Untouched (c c' : CapSpace (World (Journaled (Machine ν)))) : Prop where
  free : ∀ slot, c'.slots.isFree slot = c.slots.isFree slot
  inUse : c'.slots.inUse = c.slots.inUse
  caps : capIn c'.world = capIn c.world
  journal : c'.world.journal = c.world.journal

theorem Untouched.refl (c : CapSpace (World (Journaled (Machine ν)))) : c.Untouched c :=
  ⟨fun _ => rfl, rfl, rfl, rfl⟩

/-- A slot can be allocated, and the kernel is ready to put a received capability there. -/
def Receives (index : Nat) (c : CapSpace (World (Journaled (Machine ν)))) : Prop :=
  ∃ slot slots, c.slots.alloc = some (slot, slots) ∧
    (guardedKernel.journaled.accept slot index c.world).1 = .ok ()

/-- A received capability was put into a slot that was free and empty. -/
structure Received (index : Nat) (slot : CapPtr) (c c' : CapSpace (World (Journaled (Machine ν)))) :
    Prop where
  alloc : c.slots.alloc = some (slot, c'.slots)
  empty : capIn c.world slot = none
  caps : ∃ object, c.world.rest.rest.kernel.received[index]? = some object ∧
    ∀ j, capIn c'.world j = if j = slot then some ⟨object, Badge.none⟩ else capIn c.world j
  journal : c'.world.journal = .filled slot none :: c.world.journal

/-- Taking a slot and giving it back leaves the same slots free. -/
theorem Untouched.of_alloc (hroomy : c.slots.pool.Roomy) {slots : SlotAllocator}
    (halloc : c.slots.alloc = some (slot, slots)) {w : World (Journaled (Machine ν))}
    (hcaps : capIn w = capIn c.world) (hjournal : w.journal = c.world.journal) :
    c.Untouched ⟨slots.free slot, w⟩ := by
  obtain ⟨⟨id, pool⟩, hpool, heq⟩ := Option.map_eq_some_iff.1 halloc
  cases heq
  have halike := Pool.Alike.of_alloc hroomy hpool
  exact ⟨fun i => (halike.isFree_eq i).symm, halike.inUse_eq.symm, hcaps, hjournal⟩

/-- Receiving a capability succeeds if it can be received, and does nothing otherwise. -/
theorem accept_cases (hroomy : c.slots.pool.Roomy) (index : Nat) :
    (¬ c.Receives index ∧
        ∃ e c', accept guardedKernel.journaled index c = (.error e, c') ∧ c.Untouched c') ∨
      c.Receives index ∧
        ∃ slot c', accept guardedKernel.journaled index c = (.ok slot, c') ∧
          Received index slot c c' := by
  rcases c.allocFilled_cases fun dest => guardedKernel.journaled.accept dest index with
    ⟨hnone, hfail⟩ | ⟨slot, slots, w, halloc, hfilled⟩
  · refine .inl ⟨?_, _, _, hfail, .refl c⟩
    rintro ⟨slot, slots, halloc, -⟩
    rw [hnone] at halloc
    cases halloc
  rcases Machine.journaled_accept slot c.world index with
    ⟨e, w', haccept, hcaps, hjournal⟩ | ⟨object, w', haccept, hempty, hobject, hcaps, hjournal⟩
  · rcases hfilled with ⟨hfill, -⟩ | ⟨_, hfill, hfail⟩ <;> cases haccept.symm.trans hfill
    refine .inl ⟨?_, e, _, hfail, .of_alloc hroomy halloc hcaps hjournal⟩
    rintro ⟨slot', slots', halloc', haccepted⟩
    cases halloc.symm.trans halloc'
    rw [haccept] at haccepted
    cases haccepted
  · rcases hfilled with ⟨hfill, hok⟩ | ⟨_, hfill, -⟩ <;> cases haccept.symm.trans hfill
    exact .inr ⟨⟨slot, slots, halloc, congrArg Prod.fst haccept⟩, slot, _, hok, halloc, hempty,
      ⟨object, hobject, hcaps⟩, hjournal⟩

/-- How giving up a slot ends: it is revoked, then deleted, then given back, once each, as long as
the kernel agrees. -/
inductive Reclaimed (slot : CapPtr) (c : CapSpace (World (Journaled (Machine ν)))) :
    CapSpace (World (Journaled (Machine ν))) → Prop
  /-- The revocation was refused. -/
  | unrevoked {w} (journal : w.journal = .revoked slot false :: c.world.journal)
      (caps : capIn w = capIn c.world) (withheld : c.slots.isFree slot = false) :
      Reclaimed slot c ⟨c.slots, w⟩
  /-- The deletion was refused. -/
  | undeleted {w}
      (journal : w.journal = .deleted slot false :: .revoked slot true :: c.world.journal)
      (caps : capIn w = capIn c.world) (withheld : c.slots.isFree slot = false) :
      Reclaimed slot c ⟨c.slots, w⟩
  /-- The slot is empty and free. -/
  | recycled {w}
      (journal : w.journal = .deleted slot true :: .revoked slot true :: c.world.journal)
      (caps : ∀ j, capIn w j = if j = slot then none else capIn c.world j)
      (free : ∀ j, (c.slots.free slot).isFree j = true ↔ c.slots.isFree j = true ∨ j = slot) :
      Reclaimed slot c ⟨c.slots.free slot, w⟩

theorem reclaimed (hroomy : c.slots.pool.Roomy) (htaken : c.slots.pool.isTaken slot = true) :
    Reclaimed slot c ((reclaim guardedKernel.journaled slot).settle c) := by
  have hwithheld : c.slots.isFree slot = false := by
    rw [Bool.eq_false_iff, Ne, SlotAllocator.isFree_iff, htaken]
    simp
  obtain ⟨a, w, hrevoke, hrevokedCaps, hrevoked⟩ := Machine.journaled_revoke slot c.world
  rw [Attempt.settle, reclaim_apply, hrevoke]
  rcases a with e | ⟨⟩
  · exact .unrevoked hrevoked hrevokedCaps hwithheld
  dsimp only
  rw [release_apply]
  rcases Machine.journaled_delete slot w with
    ⟨e, w', hdelete, hcaps, hdeleted⟩ | ⟨w', hdelete, hcaps, hdeleted⟩
  · rw [hdelete]
    rw [hrevoked] at hdeleted
    exact .undeleted hdeleted (hcaps.trans hrevokedCaps) hwithheld
  · rw [hdelete]
    rw [hrevoked] at hdeleted
    rw [hrevokedCaps] at hcaps
    exact .recycled hdeleted hcaps (SlotAllocator.isFree_free hroomy htaken)

end CapSpace

/-! ## The request -/

namespace Server

open CapSpace (Received Reclaimed)

section Ownership

variable {σ : Type} {p : Platform (World σ)} {names : Option (NameResolver (World σ))}
  {config : Config} {c : CapSpace (World σ)} {c' : CapSpace (World (Journaled σ))}
  {s₀ : Server (Journaled σ)}

/-- A session's slots are among those that its server owns. -/
theorem mem_ownedSlots {τ : Type} {s : Server τ} {client : ClientId} {session : Session}
    {slot : CapPtr} (hfound : s.session? client = some session) (hslot : slot ∈ session.slots) :
    slot ∈ s.ownedSlots := by
  obtain ⟨t, ht, hget⟩ := Option.bind_eq_some_iff.1 hfound
  have hsession : (client, session) ∈ t.table.toList := IdMap.get?_eq_some_iff.1 hget
  rw [ownedSlots, ht]
  refine List.mem_append_right _ (List.mem_flatMap.2 ⟨session, ?_, hslot⟩)
  exact List.mem_map_of_mem hsession

/-- Whatever was done with a server, all that it owns is taken, and can be given back. -/
theorem owned_taken (hroomy : c.slots.pool.Roomy)
    (hstart : start p.journaled (names.map NameResolver.journaled) config c.withJournal =
      (.ok s₀, c')) (calls : List (Call σ)) :
    let s := s₀.run p.journaled (calls.map Call.journaled)
    s.caps.slots.pool.Roomy ∧ ∀ slot ∈ s.ownedSlots, s.caps.slots.pool.isTaken slot = true := by
  have haccounts := accounts_run hroomy hstart calls
  refine ⟨haccounts.roomy, fun slot hslot => (haccounts.isTaken_iff slot).2 ?_⟩
  rw [← slots_holdings] at hslot
  rw [Holding.slots_append]
  exact List.mem_append_left _ (List.mem_append_right _ hslot)

end Ownership

variable {s : Server (Journaled (Machine ν))} {client : ClientId} {msg : Message} {size : Nat}

/-- The client is there and asks for no buffer, or for one that can be received. -/
def Grants (s : Server (Journaled (Machine ν))) (client : ClientId) (msg : Message) (size : Nat) :
    Prop :=
  (∃ session, s.session? client = some session) ∧
    (msg.AsksNone size ∨ msg.AsksBuffer size ∧ s.caps.Receives 0)

/-- The buffer that is granted, and the slots while the old one is still there. -/
inductive Acquired (s : Server (Journaled (Machine ν))) (msg : Message) (size : Nat) :
    Option ParamBuffer → CapSpace (World (Journaled (Machine ν))) → Prop
  | nothing (asked : msg.AsksNone size) : Acquired s msg size none s.caps
  | received {dataspace c₁} (asked : msg.AsksBuffer size)
      (received : Received 0 dataspace s.caps c₁) (fresh : dataspace ∉ s.ownedSlots) :
      Acquired s msg size (some ⟨dataspace, size, 0⟩) c₁

/-- How a request for a buffer ends. -/
inductive Replaces (s : Server (Journaled (Machine ν))) (client : ClientId) (msg : Message)
    (size : Nat) : Except Failure Unit × Server (Journaled (Machine ν)) → Prop
  /-- Nothing has happened. -/
  | refused {e c₁} (unmet : ¬ s.Grants client msg size) (untouched : s.caps.Untouched c₁) :
      Replaces s client msg size (.error e, { s with caps := c₁ })
  /-- The session has the new buffer, and the old one, if there was one, is given up after that. -/
  | granted {session buffer c₁ c₂} (met : s.Grants client msg size)
      (found : s.session? client = some session)
      (acquired : s.Acquired msg size buffer c₁)
      (kept : session.paramBuffer = none → c₂ = c₁)
      (dropped : ∀ old, session.paramBuffer = some old → Reclaimed old.dataspace c₁ c₂) :
      Replaces s client msg size (.ok (), { s with
        clients := s.clients.map fun t =>
          t.modify client fun session => { session with paramBuffer := buffer }
        caps := c₂ })

/-- What a session did not have is not dropped, and what it had is given up. -/
theorem dropBuffer_spec {c : CapSpace (World (Journaled (Machine ν)))} (hroomy : c.slots.pool.Roomy)
    {session : Session} (htaken : ∀ slot ∈ session.slots, c.slots.pool.isTaken slot = true) :
    (session.paramBuffer = none → Sessions.dropBuffer guardedKernel.journaled session c = c) ∧
      ∀ old, session.paramBuffer = some old →
        Reclaimed old.dataspace c (Sessions.dropBuffer guardedKernel.journaled session c) := by
  refine ⟨fun hnone => ?_, fun old hold => ?_⟩
  · rw [Sessions.dropBuffer, hnone]
    rfl
  · rw [Sessions.dropBuffer, hold]
    refine CapSpace.reclaimed hroomy (htaken _ ?_)
    simp [Session.slots, hold]

/-- Once the buffer is at hand, a live client gets it. -/
theorem replaces_of_acquired {session : Session} {buffer : Option ParamBuffer}
    {c₁ : CapSpace (World (Journaled (Machine ν)))} {t : ClientTable} (ht : s.clients = some t)
    (hget : t.get? client = some session)
    (htake : Sessions.takeBuffer guardedKernel.journaled msg size (t, s.caps) = (.ok buffer, t, c₁))
    (met : s.Grants client msg size) (acquired : s.Acquired msg size buffer c₁)
    (hroomy : c₁.slots.pool.Roomy)
    (htaken : ∀ slot ∈ session.slots, c₁.slots.pool.isTaken slot = true) :
    Replaces s client msg size (setParamBuffer guardedKernel.journaled client msg size s) := by
  have hfound : s.session? client = some session := by rw [session?, ht]; exact hget
  obtain ⟨hkept, hdropped⟩ := dropBuffer_spec hroomy htaken
  have hset := Replaces.granted met hfound acquired hkept hdropped
  rw [ht, Option.map_some] at hset
  rwa [setParamBuffer, withClients_of_some ht (Sessions.setParamBuffer_of_taken hget htake)]

theorem replaces_of_unmet {t : ClientTable} {e : Failure}
    {c₁ : CapSpace (World (Journaled (Machine ν)))} (ht : s.clients = some t)
    (hfail : Sessions.setParamBuffer guardedKernel.journaled client msg size (t, s.caps) =
      (.error e, t, c₁))
    (unmet : ¬ s.Grants client msg size) (untouched : s.caps.Untouched c₁) :
    Replaces s client msg size (setParamBuffer guardedKernel.journaled client msg size s) := by
  rw [setParamBuffer, withClients_of_some ht hfail, ← ht]
  exact .refused unmet untouched

/-- A buffer that is asked for is received into a slot that nobody owns, or nothing happens. -/
theorem replaces_of_asksBuffer (hroomy : s.caps.slots.pool.Roomy)
    (howned : ∀ slot ∈ s.ownedSlots, s.caps.slots.pool.isTaken slot = true) {t : ClientTable}
    {session : Session} (ht : s.clients = some t) (hget : t.get? client = some session)
    (hbuffer : msg.AsksBuffer size) :
    Replaces s client msg size (setParamBuffer guardedKernel.journaled client msg size s) := by
  have hfound : s.session? client = some session := by rw [session?, ht]; exact hget
  have htake := Sessions.takeBuffer_of_asksBuffer guardedKernel.journaled hbuffer t s.caps
  rcases CapSpace.accept_cases hroomy 0 with
    ⟨hnot, e, c₁, haccept, huntouched⟩ | ⟨hreceives, dataspace, c₁, haccept, hreceived⟩
  · rw [haccept] at htake
    refine replaces_of_unmet ht (Sessions.setParamBuffer_of_untaken hget htake) ?_ huntouched
    rintro ⟨-, hnone | ⟨-, hreceives⟩⟩
    · exact hbuffer.not_asksNone hnone
    · exact hnot hreceives
  · rw [haccept] at htake
    obtain ⟨-, hfree, hframe, hstays⟩ := SlotAllocator.alloc_spec hreceived.alloc
    have hfresh : dataspace ∉ s.ownedSlots := fun hmem => by
      rw [howned dataspace hmem] at hfree
      cases hfree
    exact replaces_of_acquired ht hget htake ⟨⟨session, hfound⟩, .inr ⟨hbuffer, hreceives⟩⟩
      (.received hbuffer hreceived hfresh) (hroomy.of_frame_eq hframe)
      fun slot hslot => (hstays slot).2 (.inr (howned slot (mem_ownedSlots hfound hslot)))

/-- A request for a buffer is refused without a trace, or granted. -/
theorem replaces (hroomy : s.caps.slots.pool.Roomy)
    (howned : ∀ slot ∈ s.ownedSlots, s.caps.slots.pool.isTaken slot = true) (client : ClientId)
    (msg : Message) (size : Nat) :
    Replaces s client msg size (setParamBuffer guardedKernel.journaled client msg size s) := by
  rcases ht : s.clients with _ | t
  · have hunmet : ¬ s.Grants client msg size := by
      rintro ⟨⟨session, hfound⟩, -⟩
      rw [session?, ht] at hfound
      cases hfound
    have hfail : setParamBuffer guardedKernel.journaled client msg size s =
        (.error .unsupported, s) := withClients_of_none ht
    rw [hfail]
    exact .refused hunmet (.refl s.caps)
  have hfound : s.session? client = t.get? client := by rw [session?, ht]; rfl
  rcases hget : t.get? client with _ | session
  · refine replaces_of_unmet ht (Sessions.setParamBuffer_of_unknown _ hget msg size) ?_ (.refl _)
    rintro ⟨⟨session, hsession⟩, -⟩
    rw [hfound, hget] at hsession
    cases hsession
  rw [hget] at hfound
  by_cases hnone : msg.AsksNone size
  · exact replaces_of_acquired ht hget (Sessions.takeBuffer_of_asksNone _ hnone _)
      ⟨⟨session, hfound⟩, .inl hnone⟩ (.nothing hnone) hroomy
      fun slot hslot => howned slot (mem_ownedSlots hfound hslot)
  by_cases hbuffer : msg.AsksBuffer size
  · exact replaces_of_asksBuffer hroomy howned ht hget hbuffer
  · obtain ⟨e, htake⟩ := Sessions.takeBuffer_refused guardedKernel.journaled hnone hbuffer
      (t, s.caps)
    refine replaces_of_unmet ht (Sessions.setParamBuffer_of_untaken hget htake) ?_ (.refl _)
    rintro ⟨-, hasked | ⟨hasked, -⟩⟩
    · exact hnone hasked
    · exact hbuffer hasked

/-- **A buffer is replaced as a whole.** Start a server on the machine and do with it whatever can
be done. Then a client's request for a buffer succeeds if and only if the client is there and asks
for none, or asks for one that can be received. If it fails, the server is as it was, the same slots
are free and hold the same capabilities, and nothing was revoked or deleted. If it succeeds, the
client has the buffer it asked for, in a slot that the server did not own; and after that the slot
of the old buffer was revoked, deleted and given back, or is withheld because the kernel refused. -/
theorem param_buffer_replaced (names : Option (NameResolver (World (Machine ν)))) (config : Config)
    (c : CapSpace (World (Machine ν))) (hroomy : c.slots.pool.Roomy)
    {s₀ : Server (Journaled (Machine ν))} {c' : CapSpace (World (Journaled (Machine ν)))}
    (hstart : start Machine.platform.journaled (names.map NameResolver.journaled) config
      c.withJournal = (.ok s₀, c'))
    (calls : List (Call (Machine ν))) (client : ClientId) (msg : Message) (size : Nat) :
    let s := s₀.run Machine.platform.journaled (calls.map Call.journaled)
    let r := setParamBuffer Machine.platform.journaled.kernel client msg size s
    (r.1 = .ok () ↔ s.Grants client msg size) ∧
      (r.1 ≠ .ok () → ∃ c₁, r.2 = { s with caps := c₁ } ∧ s.caps.Untouched c₁) ∧
      (r.1 = .ok () → ∃ session buffer c₁ c₂, s.session? client = some session ∧
        s.Acquired msg size buffer c₁ ∧
        (session.paramBuffer = none → c₂ = c₁) ∧
        (∀ old, session.paramBuffer = some old → Reclaimed old.dataspace c₁ c₂) ∧
        r.2 = { s with
          clients := s.clients.map fun t =>
            t.modify client fun session => { session with paramBuffer := buffer }
          caps := c₂ }) := by
  intro s r
  obtain ⟨hroomy', howned⟩ := owned_taken hroomy hstart calls
  have hr : Replaces s client msg size r := replaces hroomy' howned client msg size
  clear_value r
  cases hr with
  | refused unmet untouched =>
    exact ⟨⟨nofun, fun met => absurd met unmet⟩, fun _ => ⟨_, rfl, untouched⟩, nofun⟩
  | granted met found acquired kept dropped =>
    exact ⟨⟨fun _ => met, fun _ => rfl⟩, fun hne => absurd rfl hne,
      fun _ => ⟨_, _, _, _, found, acquired, kept, dropped, rfl⟩⟩

/-- A request for a buffer, with the dataspace for it. -/
def sampleDataspace : Message := (Request.encode (.setParamBuffer 0x40)).withCap 0x700

/-- A client connects and gets a buffer. Then another dataspace comes in for it, and the kernel is
going to refuse the next revocation. -/
def sampleBufferCalls : List (Call (Machine Unit)) :=
  [sampleSend ((Request.encode .connect).withCap 0x500) [], .serve,
    sampleSend { (Request.encode (.setParamBuffer 0x80)).withCap 0x600 with badge := 0x1001 } [],
    .serve,
    .outside fun w => { w with rest := { w.rest with
      kernel := w.rest.kernel.deliver sampleDataspace
      kernelFaults := w.rest.kernelFaults.extend .revoke [some (.kernel (-1))] } }]

/-- The new buffer stands although the old one could not be revoked. -/
theorem param_buffer_replaced_despite_refusal :
    let s := sampleServer.run Machine.platform.journaled (sampleBufferCalls.map Call.journaled)
    let r := setParamBuffer Machine.platform.journaled.kernel 1 sampleDataspace 0x40 s
    s.Grants 1 sampleDataspace 0x40 ∧
      (s.session? 1).bind Session.paramBuffer = some ⟨0x107, 0x80, 0⟩ ∧
      (r.2.session? 1).bind Session.paramBuffer = some ⟨0x108, 0x40, 0⟩ ∧
      r.2.caps.slots.isFree 0x107 = false ∧
      r.2.caps.world.journal =
        .revoked 0x107 false :: .filled 0x108 none :: s.caps.world.journal := by
  obtain ⟨hgrants, -, -⟩ := param_buffer_replaced none sampleConfig sampleCaps
    (Pool.roomy_ofRange _ _) sampleStart_eq sampleBufferCalls 1 sampleDataspace 0x40
  refine ⟨hgrants.1 ?_, ?_, ?_, ?_, ?_⟩ <;> decide +kernel

end Server

end CapServer
