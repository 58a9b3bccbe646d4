import CapServer.Proofs.CapSpace
import CapServer.Proofs.Connection.Log
import CapServer.Proofs.Names.Reachable
import CapServer.Proofs.Pool.Supply
import CapServer.Sim.Loopback

/-!
# What a connection takes and gives back

Connecting takes up to two slots, one for the session and one for the parameter buffer, and has them
filled one after the other. `Connection.connect_settles` says that whichever call fails, and
whatever the calls do besides, nothing of it is left, and that a connection that was made gives back
what it took.

Both slots are taken and filled in the same way (`CapSpace.takeFilled`), and each step says what it
has done when it succeeds and what it has undone when it fails, in terms of the free slots and the
log: `shareBuffer_eq_ok` and `shareBuffer_eq_error`, and so on up to `connect_holds` and
`connect_undone`.
-/

namespace CapServer

/-! ## Taking slots -/

namespace SlotAllocator

variable {a b : SlotAllocator} {slot : CapPtr} {slots : List CapPtr}

/-- A slot that was taken is given back. -/
theorem alike_free_of_alloc (ha : a.pool.Roomy) (h : a.alloc = some (slot, b)) :
    a.pool.Alike (b.free slot).pool := by
  obtain ⟨⟨_, pool⟩, halloc, heq⟩ := Option.map_eq_some_iff.1 h
  cases heq
  exact .of_alloc ha halloc

/-- Some slots are taken, one after the other; the last one stands first. -/
inductive Takes (a : SlotAllocator) : List CapPtr → SlotAllocator → Prop
  | nothing : Takes a [] a
  | one {slots : List CapPtr} {b b' : SlotAllocator} {slot : CapPtr} (h : Takes a slots b)
    (halloc : b.alloc = some (slot, b')) : Takes a (slot :: slots) b'

namespace Takes

theorem isFree_iff (h : a.Takes slots b) (i : CapPtr) :
    b.isFree i = true ↔ a.isFree i = true ∧ i ∉ slots := by
  induction h with
  | nothing => simp
  | one h halloc ih =>
    rw [(isFree_alloc halloc).2, ih, List.mem_cons, not_or, and_assoc]
    exact and_congr_right fun _ => and_comm

theorem free_before (h : a.Takes slots b) : ∀ slot ∈ slots, a.isFree slot = true := by
  induction h with
  | nothing => exact nofun
  | one h halloc ih =>
    intro i hi
    rcases List.mem_cons.1 hi with rfl | hi
    · exact ((h.isFree_iff i).1 (isFree_alloc halloc).1).1
    · exact ih i hi

theorem taken_after (h : a.Takes slots b) : ∀ slot ∈ slots, b.pool.isTaken slot = true := by
  induction h with
  | nothing => exact nofun
  | one h halloc ih =>
    have htaken := (alloc_spec halloc).2.2.2
    intro i hi
    rcases List.mem_cons.1 hi with rfl | hi
    · exact (htaken i).2 (.inl rfl)
    · exact (htaken i).2 (.inr (ih i hi))

theorem made (h : a.Takes slots b) (ha : a.Made) : b.Made := by
  induction h with
  | nothing => exact ha
  | one h halloc ih => exact .alloc ih halloc

theorem nodup (h : a.Takes slots b) : slots.Nodup := by
  induction h with
  | nothing => exact List.nodup_nil
  | one h halloc ih =>
    exact List.nodup_cons.2 ⟨((h.isFree_iff _).1 (isFree_alloc halloc).1).2, ih⟩

end Takes

theorem isFree_freeAll (ha : a.pool.Roomy) (hslots : slots.Nodup)
    (htaken : ∀ slot ∈ slots, a.pool.isTaken slot = true) (i : CapPtr) :
    (slots.foldl free a).isFree i = true ↔ a.isFree i = true ∨ i ∈ slots := by
  induction slots generalizing a with
  | nil => simp
  | cons slot slots ih =>
    obtain ⟨hslot, hslots⟩ := List.nodup_cons.1 hslots
    obtain ⟨hfirst, htaken⟩ := List.forall_mem_cons.1 htaken
    have hleft : ∀ j ∈ slots, (a.free slot).pool.isTaken j = true := by
      intro j hj
      refine (Pool.isTaken_free ha slot j).2 ⟨?_, htaken j hj⟩
      rintro rfl
      exact hslot hj
    have hroomy : (a.free slot).pool.Roomy := ha.of_frame_eq (a.pool.frame_free slot)
    rw [List.foldl_cons, ih hroomy hslots hleft, isFree_free ha hfirst, List.mem_cons, or_assoc]

end SlotAllocator

namespace CapSpace

variable {ω α β : Type} {c c' : CapSpace ω}

/-- Take a slot, fill it, and keep what the filling answered; if that fails, the slot goes back. -/
def takeFilled (fill : CapPtr → Attempt ω α) : Attempt (CapSpace ω) (CapPtr × α) := do
  let slot ← alloc
  match ← ((fill slot).on worldPart).catching with
  | .error e =>
    modify (free slot)
    throw e
  | .ok a => return (slot, a)

/-- Work on the world leaves the slots alone. -/
theorem slots_of_on {x : Attempt ω α} {a : Except Failure α} (h : x.on worldPart c = (a, c')) :
    c'.slots = c.slots :=
  (congrArg (fun r => r.2.slots) h).symm

/-- What comes after the filling may as well stand beside its failure. -/
theorem takeFilled_bind (fill : CapPtr → Attempt ω α) (use : CapPtr → α → Attempt (CapSpace ω) β) :
    (takeFilled fill >>= fun taken => use taken.1 taken.2) = (do
      let slot ← alloc
      match ← ((fill slot).on worldPart).catching with
      | .error e =>
        modify (free slot)
        throw e
      | .ok a => use slot a) := by
  unfold takeFilled
  rw [bind_assoc]
  refine congrArg _ (funext fun slot => ?_)
  rw [bind_assoc]
  refine congrArg _ (funext fun answer => ?_)
  cases answer <;> rfl

theorem takeFilled_apply (fill : CapPtr → Attempt ω α) (c : CapSpace ω) :
    takeFilled fill c = match c.slots.alloc with
      | none => (.error .resourceExhausted, c)
      | some (slot, slots) =>
        match fill slot c.world with
        | (.ok a, w) => (.ok (slot, a), ⟨slots, w⟩)
        | (.error e, w) => (.error e, ⟨slots.free slot, w⟩) := by
  rcases halloc : c.slots.alloc with _ | ⟨slot, slots⟩
  · simp only [takeFilled, alloc, Attempt.bind_apply, halloc]
  · simp only [takeFilled, alloc, Attempt.bind_apply, halloc, Attempt.catching_apply,
      Attempt.on_apply, worldPart]
    rcases fill slot c.world with ⟨e | a, w⟩ <;> rfl

theorem takeFilled_eq_ok {fill : CapPtr → Attempt ω α} {slot : CapPtr} {a : α}
    (h : takeFilled fill c = (.ok (slot, a), c')) :
    c.slots.alloc = some (slot, c'.slots) ∧ fill slot c.world = (.ok a, c'.world) := by
  rw [takeFilled_apply] at h
  split at h
  · cases h
  · next slot' slots halloc =>
    split at h
    · next hfill =>
      cases h
      exact ⟨halloc, hfill⟩
    · cases h

theorem takeFilled_eq_error (hc : c.slots.pool.Roomy) {fill : CapPtr → Attempt ω α} {e : Failure}
    (h : takeFilled fill c = (.error e, c')) :
    c.slots.pool.Alike c'.slots.pool ∧
      (c'.world = c.world ∨ ∃ slot, fill slot c.world = (.error e, c'.world)) := by
  rw [takeFilled_apply] at h
  split at h
  · cases h
    exact ⟨.refl hc, .inl rfl⟩
  · next slot slots halloc =>
    split at h
    · cases h
    · next hfill =>
      cases h
      exact ⟨SlotAllocator.alike_free_of_alloc hc halloc, .inr ⟨slot, hfill⟩⟩

end CapSpace

/-- The slot of a session. -/
def SessionCap.slots : SessionCap → List CapPtr
  | anonymous _ => []
  | session slot => [slot]

namespace Connection

/-- The slots of a buffer. -/
def bufferSlots (buffer : Option SharedBuffer) : List CapPtr :=
  (buffer.map SharedBuffer.dataspace).toList

/-- The slots a connection holds. -/
def slots (conn : Connection) : List CapPtr := bufferSlots conn.paramBuffer ++ conn.session.slots

variable {ω : Type}

/-! ## The steps of a connection -/

/-- Share a dataspace that was opened. -/
def offer (c : Client ω) (session : CapPtr) (size : Nat) (dataspace : CapPtr) (region : RegionId) :
    Attempt (CapSpace ω) SharedBuffer := do
  match ← ((c.server.setParamBuffer session dataspace size).on CapSpace.worldPart).catching with
  | .error e =>
    modify (CapSpace.discard c.kernel dataspace)
    throw e
  | .ok () => return ⟨dataspace, region, size⟩

theorem shareBuffer_eq (c : Client ω) (session : CapPtr) (size : Nat) :
    shareBuffer c session size = CapSpace.takeFilled (c.procs.openDataspace size) >>= fun taken =>
      offer c session size taken.1 taken.2 := by
  rw [CapSpace.takeFilled_bind (c.procs.openDataspace size) (offer c session size)]
  refine congrArg _ (funext fun dataspace => congrArg _ (funext fun answer => ?_))
  cases answer <;> rfl

/-- Settle in a session that was opened. -/
def enter (c : Client ω) (options : ConnectOptions) (mount : MountPoint) (session : CapPtr) :
    Attempt (CapSpace ω) Connection := do
  match ← (settleIn c session options.paramBufferSize).catching with
  | .error e =>
    abandon c session
    throw e
  | .ok buffer => return ⟨mount, .session session, buffer⟩

theorem openSession_eq (c : Client ω) (options : ConnectOptions) (mount : MountPoint) :
    openSession c options mount =
      CapSpace.takeFilled (c.server.connect mount.server options.liveness) >>= fun taken =>
        enter c options mount taken.1 := by
  rw [CapSpace.takeFilled_bind (c.server.connect mount.server options.liveness)
    fun session _ => enter c options mount session]
  refine congrArg _ (funext fun session => congrArg _ (funext fun answer => ?_))
  cases answer <;> rfl

section Logged

variable {c : Client ω} {s s' : CapSpace (ω × ClientLog)} {session slot dataspace : CapPtr}
  {size : Nat} {region : RegionId} {e : Failure} {options : ConnectOptions} {mount : MountPoint}
  {conn : Connection}

/-- Unless the kernel refuses, a slot that is discarded is emptied and goes back. -/
theorem discard_logged (hobeyed : (CapSpace.discard c.logged.kernel slot s).world.2.Obeyed) :
    (CapSpace.discard c.logged.kernel slot s).slots = s.slots.free slot ∧
      (CapSpace.discard c.logged.kernel slot s).world.2 = s.world.2 ++ [.deleted slot] := by
  unfold CapSpace.discard Attempt.settle at hobeyed ⊢
  rw [CapSpace.release_apply] at hobeyed ⊢
  rcases hdelete : c.logged.kernel.delete slot s.world with ⟨e | ⟨⟩, w⟩
  · rw [hdelete] at hobeyed
    refine absurd ?_ (hobeyed slot)
    rw [Client.log_delete hdelete]
    exact List.mem_append_right _ List.mem_cons_self
  · exact ⟨rfl, Client.log_delete hdelete⟩

theorem offer_apply (c : Client ω) (session : CapPtr) (size : Nat) (dataspace : CapPtr)
    (region : RegionId) (s : CapSpace ω) :
    offer c session size dataspace region s =
      match c.server.setParamBuffer session dataspace size s.world with
      | (.ok (), w) => (.ok ⟨dataspace, region, size⟩, ⟨s.slots, w⟩)
      | (.error e, w) => (.error e, CapSpace.discard c.kernel dataspace ⟨s.slots, w⟩) := by
  simp only [offer, Attempt.bind_apply, Attempt.catching_apply, Attempt.on_apply,
    CapSpace.worldPart]
  rcases c.server.setParamBuffer session dataspace size s.world with ⟨e | ⟨⟩, w⟩ <;> rfl

theorem offer_eq_ok {buffer : SharedBuffer}
    (hr : offer c.logged session size dataspace region s = (.ok buffer, s')) :
    buffer = ⟨dataspace, region, size⟩ ∧ s'.slots = s.slots ∧ s'.world.2 = s.world.2 := by
  rw [offer_apply] at hr
  split at hr
  · next hset =>
    cases hr
    exact ⟨rfl, rfl, Client.log_setParamBuffer hset⟩
  · cases hr

theorem offer_eq_error (hr : offer c.logged session size dataspace region s = (.error e, s'))
    (hobeyed : s'.world.2.Obeyed) :
    s'.slots = s.slots.free dataspace ∧ s'.world.2 = s.world.2 ++ [.deleted dataspace] := by
  rw [offer_apply] at hr
  split at hr
  · cases hr
  · next hset =>
    cases hr
    obtain ⟨hslots, hlog⟩ := discard_logged hobeyed
    rw [hslots, hlog, Client.log_setParamBuffer hset]
    exact ⟨rfl, rfl⟩

/-- What is left in the log of a buffer that was opened and not shared. -/
def unshared : Option CapPtr → ClientLog
  | none => []
  | some dataspace => [.opened dataspace, .deleted dataspace]

theorem shareBuffer_eq_ok {buffer : SharedBuffer}
    (hr : shareBuffer c.logged session size s = (.ok buffer, s')) :
    s.slots.alloc = some (buffer.dataspace, s'.slots) ∧
      s'.world.2 = s.world.2 ++ [.opened buffer.dataspace] := by
  rw [shareBuffer_eq] at hr
  obtain ⟨⟨dataspace, region⟩, s₁, htake, hoffer⟩ := Attempt.bind_eq_ok hr
  obtain ⟨halloc, hopen⟩ := CapSpace.takeFilled_eq_ok htake
  obtain ⟨rfl, hslots, hlog⟩ := offer_eq_ok hoffer
  rw [hslots, hlog, Client.log_openDataspace hopen]
  exact ⟨halloc, rfl⟩

theorem shareBuffer_eq_error (hs : s.slots.pool.Roomy)
    (hr : shareBuffer c.logged session size s = (.error e, s')) (hobeyed : s'.world.2.Obeyed) :
    s.slots.pool.Alike s'.slots.pool ∧
      ∃ dataspace, s'.world.2 = s.world.2 ++ unshared dataspace := by
  rw [shareBuffer_eq] at hr
  rcases Attempt.bind_eq_error hr with htake | ⟨⟨dataspace, region⟩, s₁, htake, hoffer⟩
  · obtain ⟨halike, hworld | ⟨slot, hopen⟩⟩ := CapSpace.takeFilled_eq_error hs htake
    · exact ⟨halike, none, by rw [hworld, unshared, List.append_nil]⟩
    · exact ⟨halike, none, Client.log_openDataspace hopen⟩
  · obtain ⟨halloc, hopen⟩ := CapSpace.takeFilled_eq_ok htake
    obtain ⟨hslots, hlog⟩ := offer_eq_error hoffer hobeyed
    refine ⟨?_, some dataspace, ?_⟩
    · rw [hslots]
      exact SlotAllocator.alike_free_of_alloc hs halloc
    · rw [hlog, Client.log_openDataspace hopen, List.append_assoc]
      rfl

theorem settleIn_eq_ok {buffer : Option SharedBuffer}
    (hr : settleIn c.logged session size s = (.ok buffer, s')) {slots : List CapPtr}
    {a : SlotAllocator} (hs : a.Takes slots s.slots) :
    a.Takes (bufferSlots buffer ++ slots) s'.slots ∧ (buffer.isSome = true ↔ 0 < size) ∧
      s'.world.2 = s.world.2 ++ (bufferSlots buffer).map .opened := by
  obtain ⟨⟨⟩, s₁, hping, hr⟩ := Attempt.bind_eq_ok hr
  have hslots := CapSpace.slots_of_on hping
  have hlog : s₁.world.2 = s.world.2 := Client.log_ping (CapSpace.world_of_on hping)
  by_cases hsize : size = 0
  · rw [if_pos hsize] at hr
    cases hr
    rw [hslots, hlog]
    exact ⟨hs, by simp [hsize], (List.append_nil _).symm⟩
  · rw [if_neg hsize] at hr
    obtain ⟨buffer, s₂, hshare, hr⟩ := Attempt.bind_eq_ok hr
    cases hr
    obtain ⟨halloc, hlog'⟩ := shareBuffer_eq_ok hshare
    rw [hslots] at halloc
    rw [hlog', hlog]
    exact ⟨.one hs halloc, by simp [Nat.pos_of_ne_zero hsize], rfl⟩

theorem settleIn_eq_error (hs : s.slots.pool.Roomy)
    (hr : settleIn c.logged session size s = (.error e, s')) (hobeyed : s'.world.2.Obeyed) :
    s.slots.pool.Alike s'.slots.pool ∧
      ∃ dataspace, s'.world.2 = s.world.2 ++ unshared dataspace := by
  rcases Attempt.bind_eq_error hr with hping | ⟨⟨⟩, s₁, hping, hr⟩
  · have hslots := CapSpace.slots_of_on hping
    have hlog := Client.log_ping (CapSpace.world_of_on hping)
    rw [hslots, hlog]
    exact ⟨.refl hs, none, (List.append_nil _).symm⟩
  · have hslots := CapSpace.slots_of_on hping
    have hlog := Client.log_ping (CapSpace.world_of_on hping)
    rw [← hslots] at hs ⊢
    rw [← hlog]
    by_cases hsize : size = 0
    · rw [if_pos hsize] at hr
      cases hr
    · rw [if_neg hsize] at hr
      rcases Attempt.bind_eq_error hr with hshare | ⟨buffer, s₂, -, hr⟩
      · exact shareBuffer_eq_error hs hshare hobeyed
      · cases hr

theorem abandon_apply (c : Client ω) (session : CapPtr) (s : CapSpace ω) :
    abandon c session s = (.ok (), CapSpace.discard c.kernel session
      ⟨s.slots, (c.server.disconnect session).settle s.world⟩) := rfl

theorem abandon_logged (hobeyed : ((abandon c.logged session).settle s).world.2.Obeyed) :
    ((abandon c.logged session).settle s).slots = s.slots.free session ∧
      ((abandon c.logged session).settle s).world.2 =
        s.world.2 ++ [.disconnected session, .deleted session] := by
  rw [Attempt.settle, abandon_apply] at hobeyed ⊢
  obtain ⟨hslots, hlog⟩ := discard_logged hobeyed
  have hclosed : ((c.logged.server.disconnect session).settle s.world).2 =
      s.world.2 ++ [.disconnected session] := Client.log_disconnect rfl
  refine ⟨hslots, hlog.trans ?_⟩
  rw [hclosed, List.append_assoc]
  rfl

theorem enter_apply (c : Client ω) (options : ConnectOptions) (mount : MountPoint)
    (session : CapPtr) (s : CapSpace ω) :
    enter c options mount session s =
      match settleIn c session options.paramBufferSize s with
      | (.ok buffer, s) => (.ok ⟨mount, .session session, buffer⟩, s)
      | (.error e, s) => (.error e, (abandon c session).settle s) := by
  simp only [enter, Attempt.bind_apply, Attempt.catching_apply]
  rcases settleIn c session options.paramBufferSize s with ⟨e | buffer, s⟩ <;> rfl

/-- What is left in the log of a session that was opened and given up. -/
def abandoned (session : CapPtr) (dataspace : Option CapPtr) : ClientLog :=
  .connected session :: unshared dataspace ++ [.disconnected session, .deleted session]

theorem enter_eq_ok (hr : enter c.logged options mount session s = (.ok conn, s'))
    {slots : List CapPtr} {a : SlotAllocator} (hs : a.Takes slots s.slots) :
    conn.mount = mount ∧ conn.session = .session session ∧
      (conn.paramBuffer.isSome = true ↔ 0 < options.paramBufferSize) ∧
      a.Takes (bufferSlots conn.paramBuffer ++ slots) s'.slots ∧
      s'.world.2 = s.world.2 ++ (bufferSlots conn.paramBuffer).map .opened := by
  rw [enter_apply] at hr
  split at hr
  · next hsettle =>
    cases hr
    obtain ⟨htakes, hbuffer, hlog⟩ := settleIn_eq_ok hsettle hs
    exact ⟨rfl, rfl, hbuffer, htakes, hlog⟩
  · cases hr

theorem enter_eq_error (hs : s.slots.pool.Roomy)
    (hr : enter c.logged options mount session s = (.error e, s')) (hobeyed : s'.world.2.Obeyed) :
    (s.slots.free session).pool.Alike s'.slots.pool ∧ ∃ dataspace, s'.world.2 =
      s.world.2 ++ (unshared dataspace ++ [.disconnected session, .deleted session]) := by
  rw [enter_apply] at hr
  split at hr
  · cases hr
  · next e' s₁ hsettle =>
    cases hr
    obtain ⟨hslots, hlog⟩ := abandon_logged hobeyed
    rw [hlog] at hobeyed
    obtain ⟨halike, dataspace, hlog'⟩ := settleIn_eq_error hs hsettle hobeyed.of_append
    refine ⟨?_, dataspace, by rw [hlog, hlog', List.append_assoc]⟩
    rw [hslots]
    exact halike.free session

theorem openSession_eq_ok (hr : openSession c.logged options mount s = (.ok conn, s')) :
    conn.mount = mount ∧ conn.session.isAnonymous = false ∧
      (conn.paramBuffer.isSome = true ↔ 0 < options.paramBufferSize) ∧
      s.slots.Takes conn.slots s'.slots ∧ s'.world.2 = s.world.2 ++
        (conn.session.slots.map .connected ++ (bufferSlots conn.paramBuffer).map .opened) := by
  rw [openSession_eq] at hr
  obtain ⟨⟨session, ⟨⟩⟩, s₁, htake, henter⟩ := Attempt.bind_eq_ok hr
  obtain ⟨halloc, hconnect⟩ := CapSpace.takeFilled_eq_ok htake
  obtain ⟨hmount, hsession, hbuffer, htakes, hlog⟩ := enter_eq_ok henter (.one .nothing halloc)
  rw [slots, hsession]
  refine ⟨hmount, rfl, hbuffer, htakes, ?_⟩
  rw [hlog, Client.log_connect hconnect, List.append_assoc]
  rfl

theorem openSession_eq_error (hs : s.slots.pool.Roomy)
    (hr : openSession c.logged options mount s = (.error e, s')) (hobeyed : s'.world.2.Obeyed) :
    s.slots.pool.Alike s'.slots.pool ∧ (s'.world.2 = s.world.2 ∨
      ∃ session dataspace, s'.world.2 = s.world.2 ++ abandoned session dataspace) := by
  rw [openSession_eq] at hr
  rcases Attempt.bind_eq_error hr with htake | ⟨⟨session, ⟨⟩⟩, s₁, htake, henter⟩
  · obtain ⟨halike, hworld | ⟨slot, hconnect⟩⟩ := CapSpace.takeFilled_eq_error hs htake
    · exact ⟨halike, .inl (by rw [hworld])⟩
    · exact ⟨halike, .inl ((Client.log_connect hconnect).trans (List.append_nil _))⟩
  · obtain ⟨halloc, hconnect⟩ := CapSpace.takeFilled_eq_ok htake
    have hs₁ : s₁.slots.pool.Roomy := hs.of_frame_eq (SlotAllocator.alloc_spec halloc).2.2.1
    obtain ⟨halike, dataspace, hlog⟩ := enter_eq_error hs₁ henter hobeyed
    refine ⟨(SlotAllocator.alike_free_of_alloc hs halloc).trans halike,
      .inr ⟨session, dataspace, ?_⟩⟩
    rw [hlog, Client.log_connect hconnect, List.append_assoc]
    rfl

/-! ## Connecting -/

theorem log_resolve {root : CapPtr} {path : Path} {a : Except Failure MountPoint}
    {w w' : ω × ClientLog} (hr : MountPoint.resolve c.logged.names root path w = (a, w')) :
    w'.2 = w.2 := by
  have hkeeps : ∀ ns path, (c.logged.names.resolve ns path).Keeps fun v => v.2 = w.2 :=
    fun _ _ _ hv => hv
  exact (MountPoint.keeps_walk hkeeps root root [] path).of_eq hr rfl

/-- A connection that was made holds what was taken for it. -/
structure Holds (options : ConnectOptions) (before after : SlotAllocator) (log : ClientLog)
    (conn : Connection) : Prop where
  made : after.Made
  taken : ∀ slot ∈ conn.slots, after.pool.isTaken slot = true
  nodup : conn.slots.Nodup
  fresh : ∀ slot ∈ conn.slots, before.isFree slot = true
  free : ∀ slot, after.isFree slot = true ↔ before.isFree slot = true ∧ slot ∉ conn.slots
  filled : log.filled = conn.slots
  connects : log.connects = conn.session.slots
  disconnects : log.disconnects = []
  connectionless : conn.session.isAnonymous = options.connectionless.contains conn.mount.server
  buffer : conn.paramBuffer.isSome = true ↔
    conn.session.isAnonymous = false ∧ 0 < options.paramBufferSize

/-- Nothing is left of a connection that was not made. -/
structure Undone (before after : SlotAllocator) (log : ClientLog) : Prop where
  free : ∀ slot, after.isFree slot = before.isFree slot
  filled : log.filled = []
  disconnects : log.disconnects = log.connects
  once : log.connects.length ≤ 1

/-- A connection that was closed gave back what it held. -/
structure GivesBack (conn : Connection) (before after : SlotAllocator) (log : ClientLog) :
    Prop where
  free : ∀ slot, after.isFree slot = true ↔ before.isFree slot = true ∨ slot ∈ conn.slots
  deletes : log.deletes = conn.slots
  disconnects : log.disconnects = conn.session.slots

theorem connect_holds {path : Path} (hmade : s.slots.Made)
    (hr : connect c.logged options path s = (.ok conn, s')) (hlog : s.world.2 = []) :
    Holds options s.slots s'.slots s'.world.2 conn := by
  obtain ⟨mount, s₁, hresolve, hr⟩ := Attempt.bind_eq_ok hr
  have hslots := CapSpace.slots_of_on hresolve
  have hlog₁ := (log_resolve (CapSpace.world_of_on hresolve)).trans hlog
  by_cases hanonymous : options.connectionless.contains mount.server = true
  · rw [if_pos hanonymous] at hr
    cases hr
    rw [hslots, hlog₁]
    exact ⟨hmade, nofun, List.nodup_nil, nofun, by simp [slots, bufferSlots, SessionCap.slots],
      rfl, rfl, rfl, hanonymous.symm, by simp [SessionCap.isAnonymous]⟩
  · rw [if_neg hanonymous] at hr
    obtain ⟨hmount, hsession, hbuffer, htakes, hlog'⟩ := openSession_eq_ok hr
    rw [hslots] at htakes
    rw [hlog₁, List.nil_append] at hlog'
    obtain ⟨m, session, buffer⟩ := conn
    obtain ⟨endpoint⟩ | ⟨slot⟩ := session
    · cases hsession
    refine ⟨htakes.made hmade, htakes.taken_after, htakes.nodup, htakes.free_before,
      htakes.isFree_iff, ?_, ?_, ?_, ?_, ?_⟩
    · rw [hlog']
      cases buffer <;> rfl
    · rw [hlog']
      cases buffer <;> rfl
    · rw [hlog']
      cases buffer <;> rfl
    · rw [hsession, hmount]
      exact (Bool.eq_false_iff.2 hanonymous).symm
    · rw [hbuffer]
      simp [hsession]

theorem connect_undone {path : Path} (hs : s.slots.pool.Roomy)
    (hr : connect c.logged options path s = (.error e, s')) (hlog : s.world.2 = [])
    (hobeyed : s'.world.2.Obeyed) : Undone s.slots s'.slots s'.world.2 := by
  rcases Attempt.bind_eq_error hr with hresolve | ⟨mount, s₁, hresolve, hr⟩
  · rw [CapSpace.slots_of_on hresolve, (log_resolve (CapSpace.world_of_on hresolve)).trans hlog]
    exact ⟨fun _ => rfl, rfl, rfl, Nat.zero_le 1⟩
  · have hslots := CapSpace.slots_of_on hresolve
    have hlog₁ := (log_resolve (CapSpace.world_of_on hresolve)).trans hlog
    rw [← hslots] at hs ⊢
    by_cases hanonymous : options.connectionless.contains mount.server = true
    · rw [if_pos hanonymous] at hr
      cases hr
    · rw [if_neg hanonymous] at hr
      obtain ⟨halike, hlog'⟩ := openSession_eq_error hs hr hobeyed
      rw [hlog₁] at hlog'
      have hfree : ∀ slot, s'.slots.isFree slot = s₁.slots.isFree slot :=
        fun slot => (halike.isFree_eq slot).symm
      rcases hlog' with hlog' | ⟨session, dataspace, hlog'⟩
      · rw [hlog']
        exact ⟨hfree, rfl, rfl, Nat.zero_le 1⟩
      · rw [hlog', List.nil_append]
        refine ⟨hfree, ?_, ?_, ?_⟩
        · cases dataspace <;> simp [abandoned, unshared, ClientLog.filled, ClientLog.fill]
        · cases dataspace <;> rfl
        · cases dataspace <;> exact Nat.le_refl 1

theorem settle_close (c : Client ω) (session : CapPtr) (s : CapSpace ω) :
    (close c (.session session)).settle s = (abandon c session).settle s := by
  simp only [Attempt.settle, close, Attempt.bind_apply, Attempt.catching_apply,
    Attempt.modify_apply, Attempt.ofExcept_apply, abandon_apply]
  rfl

theorem close_logged {session : SessionCap}
    (hobeyed : ((close c.logged session).settle s).world.2.Obeyed) :
    ((close c.logged session).settle s).slots = session.slots.foldl SlotAllocator.free s.slots ∧
      ((close c.logged session).settle s).world.2 = s.world.2 ++
        session.slots.flatMap fun slot => [.disconnected slot, .deleted slot] := by
  cases session with
  | anonymous endpoint => exact ⟨rfl, (List.append_nil _).symm⟩
  | session slot =>
    rw [settle_close] at hobeyed ⊢
    exact abandon_logged hobeyed

theorem disconnect_logged (hobeyed : ((disconnect c.logged conn).settle s).world.2.Obeyed) :
    ((disconnect c.logged conn).settle s).slots = conn.slots.foldl SlotAllocator.free s.slots ∧
      ((disconnect c.logged conn).settle s).world.2 = s.world.2 ++
        ((bufferSlots conn.paramBuffer).map .deleted ++
          conn.session.slots.flatMap fun slot => [.disconnected slot, .deleted slot]) := by
  obtain ⟨mount, session, buffer⟩ := conn
  rw [disconnect_eq] at hobeyed ⊢
  cases buffer with
  | none => exact close_logged hobeyed
  | some buffer =>
    obtain ⟨hslots, hlog⟩ := close_logged
      (s := CapSpace.discard c.logged.kernel buffer.dataspace s) hobeyed
    have hfirst : (CapSpace.discard c.logged.kernel buffer.dataspace s).world.2.Obeyed :=
      ClientLog.Obeyed.of_append (hlog ▸ hobeyed)
    obtain ⟨hslots', hlog'⟩ := discard_logged hfirst
    refine ⟨hslots.trans ?_, hlog.trans ?_⟩
    · rw [hslots']
      rfl
    · rw [hlog', List.append_assoc]
      rfl

theorem disconnect_gives_back (hs : s.slots.pool.Roomy) (hslots : conn.slots.Nodup)
    (htaken : ∀ slot ∈ conn.slots, s.slots.pool.isTaken slot = true) (hlog : s.world.2 = [])
    (hobeyed : ((disconnect c.logged conn).settle s).world.2.Obeyed) :
    GivesBack conn s.slots ((disconnect c.logged conn).settle s).slots
      ((disconnect c.logged conn).settle s).world.2 := by
  obtain ⟨hfreed, hlog'⟩ := disconnect_logged hobeyed
  rw [hlog, List.nil_append] at hlog'
  rw [hfreed, hlog']
  refine ⟨SlotAllocator.isFree_freeAll hs hslots htaken, ?_, ?_⟩
  · obtain ⟨mount, _ | slot, _ | buffer⟩ := conn <;> rfl
  · obtain ⟨mount, _ | slot, _ | buffer⟩ := conn <;> rfl

end Logged

/-- **A connection is made or undone.** Whatever the collaborators answer and do, as long as the
kernel empties the slots it is told to: if connecting fails, the free slots are those from before,
every slot that was filled is empty again, and the server was told to close the session if it had
opened one, once, and otherwise not. If it succeeds, what was taken is what the connection holds;
and whenever the connection is closed later, just that is given back, and the server is told to
close the session once if there is one. -/
theorem connect_settles (c : Client ω) (options : ConnectOptions) (path : Path)
    (caps : CapSpace ω) (hmade : caps.slots.Made) :
    ∃ answer caps' log,
      connect c options path caps = (answer, caps') ∧
      connect c.logged options path (caps.withLog []) = (answer, caps'.withLog log) ∧
      (∀ e, answer = .error e → log.Obeyed → Undone caps.slots caps'.slots log) ∧
      ∀ conn, answer = .ok conn → Holds options caps.slots caps'.slots log conn ∧
        ∀ later : CapSpace ω, later.slots.Made →
          (∀ slot ∈ conn.slots, later.slots.pool.isTaken slot = true) →
          ∃ answer later' log,
            disconnect c conn later = (answer, later') ∧
            disconnect c.logged conn (later.withLog []) = (answer, later'.withLog log) ∧
            (log.Obeyed → GivesBack conn later.slots later'.slots log) := by
  have hmirrors := Client.mirrors_logged c
  obtain ⟨answer, caps', log, hplain, hlogged⟩ :=
    CapSpace.exists_log (mirrors_connect hmirrors options path) caps []
  refine ⟨answer, caps', log, hplain, hlogged, ?_, ?_⟩
  · rintro e rfl hobeyed
    exact connect_undone hmade.roomy hlogged rfl hobeyed
  · rintro conn rfl
    have hholds : Holds options caps.slots caps'.slots log conn := connect_holds hmade hlogged rfl
    refine ⟨hholds, ?_⟩
    intro later hlater htaken
    obtain ⟨answer, later', log', hplain', hlogged'⟩ :=
      CapSpace.exists_log (mirrors_disconnect hmirrors conn) later []
    refine ⟨answer, later', log', hplain', hlogged', ?_⟩
    intro hobeyed
    have hsettle : (disconnect c.logged conn).settle (later.withLog []) = later'.withLog log' :=
      congrArg Prod.snd hlogged'
    have hback := disconnect_gives_back (c := c) (s := later.withLog []) hlater.roomy hholds.nodup
      htaken rfl (by rw [hsettle]; exact hobeyed)
    rwa [hsettle] at hback

/-- A client of the mounted server, whose requests to share a buffer fail by plan. -/
def sampleLink (faults : List (Option Failure)) : CapSpace (Link Unit) where
  slots := ⟨.ofRange 0x200 0x210⟩
  world :=
    { server := Directory.sampleMounted
      client := ⟨.empty, .fresh ()⟩
      calls := []
      callFaults := FaultPlan.empty.extend .setParamBuffer faults }

def sampleClient : Client (Link Unit) := Link.asClient (.basic Machine.platform)

def sampleOptions : ConnectOptions := { root := 3, liveness := 0x50, paramBufferSize := 0x40 }

/-- Connecting that client, with a log. -/
def sampleConnect (faults : List (Option Failure)) :
    Except Failure Connection × CapSpace (Link Unit × ClientLog) :=
  connect sampleClient.logged sampleOptions ['/', 'f', 's', '/', 'a']
    ((sampleLink faults).withLog [])

/-- The connection that is made if no request fails. -/
def sampleConnection : Connection where
  mount := ⟨0x100, 3, ['/', 'f', 's', '/'], ['a']⟩
  session := .session 0x200
  paramBuffer := some ⟨0x201, 0, 0x40⟩

/-- Closing it at once, with a log. -/
def sampleDisconnect : Except Failure Unit × CapSpace (Link Unit × ClientLog) :=
  disconnect sampleClient.logged sampleConnection ⟨(sampleConnect []).2.slots,
    (sampleConnect []).2.world.1, []⟩

/-- A server that does not take the buffer: what was done before is undone. If it does take it, the
connection holds two slots until it is closed. -/
theorem connect_settles_refused :
    (∃ caps' log,
      connect sampleClient sampleOptions ['/', 'f', 's', '/', 'a'] (sampleLink [some .notFound]) =
        (.error .notFound, caps') ∧
      log = [.connected 0x200, .opened 0x201, .deleted 0x201, .disconnected 0x200,
        .deleted 0x200] ∧
      Undone (sampleLink [some .notFound]).slots caps'.slots log) ∧
    ∃ caps' log later' log',
      connect sampleClient sampleOptions ['/', 'f', 's', '/', 'a'] (sampleLink []) =
        (.ok sampleConnection, caps') ∧
      Holds sampleOptions (sampleLink []).slots caps'.slots log sampleConnection ∧
      disconnect sampleClient sampleConnection caps' = (.ok (), later') ∧
      log' = [.deleted 0x201, .disconnected 0x200, .deleted 0x200] ∧
      GivesBack sampleConnection caps'.slots later'.slots log' := by
  have hmade : ∀ faults, (sampleLink faults).slots.Made := fun _ =>
    .ofRange (show SlotAllocator.ofRange 0x200 0x210 = .ok _ from rfl)
  constructor
  · obtain ⟨answer, caps', log, hplain, hlogged, hundone, -⟩ := connect_settles sampleClient
      sampleOptions ['/', 'f', 's', '/', 'a'] (sampleLink [some .notFound]) (hmade _)
    have hrun : sampleConnect [some .notFound] = (answer, caps'.withLog log) := hlogged
    have hanswer : (sampleConnect [some .notFound]).1 = .error .notFound := by decide +kernel
    have hlog : (sampleConnect [some .notFound]).2.world.2 =
        [.connected 0x200, .opened 0x201, .deleted 0x201, .disconnected 0x200, .deleted 0x200] := by
      decide +kernel
    rw [hrun] at hanswer hlog
    have hobeyed : log.Obeyed := by
      rw [show log = _ from hlog]
      simp [ClientLog.Obeyed]
    exact ⟨caps', log, hplain.trans (congrArg (·, caps') hanswer), hlog,
      hundone _ hanswer hobeyed⟩
  · obtain ⟨answer, caps', log, hplain, hlogged, -, hmet⟩ := connect_settles sampleClient
      sampleOptions ['/', 'f', 's', '/', 'a'] (sampleLink []) (hmade _)
    have hrun : sampleConnect [] = (answer, caps'.withLog log) := hlogged
    have hanswer : (sampleConnect []).1 = .ok sampleConnection := by decide +kernel
    rw [hrun] at hanswer
    obtain ⟨hholds, hlater⟩ := hmet _ hanswer
    obtain ⟨answer', later', log', hplain', hlogged', hback⟩ :=
      hlater caps' hholds.made hholds.taken
    have hrun' : sampleDisconnect = (answer', later'.withLog log') := by
      rw [sampleDisconnect, hrun]
      exact hlogged'
    have hanswer' : sampleDisconnect.1 = .ok () := by decide +kernel
    have hlog' : sampleDisconnect.2.world.2 =
        [.deleted 0x201, .disconnected 0x200, .deleted 0x200] := by
      decide +kernel
    rw [hrun'] at hanswer' hlog'
    have hobeyed : log'.Obeyed := by
      rw [show log' = _ from hlog']
      simp [ClientLog.Obeyed]
    exact ⟨caps', log, later', log', hplain.trans (congrArg (·, caps') hanswer), hholds,
      hplain'.trans (congrArg (·, later') hanswer'), hlog', hback hobeyed⟩

end Connection

end CapServer
