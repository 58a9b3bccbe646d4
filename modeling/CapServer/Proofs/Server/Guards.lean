import CapServer.Proofs.Server.Ownership
import CapServer.Proofs.Sim.Machine
import CapServer.Proofs.Sim.Watches

/-!
# A server watches its clients

On a machine, a server has a death watch for each session that is neither queued nor announced dead
(`Server.Guards`), whatever messages it handles and whatever fails meanwhile, as long as a watch can
be taken back.

What a request does to sessions comes first (`Sessions.Follows`), then a whole request
(`Guards.handle_request`), then draining the notification ring (`Guards.handle_notice`).
-/

namespace CapServer

variable {ν : Type}

/-! ## Calls on the process server -/

namespace Machine

variable {w w' : World (Journaled (Machine ν))} {liveness notifyEp : CapPtr}

/-- A call on the process server fails by plan and changes nothing there, or it gets there. -/
theorem procCall_spec {α : Type} {call : ProcCall} {x : Attempt SimProcs.Run α}
    {w w' : World (Machine ν)} {a : Except Failure α} (hr : procCall call x w = (a, w')) :
    w'.rest.procFaults = (w.rest.procFaults.next call).2 ∧
      ((∃ e, (w.rest.procFaults.next call).1 = some e ∧ a = .error e ∧
          w'.memory = w.memory ∧ w'.rest.procs = w.rest.procs) ∨
        (w.rest.procFaults.next call).1 = none ∧
          x (w.memory, w.rest.procs) = (a, w'.memory, w'.rest.procs)) := by
  obtain ⟨plan, ⟨e, hplan, hcall⟩ | ⟨hplan, hcall⟩, rfl⟩ := procCall_cases call x w
  · rw [hcall] at hr
    cases hr
    exact ⟨rfl, .inl ⟨e, hplan, rfl, rfl, rfl⟩⟩
  · rw [hcall] at hr
    cases hr
    exact ⟨rfl, .inr ⟨hplan, rfl⟩⟩

/-- Nothing is said in a plan about taking a watch back. -/
def Unwatching (w : World (Journaled (Machine ν))) : Prop :=
  w.rest.rest.procFaults.queue .unwatch = []

theorem Unwatching.of_undisturbed (h : Unwatching w)
    (hw : Undisturbed (World.plainPart.get w) (World.plainPart.get w')) :
    Unwatching w' ∧ w'.memory = w.memory ∧ w'.rest.rest.procs = w.rest.rest.procs := by
  obtain ⟨hmemory, hprocs, hplan⟩ := hw
  have hplan : w'.rest.rest.procFaults = w.rest.rest.procFaults := hplan
  refine ⟨?_, hmemory, hprocs⟩
  rw [Unwatching, hplan]
  exact h

theorem unwatching_next {call : ProcCall} (h : Unwatching w) (hcall : call ≠ .unwatch)
    (hplan : w'.rest.rest.procFaults = (w.rest.rest.procFaults.next call).2) : Unwatching w' := by
  rw [Unwatching, hplan, next_queue_of_ne _ hcall.symm]
  exact h

/-- If watching a client fails, no watch has changed. -/
theorem watch_eq_error {e : Failure} (h : Unwatching w)
    (hr : platform.journaled.procs.watch liveness notifyEp w = (.error e, w')) :
    w'.memory = w.memory ∧ w'.rest.rest.procs.notices = w.rest.rest.procs.notices ∧
      w'.rest.rest.procs.watches = w.rest.rest.procs.watches ∧
      w'.rest.rest.procs.lastDeath = w.rest.rest.procs.lastDeath ∧ Unwatching w' := by
  obtain ⟨hplan, ⟨_, -, -, hmemory, hprocs⟩ | ⟨-, hwatch⟩⟩ :=
    procCall_spec (x := SimProcs.watch liveness notifyEp) (Attempt.plain_on_plain hr)
  · have hprocs : w'.rest.rest.procs = w.rest.rest.procs := hprocs
    rw [hprocs]
    exact ⟨hmemory, rfl, rfl, rfl, unwatching_next h (by decide) hplan⟩
  · rw [SimProcs.watch] at hwatch
    split at hwatch
    · obtain ⟨-, hwatch⟩ := Prod.mk.inj hwatch
      obtain ⟨hmemory, hprocs⟩ := Prod.mk.inj hwatch
      have hprocs : { w.rest.rest.procs with watchFails := false } = w'.rest.rest.procs := hprocs
      rw [← hprocs]
      exact ⟨hmemory.symm, rfl, rfl, rfl, unwatching_next h (by decide) hplan⟩
    · cases hwatch

theorem watch_eq_ok {death : DeathId} (h : Unwatching w)
    (hr : platform.journaled.procs.watch liveness notifyEp w = (.ok death, w')) :
    SimProcs.watch liveness notifyEp (w.memory, w.rest.rest.procs) =
      (.ok death, w'.memory, w'.rest.rest.procs) ∧ Unwatching w' := by
  obtain ⟨hplan, ⟨_, -, he, -⟩ | ⟨-, hwatch⟩⟩ := procCall_spec (Attempt.plain_on_plain hr)
  · cases he
  · exact ⟨hwatch, unwatching_next h (by decide) hplan⟩

/-- Taking a watch back gets to the process server. -/
theorem unwatch_eq {a : Except Failure Unit} (h : Unwatching w)
    (hr : platform.journaled.procs.unwatch liveness w = (a, w')) :
    SimProcs.unwatch liveness (w.memory, w.rest.rest.procs) =
      (a, w'.memory, w'.rest.rest.procs) ∧ Unwatching w' := by
  have hnext : (World.plainPart.get w).rest.procFaults.next .unwatch =
      (none, w.rest.rest.procFaults) := by
    rw [FaultPlan.next, show (World.plainPart.get w).rest.procFaults.queue .unwatch = [] from h]
    rfl
  obtain ⟨hplan, hcases⟩ := procCall_spec (Attempt.plain_on_plain hr)
  rw [hnext] at hplan hcases
  rcases hcases with ⟨_, he, -⟩ | ⟨-, hunwatch⟩
  · cases he
  · refine ⟨hunwatch, (congrArg (fun p : FaultPlan ProcCall => p.queue .unwatch) hplan).trans h⟩

end Machine

/-! ## Sessions that are not queued -/

namespace ClientTable

variable {t : ClientTable}

/-- The session of a client, unless it is queued to be ended. -/
def standing (t : ClientTable) (id : ClientId) : Option Session :=
  if id ∈ t.pending then none else t.get? id

theorem standing_eq_get? (h : t.pending = []) : t.standing = t.get? := by
  funext id
  rw [standing, h, if_neg List.not_mem_nil]

theorem standing_enter (h : t.pending = []) (pool : Pool) (s : Session) (j : ClientId) :
    (t.enter pool s).standing j = if j = s.id then some s else t.standing j := by
  have hentered : (t.enter pool s).pending = [] := h
  rw [standing_eq_get? h, standing_eq_get? hentered, get?_enter]

theorem standing_queue (id j : ClientId) :
    (t.queue id).standing j = if j = id then none else t.standing j := by
  rw [standing, get?_queue, standing]
  by_cases hj : j = id
  · rw [if_pos (mem_pending_queue.2 (.inr hj)), if_pos hj]
  · rw [if_neg hj]
    by_cases hpending : j ∈ t.pending
    · rw [if_pos (mem_pending_queue.2 (.inl hpending)), if_pos hpending]
    · rw [if_neg hpending, if_neg]
      exact fun h => (mem_pending_queue.1 h).elim hpending hj

/-- A session that is queued as soon as it is made leaves the others alone. -/
theorem standing_queue_enter (h : t.pending = []) {s : Session} (hnone : t.get? s.id = none)
    (pool : Pool) : ((t.enter pool s).queue s.id).standing = t.standing := by
  funext j
  rw [standing_queue, standing_enter h]
  split
  · next heq => rw [heq, standing_eq_get? h, hnone]
  · rfl

/-- Changing a session's buffer leaves the sessions as they were otherwise. -/
theorem standing_modify (id j : ClientId) {f : Session → Session}
    (hf : ∀ s : Session, (f s).lasting = s.lasting) :
    ((t.modify id f).standing j).map Session.lasting = (t.standing j).map Session.lasting := by
  show (if j ∈ t.pending then none else (t.modify id f).get? j).map Session.lasting = _
  rw [standing, get?_modify]
  split
  · rfl
  · split
    · next heq =>
      rw [heq, Option.map_map]
      exact congrArg (fun g => Option.map g (t.get? id)) (funext hf)
    · rfl

/-- The sweep ends just the sessions that were queued. -/
theorem standing_sweep {ω : Type} (h : t.Valid) (k : Kernel ω) (caps : CapSpace ω) :
    (sweep k (t, caps)).2.1.standing = t.standing := by
  have hpending : (sweep k (t, caps)).2.1.pending = [] := by
    rw [sweep_eq h]
    exact pending_withoutAll _ _
  rw [standing_eq_get? hpending]
  funext id
  rw [sweep_eq h, get?_withoutAll, standing]
  rfl

/-- A slot that no session owns is not that of a session's liveness capability. -/
theorem liveness_ne (h : t.pending = []) {slot : CapPtr}
    (hslot : slot ∉ Holding.slots (t.holdingsOf Server.anyone)) (j : ClientId) (s : Session)
    (hj : t.standing j = some s) : s.liveness ≠ slot := by
  rintro rfl
  rw [standing_eq_get? h] at hj
  exact hslot (mem_slots_holdingsOf hj rfl List.mem_cons_self)

end ClientTable

/-! ## Requests -/

namespace Sessions

open CapSpace (Terms)

variable {T : Terms (Machine ν)} {t₀ t : ClientTable} {c : CapSpace (World (Journaled (Machine ν)))}
  {notifyEp : CapPtr} {deaths : List DeathId}

/-- Sessions and their watches go together afterwards as they did before; the memory and the ring
are untouched. -/
structure Follows (notifyEp : CapPtr) (deaths : List DeathId)
    (s s' : Sessions (Journaled (Machine ν))) : Prop where
  memory : s'.2.world.memory = s.2.world.memory
  notices : s'.2.world.rest.rest.procs.notices = s.2.world.rest.rest.procs.notices
  unwatching : Machine.Unwatching s'.2.world
  watches : s'.2.world.rest.rest.procs.Watches notifyEp deaths s'.1.standing
  given_le : s.2.world.rest.rest.procs.lastDeath ≤ s'.2.world.rest.rest.procs.lastDeath
  lasts : Lasts s.1.standing s'.1.standing s.2.world.rest.rest.procs.lastDeath

variable (hwatches : c.world.rest.rest.procs.Watches notifyEp deaths t.standing)
  (hunwatching : Machine.Unwatching c.world)

include hwatches hunwatching

/-- What leaves the process server alone, and the sessions but for their buffers. -/
theorem follows_of_undisturbed {s' : Sessions (Journaled (Machine ν))}
    (hstanding : ∀ id, (s'.1.standing id).map Session.lasting = (t.standing id).map Session.lasting)
    (hworld : Machine.Undisturbed (World.plainPart.get c.world) (World.plainPart.get s'.2.world)) :
    Follows notifyEp deaths (t, c) s' := by
  obtain ⟨hunwatching', hmemory, hprocs⟩ := hunwatching.of_undisturbed hworld
  refine ⟨hmemory, by rw [hprocs], hunwatching', ?_, Nat.le_of_eq (by rw [hprocs]),
    Lasts.of_le fun id session hid => ?_⟩
  · rw [hprocs]
    exact hwatches.congr hstanding rfl rfl
  · rw [← hstanding, hid]
    rfl

/-- A client that gets a session is watched; one that does not is not. -/
theorem connect_follows (h : Confined Server.anyone T t₀ (t, c)) (hpending : t.pending = [])
    {r : Except Failure ClientId × Sessions (Journaled (Machine ν))}
    (hr : Connects Machine.platform.journaled notifyEp t c r) :
    Follows notifyEp deaths (t, c) r.2 := by
  have hk := Machine.keeps_undisturbed (World.plainPart.get c.world)
  have haccounts := h.accounts.withInv (I := fun w => Machine.Undisturbed
    (World.plainPart.get c.world) (World.plainPart.get w)) rfl ⟨rfl, rfl, rfl⟩
  cases hr with
  | unaccepted accepted =>
    exact follows_of_undisturbed hwatches hunwatching (fun _ => rfl)
      (haccounts.accept hk accepted).inv
  | exhausted accepted taken =>
    exact follows_of_undisturbed hwatches hunwatching (fun _ => rfl)
      ((haccounts.accept hk accepted).discard hk).inv
  | unminted accepted taken minted =>
    exact follows_of_undisturbed hwatches hunwatching (fun _ => rfl)
      (((haccounts.accept hk accepted).mint hk minted).discard hk).inv
  | @unwatched liveness c₁ id pool endpoint c₂ e w accepted taken minted watched =>
    have hnone := h.valid.get?_of_alloc taken
    have hc₂ := (haccounts.accept hk accepted).mint hk minted
    obtain ⟨hunwatching₂, hmemory, hprocs⟩ := hunwatching.of_undisturbed hc₂.inv
    obtain ⟨hmemory', hnotices, hlist, hlast, hunwatching'⟩ :=
      Machine.watch_eq_error hunwatching₂ watched
    rw [hprocs] at hnotices hlist hlast
    have hw : CapSpace.Accounts ⟨c₂.slots, w⟩ ⟨T.since, T.kept, fun _ => True⟩ _ :=
      hc₂.withInv (Attempt.journal_on_plain watched) trivial
    have hentered : Confined Server.anyone ⟨T.since, T.kept, fun _ => True⟩ t₀
        ((t.enter pool ⟨id, id + t.badgeBase, liveness, endpoint, false, none, none⟩).queue id,
          ⟨c₂.slots, w⟩) := by
      refine ((h.withInv rfl trivial).enter taken rfl rfl ?_).queue ?_ rfl
      · exact hw.perm (List.Perm.swap _ _ _)
      · rw [ClientTable.get?_enter, if_pos rfl]
        rfl
    have hswept := (hentered.withInv rfl ⟨rfl, rfl, rfl⟩).sweep
      (Machine.keeps_undisturbed (World.plainPart.get w))
    have hstanding := ClientTable.standing_sweep hentered.valid
      Machine.platform.journaled.kernel ⟨c₂.slots, w⟩
    obtain ⟨hunwatching₃, hmemory₃, hprocs₃⟩ := hunwatching'.of_undisturbed hswept.accounts.inv
    have hsame := hstanding.trans (t.standing_queue_enter hpending hnone pool)
    refine ⟨hmemory₃.trans (hmemory'.trans hmemory), ?_, hunwatching₃, ?_, ?_,
      Lasts.of_le fun j session hj => ?_⟩
    · exact (congrArg SimProcs.notices hprocs₃).trans hnotices
    · exact hwatches.congr (fun j => congrArg _ (congrFun hsame j))
        ((congrArg SimProcs.watches hprocs₃).trans hlist)
        ((congrArg SimProcs.lastDeath hprocs₃).trans hlast)
    · exact Nat.le_of_eq ((congrArg SimProcs.lastDeath hprocs₃).trans hlast).symm
    · rw [hsame] at hj
      rw [hj]
      rfl
  | @opened liveness c₁ id pool endpoint c₂ death w accepted taken minted watched =>
    have hnone := h.valid.get?_of_alloc taken
    have hc₁ := haccounts.accept hk accepted
    have hc₂ := hc₁.mint hk minted
    obtain ⟨hunwatching₂, hmemory, hprocs⟩ := hunwatching.of_undisturbed hc₂.inv
    obtain ⟨hwatch, hunwatching'⟩ := Machine.watch_eq_ok hunwatching₂ watched
    rw [hprocs] at hwatch
    have hnone' : t.standing id = none := by
      rw [ClientTable.standing_eq_get? hpending]
      exact hnone
    -- the slot of the new liveness capability is not one of another session
    have hfresh := t.liveness_ne hpending fun hmem => hc₁.not_mem_rest
      (by rw [Holding.slots_append]; exact List.mem_append_right _ hmem)
    obtain ⟨hmemory', hnotices, hlast, hwatches', hlasts⟩ := hwatches.watch
      ⟨id, id + t.badgeBase, liveness, endpoint, true, some death, none⟩ hwatch rfl rfl hnone'
      hfresh (t.standing_enter hpending pool _)
    exact ⟨hmemory'.trans hmemory, hnotices, hunwatching', hwatches', hlast ▸ Nat.le_succ _, hlasts⟩

/-- Setting a buffer has nothing to do with watches. -/
theorem setParamBuffer_follows (h : Confined Server.anyone T t₀ (t, c)) {client : ClientId}
    {r : Except Failure Unit × Sessions (Journaled (Machine ν))}
    (hr : SetsBuffer Machine.platform.journaled.kernel client t c r) :
    Follows notifyEp deaths (t, c) r.2 := by
  have hk := Machine.keeps_undisturbed (World.plainPart.get c.world)
  have hset := Confined.setParamBuffer hk (h.withInv (I := fun w => Machine.Undisturbed
    (World.plainPart.get c.world) (World.plainPart.get w)) rfl ⟨rfl, rfl, rfl⟩) rfl hr
  refine follows_of_undisturbed hwatches hunwatching (fun id => ?_) hset.accounts.inv
  cases hr with
  | refused => rfl
  | unaccepted accepted => rfl
  | cleared found => exact ClientTable.standing_modify client id fun _ => rfl
  | replaced found accepted => exact ClientTable.standing_modify client id fun _ => rfl

/-- A session that is queued is not watched any more. -/
theorem disconnect_follows (hpending : t.pending = []) {client : ClientId}
    {r : Except Failure Unit × Sessions (Journaled (Machine ν))}
    (hr : Disconnects Machine.platform.journaled.procs client t c r) :
    Follows notifyEp deaths (t, c) r.2 := by
  cases hr with
  | unknown found =>
    exact follows_of_undisturbed hwatches hunwatching (fun _ => rfl) ⟨rfl, rfl, rfl⟩
  | @queued s a w found unwatched =>
    obtain ⟨hunwatch, hunwatching'⟩ := Machine.unwatch_eq hunwatching unwatched
    have hclient : t.standing client = some s := by
      rw [ClientTable.standing_eq_get? hpending]
      exact found
    obtain ⟨hmemory, hnotices, hlast, hwatches'⟩ :=
      hwatches.unwatch hclient (ClientTable.standing_queue client) hunwatch
    refine ⟨hmemory, hnotices, hunwatching', hwatches', Nat.le_of_eq hlast.symm,
      Lasts.of_le fun id session hid => ?_⟩
    rw [ClientTable.standing_queue] at hid
    split at hid
    · cases hid
    · rw [hid]
      rfl

end Sessions

/-! ## Servers -/

namespace Server

/-- The process server that a server runs on. -/
def procs (s : Server (Journaled (Machine ν))) : SimProcs := s.caps.world.rest.rest.procs

/-- The session of a client, unless it is queued to be ended. -/
def standing {τ : Type} (s : Server τ) (id : ClientId) : Option Session :=
  s.clients.bind fun t => t.standing id

/-- Between two rounds all live sessions stand. -/
theorem session?_eq_standing {τ : Type} {s : Server τ}
    (hpending : ∀ t, s.clients = some t → t.pending = []) : s.session? = s.standing := by
  funext id
  rw [session?, standing]
  rcases hclients : s.clients with _ | t
  · rfl
  · rw [Option.bind_some, Option.bind_some, ClientTable.standing_eq_get? (hpending t hclients)]

/-- The sweep ends only sessions that do not stand. -/
theorem standing_sweep {τ : Type} {s : Server τ} (hvalid : ∀ t, s.clients = some t → t.Valid)
    (k : Kernel (World τ)) : (sweep k s).2.standing = s.standing := by
  funext id
  rcases hclients : s.clients with _ | t
  · simp only [sweep, hclients]
  · simp only [sweep, hclients, standing]
    exact congrFun (ClientTable.standing_sweep (hvalid t hclients) k s.caps) id

/-- The notification ring holds the records of the unread notices, and both of its sides are as if
attached just now. -/
def Bears (s : Server (Journaled (Machine ν))) (unread : List Notice) : Prop :=
  ∃ buffer, s.notices = some buffer ∧
    buffer.reader = .attach s.caps.world.memory buffer.reader.region ∧
    s.procs.notices = some (.attach s.caps.world.memory buffer.reader.region) ∧
    s.caps.world.memory.Bears buffer.reader.region unread

/-- The deaths that notices announce. -/
def deathsOf (unread : List Notice) : List DeathId := unread.filterMap announced

/-- There is a watch for each session that is neither queued nor announced dead, and no other. -/
structure Guards (s : Server (Journaled (Machine ν))) (unread : List Notice) : Prop where
  watches : s.procs.Watches s.notifyEp (deathsOf unread) s.standing
  bears : s.Bears unread
  unwatching : Machine.Unwatching s.caps.world

/-- A server that watched its clients still does; and a session under a death id given out before is
the session that it was. -/
structure Follows (unread : List Notice) (s s' : Server (Journaled (Machine ν))) : Prop where
  guards : s'.Guards unread
  given_le : s.procs.lastDeath ≤ s'.procs.lastDeath
  lasts : Lasts s.standing s'.standing s.procs.lastDeath

variable {s s' s'' s₀ : Server (Journaled (Machine ν))} {unread unread' : List Notice}
  {T : CapSpace.Terms (Machine ν)}

theorem Follows.trans (h : Follows unread s s') (h' : Follows unread' s' s'') :
    Follows unread' s s'' where
  guards := h'.guards
  given_le := Nat.le_trans h.given_le h'.given_le
  lasts := h.lasts.trans h'.lasts h.given_le

namespace Guards

/-- What leaves the process server and the sessions alone. -/
theorem of_undisturbed (h : s.Guards unread) (hclients : s'.standing = s.standing)
    (hnotifyEp : s'.notifyEp = s.notifyEp) (hnotices : s'.notices = s.notices)
    (hworld : Machine.Undisturbed (World.plainPart.get s.caps.world)
      (World.plainPart.get s'.caps.world)) : Follows unread s s' := by
  obtain ⟨hunwatching, hmemory, hprocs⟩ := h.unwatching.of_undisturbed hworld
  have hprocs : s'.procs = s.procs := hprocs
  refine ⟨⟨?_, ?_, hunwatching⟩, Nat.le_of_eq (by rw [hprocs]),
    Lasts.of_le fun id session hid => ?_⟩
  · rw [hprocs, hclients, hnotifyEp]
    exact h.watches
  · rw [Bears, hnotices, hprocs, hmemory]
    exact h.bears
  · rw [← hclients, hid]
    rfl

theorem refl (h : s.Guards unread) : Follows unread s s :=
  h.of_undisturbed rfl rfl rfl ⟨rfl, rfl, rfl⟩

/-- Work on the sessions of a server. -/
theorem withClients {α : Type} {x : Attempt (Sessions (Journaled (Machine ν))) α}
    (h : s.Guards unread) (hx : ∀ t, s.clients = some t →
      Sessions.Follows s.notifyEp (deathsOf unread) (t, s.caps) (x (t, s.caps)).2) :
    Follows unread s (Server.withClients x s).2 := by
  rcases hclients : s.clients with _ | t
  · simp only [Server.withClients, hclients]
    exact h.refl
  · have hfollows := hx t hclients
    have hstanding : s.standing = t.standing := by
      funext id
      rw [standing, hclients]
      rfl
    simp only [Server.withClients, hclients]
    refine ⟨⟨hfollows.watches, ?_, hfollows.unwatching⟩, hfollows.given_le, ?_⟩
    · obtain ⟨buffer, hbuffer, hreader, hwriter, hbears⟩ := h.bears
      have hmemory : (x (t, s.caps)).2.2.world.memory = s.caps.world.memory := hfollows.memory
      refine ⟨buffer, hbuffer, ?_, hfollows.notices.trans ?_, ?_⟩
      · rw [hmemory]
        exact hreader
      · rw [hmemory]
        exact hwriter
      · rw [hmemory]
        exact hbears
    · rw [hstanding]
      exact hfollows.lasts

/-! ### Requests -/

theorem on_world {α : Type} {x : Attempt (World (Journaled (Machine ν))) α} (h : s.Guards unread)
    (hx : x.Keeps fun w => Machine.Undisturbed (World.plainPart.get s.caps.world)
      (World.plainPart.get w)) : Follows unread s (x.on worldPart s).2 :=
  h.of_undisturbed rfl rfl rfl (hx s.caps.world ⟨rfl, rfl, rfl⟩)

theorem sweep (h : s.Guards unread) (hconfined : Confined anyone T s₀ s) :
    Follows unread s (Server.sweep Machine.platform.journaled.kernel s).2 := by
  rcases hconfined.clients with ⟨-, hnone, -⟩ | ⟨t₀, t, -, ht, confined⟩
  · simp only [Server.sweep, hnone]
    exact h.refl
  · have hswept := (confined.withInv (I := fun w => Machine.Undisturbed
      (World.plainPart.get s.caps.world) (World.plainPart.get w)) rfl ⟨rfl, rfl, rfl⟩).sweep
      (Machine.keeps_undisturbed _)
    simp only [Server.sweep, ht]
    have hstanding := standing_sweep (fun t => hconfined.valid (t := t))
      Machine.platform.journaled.kernel
    simp only [Server.sweep, ht] at hstanding
    exact h.of_undisturbed hstanding rfl rfl hswept.accounts.inv

section Requests

variable (h : s.Guards unread) (hconfined : Confined anyone T s₀ s)
  (hpending : ∀ t, s.clients = some t → t.pending = [])

include h hconfined hpending

/-- The sessions of a server, between two rounds. -/
theorem clients_cases {t : ClientTable} (ht : s.clients = some t) :
    s.procs.Watches s.notifyEp (deathsOf unread) t.standing ∧ t.pending = [] ∧
      ∃ t₀, Sessions.Confined anyone T t₀ (t, s.caps) := by
  have hstanding : s.standing = t.standing := by
    funext id
    rw [standing, ht]
    rfl
  rcases hconfined.clients with ⟨-, hnone, -⟩ | ⟨t₀, t', -, ht', confined⟩
  · rw [ht] at hnone
    cases hnone
  · cases ht.symm.trans ht'
    exact ⟨hstanding ▸ h.watches, hpending t ht, t₀, confined⟩

theorem connect (msg : Message) :
    Follows unread s (Server.connect Machine.platform.journaled msg s).2 := by
  rw [Server.connect]
  split
  · rw [Attempt.bind_ok (Attempt.get_apply s)]
    refine h.withClients fun t ht => ?_
    obtain ⟨hwatches, hnone, t₀, confined⟩ := h.clients_cases hconfined hpending ht
    exact Sessions.connect_follows hwatches h.unwatching confined hnone
      (Sessions.connects confined.valid _ _)
  · exact h.refl

theorem setParamBuffer (client : ClientId) (msg : Message) (size : Nat) :
    Follows unread s
      (Server.setParamBuffer Machine.platform.journaled.kernel client msg size s).2 := by
  refine h.withClients fun t ht => ?_
  obtain ⟨hwatches, -, t₀, confined⟩ := h.clients_cases hconfined hpending ht
  exact Sessions.setParamBuffer_follows hwatches h.unwatching confined
    (Sessions.setsBuffer _ _ _ _)

theorem disconnect (client : ClientId) :
    Follows unread s (Server.disconnect Machine.platform.journaled.procs client s).2 := by
  refine h.withClients fun t ht => ?_
  obtain ⟨hwatches, hnone, -⟩ := h.clients_cases hconfined hpending ht
  exact Sessions.disconnect_follows hwatches h.unwatching hnone (Sessions.disconnects _ _)

theorem perform (msg : Message) (request : Request) :
    Follows unread s (Server.perform (.basic Machine.platform.journaled) msg request s).2 := by
  exact settle_perform (fun t => hconfined.valid) h.refl
    (fun _ _ => h.connect hconfined hpending msg) fun id _ _ _ =>
    ⟨h.refl, h.setParamBuffer hconfined hpending id msg, h.disconnect hconfined hpending id⟩

theorem respond (msg : Message) :
    Follows unread s (Server.respond (.basic Machine.platform.journaled) msg s).2.2 := by
  rw [Server.respond]
  rcases Request.decode msg with ⟨e | _ | request, read⟩
  · exact h.refl
  · exact h.refl
  · exact h.perform hconfined hpending read request

/-- A request is handled, and the reply is sent. -/
theorem handle_request {msg : Message} (hmsg : msg.badge ≠ s.config.noticeBadge) :
    Follows unread s (Server.handle Machine.platform.journaled.kernel
      (.basic Machine.platform.journaled) msg s).2 := by
  have hrespond := h.respond hconfined hpending msg
  rw [Server.handle, if_neg hmsg]
  rcases hr : Server.respond (.basic Machine.platform.journaled) msg s with ⟨outcome, _ | reply, s'⟩
  · rw [hr] at hrespond
    exact hrespond
  · rw [hr] at hrespond
    exact hrespond.trans (hrespond.guards.on_world ((Machine.keeps_undisturbed _).reply reply))

end Requests

end Guards

/-! ### Notices -/

/-- Nothing but shared memory and the place in the ring has changed. -/
def AsBefore (s s' : Server (Journaled (Machine ν))) : Prop :=
  s'.clients = s.clients ∧ s'.notifyEp = s.notifyEp ∧ s'.caps.world.rest = s.caps.world.rest

/-- In a ring without notices no record is found. -/
theorem nextRecord_nil (h : s.Bears []) : (∀ record, (nextRecord s).1 ≠ .ok (some record)) ∧
    (nextRecord s).2.Bears [] ∧ AsBefore s (nextRecord s).2 := by
  obtain ⟨buffer, hbuffer, hreader, hwriter, hbears⟩ := h
  obtain ⟨a, m, hread, hnone, hbears', hwriter'⟩ := Reader.next_attach_nil hbears
  rw [← hreader] at hread
  rw [nextRecord_eq hbuffer hread]
  refine ⟨fun record hrecord => ?_, ⟨⟨buffer.dataspace, .attach m buffer.reader.region⟩, rfl, rfl,
    hwriter.trans (congrArg some hwriter'.symm), hbears'⟩, rfl, rfl, rfl⟩
  rcases a with e | _ | _
  · cases hrecord
  · cases hrecord
  · exact hnone rfl

/-- The oldest notice is found and taken out. -/
theorem nextRecord_cons {n : Notice} (h : s.Bears (n :: unread)) :
    ∃ s', nextRecord s = (.ok (some n.record), s') ∧ s'.Bears unread ∧ AsBefore s s' := by
  obtain ⟨buffer, hbuffer, hreader, hwriter, hbears⟩ := h
  obtain ⟨m, hread, hbears', hwriter'⟩ := Reader.next_attach_cons hbears
  rw [← hreader] at hread
  have hnext := nextRecord_eq hbuffer hread
  rw [n.record.ofBytes_toBytes] at hnext
  exact ⟨_, hnext, ⟨⟨buffer.dataspace, .attach m buffer.reader.region⟩, rfl, rfl,
    hwriter.trans (congrArg some hwriter'.symm), hbears'⟩, rfl, rfl, rfl⟩

/-- The session of a client, unless it is announced dead. -/
def spared (deaths : List DeathId) (session : Session) : Bool :=
  deaths.all fun death => session.deathId != some death

/-- Death ids tell sessions apart, the queued ones included. -/
def DeathsDiffer {τ : Type} (s : Server τ) : Prop :=
  ∀ id id' session session' death, s.session? id = some session → s.session? id' = some session' →
    session.deathId = some death → session'.deathId = some death → id = id'

theorem DeathsDiffer.of_session?_eq {τ : Type} {s s' : Server τ} (h : s.DeathsDiffer)
    (hsame : ∀ id, s'.session? id = s.session? id) : s'.DeathsDiffer := by
  intro id id' session session' death hid hid'
  rw [hsame] at hid hid'
  exact h id id' session session' death hid hid'

/-- Queueing a death queues the session that it is about. -/
theorem standing_queueDeath (hdiffer : s.DeathsDiffer) (death : DeathId) (id : ClientId) :
    (queueDeath death s).2.standing id =
      (s.standing id).filter fun session => session.deathId != some death := by
  rcases hclients : s.clients with _ | t
  · rw [queueDeath_of_none hclients, standing, hclients]
    rfl
  · have hget : ∀ j, s.session? j = t.get? j := fun j => by rw [session?, hclients]; rfl
    simp only [DeathsDiffer, hget] at hdiffer
    have hstanding : ∀ j session, t.standing j = some session → t.get? j = some session := by
      intro j session hj
      rw [ClientTable.standing] at hj
      split at hj
      · cases hj
      · exact hj
    rw [queueDeath_of_some hclients, standing, standing, hclients]
    show ((ClientTable.queueDeath death t).2.standing id) = (t.standing id).filter _
    rcases hother : t.standing id with _ | other
    · rcases t.queueDeath_cases death with ⟨-, hnone⟩ | ⟨j, session, -, -, -, hqueue⟩
      · rw [hnone, hother]
        rfl
      · rw [hqueue, ClientTable.standing_queue, hother, ite_self]
        rfl
    · rcases t.queueDeath_cases death with ⟨hfind, hnone⟩ | ⟨j, session, -, hj, hdeath, hqueue⟩
      · rw [hnone, hother, Option.filter_some_pos]
        exact bne_iff_ne.2 (ClientTable.findDeath?_eq_none hfind (hstanding id other hother))
      · rw [hqueue, ClientTable.standing_queue, hother]
        by_cases hid : id = j
        · subst hid
          cases hj.symm.trans (hstanding id other hother)
          rw [if_pos rfl, Option.filter_some_neg]
          rw [hdeath, bne_self_eq_false]
        · rw [if_neg hid, Option.filter_some_pos]
          refine bne_iff_ne.2 fun hsame => hid ?_
          exact hdiffer id j other session death (hstanding id other hother) hj hsame hdeath

theorem AsBefore.guards (h : AsBefore s s') {deaths : List DeathId}
    (hwatches : s.procs.Watches s.notifyEp deaths s.standing) (hdeaths : deathsOf unread = deaths)
    (hunwatching : Machine.Unwatching s.caps.world) (hbears : s'.Bears unread) :
    s'.Guards unread := by
  obtain ⟨hclients, hnotifyEp, hrest⟩ := h
  have hstanding : s'.standing = s.standing := by
    funext id
    rw [standing, hclients]
    rfl
  refine ⟨?_, hbears, ?_⟩
  · rw [procs, hrest, hnotifyEp, hstanding, hdeaths]
    exact hwatches
  · rw [Machine.Unwatching, hrest]
    exact hunwatching

theorem filter_spared_nil (live : Option Session) : live.filter (spared (deathsOf [])) = live := by
  cases live <;> rfl

theorem filter_spared (live : Option Session) (n : Notice) (unread : List Notice) :
    (live.filter (spared (deathsOf [n]))).filter (spared (deathsOf unread)) =
      live.filter (spared (deathsOf (n :: unread))) := by
  have hdeaths : deathsOf (n :: unread) = deathsOf [n] ++ deathsOf unread :=
    List.filterMap_append (l := [n])
  rw [Option.filter_filter, hdeaths]
  congr 1
  funext session
  exact List.all_append.symm

/-- Handling the notice that was read last leaves the others unread, and queues the session that it
announces dead. -/
theorem onNotice_spec {n : Notice} (hdiffer : s.DeathsDiffer) (h : s.Guards (n :: unread))
    (hbefore : AsBefore s s') (hbears : s'.Bears unread) :
    let after := ((Service.basic Machine.platform.journaled).onNotice n s').2
    after.Guards unread ∧ after.procs = s.procs ∧ after.DeathsDiffer ∧
      ∀ id, after.standing id = (s.standing id).filter (spared (deathsOf [n])) := by
  have hsession : ∀ id, s'.session? id = s.session? id := fun id => by
    rw [session?, session?, hbefore.1]
  have hstanding : ∀ id, s'.standing id = s.standing id := fun id => by
    rw [standing, standing, hbefore.1]
  have hprocs : s'.procs = s.procs := by
    rw [procs, hbefore.2.2]
    rfl
  have hdiffer' := hdiffer.of_session?_eq hsession
  have hwatches := h.watches
  rw [settle_onNotice]
  rcases hdeath : announced n with _ | death
  · have hdeaths : ∀ l, deathsOf (n :: l) = deathsOf l := fun l => by
      rw [deathsOf, List.filterMap_cons, hdeath]
      rfl
    refine ⟨hbefore.guards hwatches (hdeaths unread).symm h.unwatching hbears, hprocs, hdiffer',
      fun id => ?_⟩
    rw [hdeaths, Option.elim_none, hstanding, filter_spared_nil]
  · have hdeaths : ∀ l, deathsOf (n :: l) = death :: deathsOf l := fun l => by
      rw [deathsOf, List.filterMap_cons, hdeath]
      rfl
    obtain ⟨clients, hclients, hsame⟩ := queueDeath_spec s' death
    have hqueued := standing_queueDeath hdiffer' death
    have hread : s.procs.Watches s.notifyEp (deathsOf unread) (queueDeath death s').2.standing := by
      rw [hdeaths] at hwatches
      exact hwatches.read fun id => by rw [hqueued, hstanding]
    have hunwatching : Machine.Unwatching s'.caps.world := by
      rw [Machine.Unwatching, hbefore.2.2]
      exact h.unwatching
    rw [Option.elim_some]
    refine ⟨⟨?_, ?_, ?_⟩, ?_, hdiffer'.of_session?_eq hsame, fun id => ?_⟩
    · rw [← hprocs, ← hbefore.2.1] at hread
      rw [hclients] at hread ⊢
      exact hread
    · rw [hclients]
      exact hbears
    · rw [hclients]
      exact hunwatching
    · rw [hclients]
      exact hprocs
    · rw [hqueued, hstanding, hdeaths]
      congr 1
      funext session
      exact (Bool.and_true _).symm

/-- Draining the ring leaves no notice unread, and queues the sessions announced dead. -/
theorem drain_spec (hdiffer : s.DeathsDiffer) (h : s.Guards unread) {fuel : Nat}
    (hfuel : unread.length < fuel) (handled : Nat) (failure : Option Failure) :
    let after := (drain (.basic Machine.platform.journaled) fuel handled failure s).2
    after.Guards [] ∧ after.procs = s.procs ∧
      ∀ id, after.standing id = (s.standing id).filter (spared (deathsOf unread)) := by
  obtain ⟨fuel, rfl⟩ := Nat.exists_eq_succ_of_ne_zero (Nat.ne_zero_of_lt hfuel)
  induction unread generalizing fuel s handled failure with
  | nil =>
    obtain ⟨hnone, hbears, hbefore⟩ := nextRecord_nil h.bears
    have hguards := hbefore.guards h.watches rfl h.unwatching hbears
    obtain ⟨hclients, -, hrest⟩ := hbefore
    dsimp only
    rw [drain_ends _ fun record n hfirst => absurd hfirst (hnone record)]
    refine ⟨hguards, by rw [procs, hrest]; rfl, fun id => ?_⟩
    rw [filter_spared_nil, standing, hclients]
    rfl
  | cons n unread ih =>
    obtain ⟨fuel, rfl⟩ := Nat.exists_eq_succ_of_ne_zero
      (Nat.ne_zero_of_lt (Nat.lt_of_succ_lt_succ hfuel))
    obtain ⟨s', hnext, hbears, hbefore⟩ := nextRecord_cons h.bears
    obtain ⟨hguards, hprocs, hdiffer', hqueued⟩ := onNotice_spec hdiffer h hbefore hbears
    obtain ⟨handled', failure', hdrain⟩ := drain_goes_on (.basic Machine.platform.journaled) hnext
      n.notice_record (fuel + 1) handled failure
    obtain ⟨hafter, hprocs', hspared⟩ :=
      ih hdiffer' hguards handled' failure' fuel (Nat.lt_of_succ_lt_succ hfuel)
    dsimp only
    rw [hdrain]
    refine ⟨hafter, hprocs'.trans hprocs, fun id => (hspared id).trans ?_⟩
    rw [hqueued, filter_spared]

/-- A ring has no more notices than bytes. -/
theorem Bears.length_lt (h : s.Bears unread) : unread.length < s.drainBound := by
  obtain ⟨buffer, hbuffer, -, -, hbears⟩ := h
  rw [drainBound, hbuffer]
  refine Nat.lt_succ_of_le ?_
  rcases hbears with ⟨capacity, hqueues⟩ | ⟨-, rfl⟩
  · rw [Notice.bytes_eq] at hqueues
    have hle := Record.length_le_size hqueues
    rw [List.length_map] at hle
    exact hle
  · exact Nat.zero_le _

theorem Guards.differ (h : s.Guards unread)
    (hpending : ∀ t, s.clients = some t → t.pending = []) : s.DeathsDiffer := by
  rw [DeathsDiffer, session?_eq_standing hpending]
  intro id id' session session' death hid hid' hdeath hdeath'
  exact h.watches.distinct id id' session session' hid hid' (hdeath.trans hdeath'.symm)

/-- A signal of notifications drains the ring. -/
theorem Guards.handle_notice (h : s.Guards unread)
    (hpending : ∀ t, s.clients = some t → t.pending = []) {msg : Message}
    (hmsg : msg.badge = s.config.noticeBadge) :
    let after :=
      (handle Machine.platform.journaled.kernel (.basic Machine.platform.journaled) msg s).2
    Follows [] s after ∧
      ∀ id, after.standing id = (s.standing id).filter (spared (deathsOf unread)) := by
  have hdrain := drain_spec (h.differ hpending) h h.bears.length_lt 0 none
  rw [handle, if_pos hmsg]
  obtain ⟨hguards, hprocs, hstanding⟩ := hdrain
  refine ⟨⟨hguards, ?_, Lasts.of_le fun id session hid => ?_⟩, hstanding⟩
  · exact Nat.le_of_eq (congrArg SimProcs.lastDeath hprocs).symm
  · have hid' := (hstanding id).symm.trans hid
    rw [(Option.filter_eq_some_iff.1 hid').1]
    rfl

end Server

end CapServer
