import CapServer.Proofs.CapSpace.Borrowed
import CapServer.Proofs.Pool.Supply
import CapServer.Proofs.Server.Lifetimes
import CapServer.Proofs.Server.Mirrors
import CapServer.Sim.Machine

/-!
# A client that could not be connected

Opening a session can fail at every step: the message has the wrong shape, the server has no client
table, there is no slot or the liveness capability cannot be received, there is no id, the endpoint
cannot be minted, the client cannot be watched. Each way back is another one (`Sessions.Connects`),
and each leads to where it began: no slot stays borrowed (`Connects.borrows`), and the table differs
at most in where its pool keeps the free ids (`Connects.restocked`).

So a server with no session queued is `Untouched` by a request to open one that fails, and whoever
is connected next gets the id that the failed client would have got (`connect_error_untouched`).
-/

namespace CapServer

/-- The table is the same, but that the free ids may be kept in another place. They are handed out
in the same order. -/
def ClientTable.Restocked (t t' : ClientTable) : Prop :=
  ∃ pool, t.table.pool.Alike pool ∧ t' = { t with table := { t.table with pool := pool } }

namespace Sessions

variable {σ γ τ : Type} {p : Platform (World σ)} {notifyEp : CapPtr} {t : ClientTable}
  {c : CapSpace (World σ)} {e : Failure} {s' : Sessions σ}

/-! ## The table -/

/-- A session that is made, queued and swept leaves the table it was made in. -/
theorem sweep_queue_enter (ht : t.Valid) (hpending : t.pending = []) {pool : Pool} {s : Session}
    (htaken : t.table.pool.alloc = some (s.id, pool)) (hbadge : s.badge = s.id + t.badgeBase)
    (k : Kernel (World σ)) (c : CapSpace (World σ)) :
    (ClientTable.sweep k ((t.enter pool s).queue s.id, c)).2 =
      (t.abandon pool s.id, s.slots.foldl (fun c slot => c.discard k slot) c) := by
  have hnone := ht.get?_of_alloc htaken
  have hget : (t.enter pool s).get? s.id = some s := by rw [ClientTable.get?_enter, if_pos rfl]
  have hvalid : ((t.enter pool s).queue s.id).Valid :=
    (ht.enter htaken hbadge).queue (Option.isSome_of_eq_some hget)
  have hqueue : (t.enter pool s).queue s.id = { t.enter pool s with pending := [s.id] } := by
    simp [ClientTable.queue, ClientTable.enter, hpending]
  have herase : (t.table.objects.insert s.id s).erase s.id = t.table.objects := by
    rw [IdMap.erase_insert, IdMap.erase_of_get?_eq_none hnone]
  have htable : ClientTable.without s.id { t.enter pool s with pending := [] } =
      t.abandon pool s.id := by
    simp only [ClientTable.without, ClientTable.enter, ClientTable.abandon, herase, hpending]
  have hslots : Holding.slots ((t.enter pool s).holdingsAt [s.id]) = s.slots := by
    rw [ClientTable.holdingsAt_cons hget, ← s.slots_holdings]
    exact congrArg Holding.slots (List.append_nil _)
  rw [ClientTable.sweep_eq hvalid, hqueue]
  exact Prod.ext htable (congrArg (List.foldl (fun c slot => c.discard k slot) c) hslots)

/-- Wherever opening a session fails, the id that was taken for it goes back. -/
theorem Connects.restocked (ht : t.Valid) (hpending : t.pending = [])
    (h : Connects p notifyEp t c (.error e, s')) : t.Restocked s'.1 := by
  have hsame : t.Restocked t := ⟨t.table.pool, .refl ht.roomy, rfl⟩
  cases h with
  | unaccepted accepted => exact hsame
  | exhausted accepted taken => exact hsame
  | unminted accepted taken minted => exact ⟨_, .of_alloc ht.roomy taken, rfl⟩
  | @unwatched liveness c₁ id pool endpoint c₂ e w accepted taken minted watched =>
    have hsweep := sweep_queue_enter ht hpending
      (s := ⟨id, id + t.badgeBase, liveness, endpoint, false, none, none⟩) taken rfl p.kernel
      ⟨c₂.slots, w⟩
    rw [hsweep]
    exact ⟨_, .of_alloc ht.roomy taken, rfl⟩

/-! ## The slots -/

open CapSpace (Borrows)

variable {v : View (World σ) γ τ} {I : World σ → Prop}

/-- Wherever opening a session fails, the slots that were taken for it go back. -/
theorem Connects.borrows (hp : p.Tidy v I) (ht : t.Valid) (hpending : t.pending = [])
    (hroomy : c.slots.pool.Roomy) (hinv : I c.world)
    (h : Connects p notifyEp t c (.error e, s')) : Borrows v I c [] s'.2 := by
  have hc : Borrows v I c [] c := .refl hroomy hinv
  have haccept : ∀ dest, v.Leaves I (p.kernel.accept dest 0) (v.Filled dest) :=
    fun dest => hp.accept dest 0
  have hmint : ∀ id dest, v.Leaves I (p.kernel.mint dest t.source (id + t.badgeBase))
      (v.Filled dest) := fun id dest => hp.mint dest t.source (id + t.badgeBase)
  cases h with
  | unaccepted accepted => exact hc.allocFilled haccept accepted
  | exhausted accepted taken => exact (hc.allocFilled haccept accepted).discard hp
  | @unminted liveness c₁ id pool e c₂ accepted taken minted =>
    have h₁ : Borrows v I c [liveness] c₁ := hc.allocFilled haccept accepted
    have h₂ : Borrows v I c [liveness] c₂ := h₁.allocFilled (hmint id) minted
    exact h₂.discard hp
  | @unwatched liveness c₁ id pool endpoint c₂ e w accepted taken minted watched =>
    have h₁ : Borrows v I c [liveness] c₁ := hc.allocFilled haccept accepted
    have h₂ : Borrows v I c [endpoint, liveness] c₂ := h₁.allocFilled (hmint id) minted
    have hw := hp.watch liveness notifyEp
    have hinv' := hw.inv c₂.world h₂.inv
    have hsame := hw.failed c₂.world h₂.inv e
    rw [watched] at hinv' hsame
    have h₃ : Borrows v I c [endpoint, liveness] ⟨c₂.slots, w⟩ := h₂.of_same (hsame rfl) hinv'
    rw [sweep_queue_enter ht hpending
      (s := ⟨id, id + t.badgeBase, liveness, endpoint, false, none, none⟩) taken rfl]
    exact (h₃.perm (List.Perm.swap _ _ _)).discardAll hp

end Sessions

namespace Server

variable {σ γ τ : Type} {p : Platform (World σ)} {s s' : Server σ} {msg : Message} {e : Failure}

/-! ## Servers -/

/-- A server whose table is valid, and whose slots can all be given back. -/
structure Sound (s : Server σ) : Prop where
  valid : s.Valid
  roomy : s.caps.slots.pool.Roomy

/-- No session is queued to be ended. -/
def Unqueued (s : Server σ) : Prop := ∀ t, s.clients = some t → t.pending = []

/-- Two states of a server between which no difference is seen, but for the order in which free
slots are handed out. -/
structure Untouched (v : View (World σ) γ τ) (s s' : Server σ) : Prop where
  rest : s' = { s with caps := s'.caps, clients := s'.clients }
  session?_eq : ∀ id, s'.session? id = s.session? id
  sessions_eq : s'.clients.map ClientTable.sessions = s.clients.map ClientTable.sessions
  pending_eq : s'.clients.map ClientTable.pending = s.clients.map ClientTable.pending
  /-- The free ids, in the order in which clients get them. -/
  supply_eq : (s'.clients.map fun t => t.table.pool.supply) =
    s.clients.map fun t => t.table.pool.supply
  isFree_eq : ∀ slot, s'.caps.slots.isFree slot = s.caps.slots.isFree slot
  inUse_eq : s'.caps.slots.inUse = s.caps.slots.inUse
  cap_eq : v.cap s'.caps.world = v.cap s.caps.world
  watches_eq : v.watches s'.caps.world = v.watches s.caps.world

theorem Untouched.refl (v : View (World σ) γ τ) (s : Server σ) : Untouched v s s :=
  ⟨rfl, fun _ => rfl, rfl, rfl, rfl, fun _ => rfl, rfl, rfl, rfl⟩

/-- The id that the next client gets. -/
def nextClient? (s : Server σ) : Option ClientId :=
  s.clients.bind fun t => t.table.pool.supply.head?

/-- The id of the first client that is connected when some try in turn, each on a platform of its
own. -/
def firstClient? : List (Platform (World σ) × Message) → Server σ → Option ClientId
  | [], _ => none
  | (p, msg) :: tries, s =>
    match connect p msg s with
    | (.ok id, _) => some id
    | (.error _, s) => firstClient? tries s

/-- A request to connect fails at once, or it is one on the table. -/
theorem connect_cases (hs : s.Valid) (p : Platform (World σ)) (msg : Message) :
    (∃ e, connect p msg s = (.error e, s)) ∨
      ∃ t a t' c, s.clients = some t ∧
        connect p msg s = (a, { s with clients := some t', caps := c }) ∧
        Sessions.Connects p s.notifyEp t s.caps (a, t', c) := by
  by_cases hcarries : msg.carries 0 1 = true
  · rw [connect_of_carries hcarries, withClients]
    rcases ht : s.clients with _ | t
    · exact .inl ⟨_, rfl⟩
    · exact .inr ⟨t, _, _, _, rfl, rfl, Sessions.connects (hs t ht) p s.notifyEp⟩
  · rw [connect, if_neg hcarries]
    exact .inl ⟨_, rfl⟩

theorem connect_error_cases (hs : s.Valid) (h : connect p msg s = (.error e, s')) :
    s' = s ∨ ∃ t t' c, s.clients = some t ∧ s' = { s with clients := some t', caps := c } ∧
      Sessions.Connects p s.notifyEp t s.caps (.error e, t', c) := by
  obtain ⟨e', hfails⟩ | ⟨t, a, t', c, ht, hconnect, hconnects⟩ := connect_cases hs p msg
  · cases hfails.symm.trans h
    exact .inl rfl
  · cases hconnect.symm.trans h
    exact .inr ⟨t, t', c, ht, rfl, hconnects⟩

theorem connect_ok_nextClient (hs : s.Valid) {id : ClientId}
    (h : (connect p msg s).1 = .ok id) : s.nextClient? = some id := by
  obtain ⟨e, hfails⟩ | ⟨t, a, t', c, ht, hconnect, hconnects⟩ := connect_cases hs p msg
  · rw [hfails] at h
    cases h
  · rw [hconnect] at h
    obtain rfl : a = .ok id := h
    cases hconnects with
    | opened accepted taken minted watched =>
      rw [nextClient?, ht, Option.bind_some]
      rcases hsupply : t.table.pool.supply with _ | ⟨top, rest⟩
      · rw [Pool.alloc_of_supply_nil hsupply] at taken
        cases taken
      · obtain ⟨q, halloc, -⟩ := Pool.alloc_of_supply_cons hsupply
        rw [taken, Option.some.injEq, Prod.mk.injEq] at halloc
        rw [List.head?_cons, halloc.1]

/-- A request that fails leaves a server on which the same client is next, and with no session
queued. This does not depend on the platform. -/
theorem connect_error_nextClient (hs : s.Valid) (hunqueued : s.Unqueued)
    (h : connect p msg s = (.error e, s')) :
    s'.Valid ∧ s'.Unqueued ∧ s'.nextClient? = s.nextClient? := by
  have hvalid : s'.Valid := by
    have hgoes := (Goes.connect_inLine (p := p) hs msg).valid ClientTable.way_inLine
    rwa [h] at hgoes
  obtain rfl | ⟨t, t', c, ht, rfl, hconnects⟩ := connect_error_cases hs h
  · exact ⟨hvalid, hunqueued, rfl⟩
  · obtain ⟨pool, halike, rfl⟩ := hconnects.restocked (hs t ht) (hunqueued t ht)
    refine ⟨hvalid, ?_, ?_⟩
    · rintro _ ⟨⟩
      exact hunqueued t ht
    · rw [nextClient?, nextClient?, ht, Option.bind_some, Option.bind_some, halike.supply_eq]

theorem firstClient?_eq (hs : s.Valid) (hunqueued : s.Unqueued)
    {tries : List (Platform (World σ) × Message)} {id : ClientId}
    (h : firstClient? tries s = some id) : s.nextClient? = some id := by
  induction tries generalizing s with
  | nil => cases h
  | cons first tries ih =>
    obtain ⟨p, msg⟩ := first
    rw [firstClient?] at h
    rcases hconnect : connect p msg s with ⟨e | next, s'⟩
    · rw [hconnect] at h
      obtain ⟨hs', hunqueued', hnext⟩ := connect_error_nextClient hs hunqueued hconnect
      exact hnext.symm.trans (ih hs' hunqueued' h)
    · rw [hconnect] at h
      cases h
      exact connect_ok_nextClient hs (by rw [hconnect])

theorem connect_error_same {v : View (World σ) γ τ} {I : World σ → Prop} (hp : p.Tidy v I)
    (hs : s.Sound) (hunqueued : s.Unqueued) (hinv : I s.caps.world)
    (h : connect p msg s = (.error e, s')) : Untouched v s s' := by
  obtain rfl | ⟨t, t', c, ht, rfl, hconnects⟩ := connect_error_cases hs.valid h
  · exact .refl v s'
  · have hborrows := hconnects.borrows hp (hs.valid t ht) (hunqueued t ht) hs.roomy hinv
    obtain ⟨pool, halike, rfl⟩ := hconnects.restocked (hs.valid t ht) (hunqueued t ht)
    constructor
    case rest => rfl
    case session?_eq =>
      intro id
      rw [session?, session?, ht]
      rfl
    case sessions_eq =>
      rw [ht]
      rfl
    case pending_eq =>
      rw [ht]
      rfl
    case supply_eq =>
      rw [ht]
      exact congrArg some halike.supply_eq.symm
    case isFree_eq => exact hborrows.isFree_eq
    case inUse_eq => exact hborrows.inUse_eq
    case cap_eq => exact hborrows.cap_eq
    case watches_eq => exact hborrows.watches

/-- Every server is sound that came up on a space whose slots can all be given back, whatever was
done with it since. -/
theorem sound_run {names : Option (NameResolver (World σ))} {config : Config}
    {c c' : CapSpace (World σ)} (hroomy : c.slots.pool.Roomy)
    (hstart : start p names config c = (.ok s, c')) (calls : List (Call σ)) :
    (s.run p calls).Sound where
  valid := (Goes.run (start_valid hstart) calls).valid ClientTable.way_inLine
  roomy := by
    rw [start_plain] at hstart
    rcases hjournaled : start p.journaled (names.map NameResolver.journaled) config c.withJournal
      with ⟨e | s₁, c₁⟩
    · rw [hjournaled] at hstart
      cases hstart
    · rw [hjournaled] at hstart
      cases hstart
      rw [← run_plain]
      exact (accounts_run hroomy hjournaled calls).roomy

end Server

/-! ## The machine -/

namespace Machine

variable {ν α : Type} {w : World (Machine ν)}

/-- What is seen of the machine. -/
def view : View (World (Machine ν)) SimCap (List Watch) :=
  ⟨fun w => w.rest.kernel.cap, fun w => w.rest.procs.watches⟩

/-- No deletion is going to fail. -/
def Deletes (w : World (Machine ν)) : Prop := w.rest.kernelFaults.queue .delete = []

theorem next_queue_nil {μ : Type} [DecidableEq μ] {plan : FaultPlan μ} {other : μ}
    (h : plan.queue other = []) (call : μ) : (plan.next call).2.queue other = [] := by
  by_cases hcall : other = call
  · subst hcall
    rw [FaultPlan.next, h]
    exact h
  · rw [next_queue_of_ne plan hcall, h]

theorem kernelFaults_kernelCall (call : KernelCall) (x : Attempt SimKernel α)
    (w : World (Machine ν)) :
    (kernelCall call x w).2.rest.kernelFaults = (w.rest.kernelFaults.next call).2 := by
  rcases hnext : w.rest.kernelFaults.next call with ⟨_ | e, plan⟩ <;>
    simp only [kernelCall, Attempt.on_apply, FaultPlan.guard, World.restPart, kernelFaultsPart,
      kernelPart, hnext]

theorem deletes_kernelCall (call : KernelCall) (x : Attempt SimKernel α) (h : Deletes w) :
    Deletes (kernelCall call x w).2 := by
  rw [Deletes, kernelFaults_kernelCall]
  exact next_queue_nil h call

/-- A call that puts a capability into an empty slot, or fails and leaves the slots alone. -/
theorem leaves_placing {call : KernelCall} {x : Attempt SimKernel Unit} {dest : CapPtr}
    {badge : Option Badge} (hx : Places dest badge x) :
    (view (ν := ν)).Leaves Deletes (kernelCall call x) (view.Filled dest) := by
  refine ⟨fun w hw => deletes_kernelCall call x hw, fun w _ a hok => ?_, fun w _ e herror => ?_⟩
  · obtain ⟨plan, ⟨e, hcall⟩ | hcall⟩ := kernelCall_cases call x w <;> rw [hcall] at hok ⊢
    · cases hok
    · obtain ⟨e, hfailed, -⟩ | ⟨c, -, hempty, hslots, -⟩ := hx w.rest.kernel
      · cases hfailed.symm.trans hok
      · refine ⟨hempty, fun slot hslot => ?_, rfl⟩
        simp only [view, SimKernel.cap, hslots, IdMap.get?_insert, if_neg hslot]
  · obtain ⟨plan, ⟨e', hcall⟩ | hcall⟩ := kernelCall_cases call x w <;> rw [hcall] at herror ⊢
    · exact ⟨rfl, rfl⟩
    · obtain ⟨e', -, hslots⟩ | ⟨c, hdone, -⟩ := hx w.rest.kernel
      · refine ⟨funext fun slot => ?_, rfl⟩
        simp only [view, SimKernel.cap, hslots]
      · cases hdone.symm.trans herror

theorem leaves_deleting (slot : CapPtr) :
    (view (ν := ν)).Leaves Deletes (guardedKernel.delete slot) (view.Emptied slot) := by
  show (view (ν := ν)).Leaves Deletes (kernelCall .delete (SimKernel.delete slot)) _
  refine ⟨fun w hw => deletes_kernelCall .delete _ hw, fun w _ a hok => ?_, fun w _ e herror => ?_⟩
  · obtain ⟨plan, ⟨e, hcall⟩ | hcall⟩ := kernelCall_cases .delete (SimKernel.delete slot) w <;>
      rw [hcall] at hok ⊢
    · cases hok
    · exact ⟨fun other => IdMap.get?_erase _ _ _, rfl⟩
  · obtain ⟨plan, ⟨e', hcall⟩ | hcall⟩ := kernelCall_cases .delete (SimKernel.delete slot) w <;>
      rw [hcall] at herror ⊢
    · exact ⟨rfl, rfl⟩
    · cases herror

theorem delete_eq_ok (slot : CapPtr) (h : Deletes w) : (guardedKernel.delete slot w).1 = .ok () := by
  show (kernelCall .delete (SimKernel.delete slot) w).1 = .ok ()
  have hnext : w.rest.kernelFaults.next .delete = (none, w.rest.kernelFaults) := by
    rw [FaultPlan.next, show w.rest.kernelFaults.queue .delete = [] from h]
  simp only [kernelCall, Attempt.on_apply, FaultPlan.guard, World.restPart, kernelFaultsPart,
    kernelPart, hnext]
  rfl

theorem leaves_watching (liveness notifyEp : CapPtr) :
    (view (ν := ν)).Leaves Deletes (guardedProcs.watch liveness notifyEp) fun _ _ => True := by
  show (view (ν := ν)).Leaves Deletes (procCall .watch (SimProcs.watch liveness notifyEp)) _
  refine ⟨fun w hw => ?_, fun _ _ _ _ => trivial, fun w _ e herror => ?_⟩
  · obtain ⟨plan, ⟨e, -, hcall⟩ | ⟨-, hcall⟩, -⟩ :=
      procCall_cases .watch (SimProcs.watch liveness notifyEp) w <;> rw [hcall] <;> exact hw
  · obtain ⟨plan, ⟨e', -, hcall⟩ | ⟨-, hcall⟩, -⟩ :=
      procCall_cases .watch (SimProcs.watch liveness notifyEp) w <;> rw [hcall] at herror ⊢
    · exact ⟨rfl, rfl⟩
    · rw [SimProcs.watch] at herror ⊢
      split at herror
      · next hfails =>
        rw [if_pos hfails]
        exact ⟨rfl, rfl⟩
      · cases herror

/-- Whatever else fails on the machine, it fails without changing what is seen. -/
theorem tidy_platform : (platform : Platform (World (Machine ν))).Tidy view Deletes where
  mint dest src badge := leaves_placing (places_mint dest src badge)
  accept dest index := leaves_placing (places_accept dest index)
  delete := leaves_deleting
  deletes slot _ hw := delete_eq_ok slot hw
  watch := leaves_watching

end Machine

namespace Server

/-- **A request to connect that fails leaves nothing behind.** Take a server that came up and was
used in any way, with no session queued, and a platform that leaves alone what it cannot do and can
delete. Then, if a request to open a session fails, whatever the reason, the sessions, the queue,
the free slots, the capabilities in all slots and the watches are what they were, and the next
client that is connected gets the id that it would have got otherwise. -/
theorem connect_error_untouched :
    (∀ {σ : Type} {q : Platform (World σ)} {names : Option (NameResolver (World σ))}
      {config : Config} {c c' : CapSpace (World σ)} {s : Server σ}, c.slots.pool.Roomy →
      start q names config c = (.ok s, c') → ∀ calls : List (Call σ), (s.run q calls).Sound) ∧
    ∀ {σ γ τ : Type} {p : Platform (World σ)} {v : View (World σ) γ τ} {I : World σ → Prop},
      p.Tidy v I → ∀ {s s' : Server σ}, s.Sound → s.Unqueued → I s.caps.world →
      ∀ {msg : Message} {e : Failure}, connect p msg s = (.error e, s') →
      Untouched v s s' ∧
        ∀ (tries tries' : List (Platform (World σ) × Message)) (id id' : ClientId),
          firstClient? tries s = some id → firstClient? tries' s' = some id' → id' = id := by
  refine ⟨fun hroomy hstart => sound_run hroomy hstart, ?_⟩
  intro σ γ τ p v I hp s s' hs hunqueued hinv msg e h
  refine ⟨connect_error_same hp hs hunqueued hinv h, fun tries tries' id id' hid hid' => ?_⟩
  obtain ⟨hs', hunqueued', hnext⟩ := connect_error_nextClient hs.valid hunqueued h
  have hfirst := firstClient?_eq hs.valid hunqueued hid
  have hfirst' := firstClient?_eq hs' hunqueued' hid'
  rw [hnext, hfirst] at hfirst'
  exact (Option.some.inj hfirst').symm

/-- The small server on the machine itself, just brought up. -/
def sampleUp : Server (Machine Unit) :=
  (start Machine.platform none sampleConfig sampleCaps).1.toOption.get (by decide +kernel)

/-- The request of a second client. -/
def sampleSecond : Message := (Request.encode .connect).withCap 0x501

/-- A first client connects. The second one is not going to be watched at its first try. -/
def sampleWaiting : Server (Machine Unit) :=
  sampleUp.run Machine.platform
    [.outside fun w => { w with rest := { w.rest with
        kernel := w.rest.kernel.deliver ((Request.encode .connect).withCap 0x500) } },
      .connect ((Request.encode .connect).withCap 0x500),
      .outside fun w => { w with rest := { w.rest with
        kernel := w.rest.kernel.deliver sampleSecond
        procFaults := w.rest.procFaults.extend .watch [some (.kernel (-1))] } }]

/-- It is given up again, and gets its id at the second try. -/
theorem connect_error_untouched_unwatched :
    let tried := connect Machine.platform sampleSecond sampleWaiting
    tried.1 = .error (.kernel (-1)) ∧ Untouched Machine.view sampleWaiting tried.2 ∧
      firstClient? [(Machine.platform, sampleSecond)] tried.2 = some 2 ∧
      ∀ tries id, firstClient? tries tried.2 = some id → id = 2 := by
  intro tried
  have hstart : start Machine.platform none sampleConfig sampleCaps =
      (.ok sampleUp, (start Machine.platform none sampleConfig sampleCaps).2) := rfl
  have hsound : sampleWaiting.Sound :=
    connect_error_untouched.1 (Pool.roomy_ofRange _ _) hstart _
  have hunqueued : sampleWaiting.Unqueued := by
    intro t ht
    have hpending : sampleWaiting.clients.map ClientTable.pending = some [] := by decide +kernel
    rw [ht] at hpending
    exact Option.some.inj hpending
  have hdeletes : Machine.Deletes sampleWaiting.caps.world := by
    unfold Machine.Deletes
    decide +kernel
  have hfailed : tried.1 = .error (.kernel (-1)) := by decide +kernel
  have htried : tried = (.error (.kernel (-1)), tried.2) := Prod.ext hfailed rfl
  obtain ⟨huntouched, hids⟩ :=
    connect_error_untouched.2 Machine.tidy_platform hsound hunqueued hdeletes htried
  have hretried : firstClient? [(Machine.platform, sampleSecond)] tried.2 = some 2 := by
    decide +kernel
  have hwithout : firstClient?
      [(Machine.platform, sampleSecond), (Machine.platform, sampleSecond)] sampleWaiting =
        some 2 := by
    decide +kernel
  exact ⟨hfailed, huntouched, hretried, fun tries id => hids _ tries 2 id hwithout⟩

end Server

end CapServer
