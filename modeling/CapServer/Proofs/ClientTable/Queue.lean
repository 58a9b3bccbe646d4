import CapServer.Proofs.ClientTable
import CapServer.Sim.Kernel
import Mathlib.Order.Bounds.Basic

/-!
# The queue of a client table

A client table goes through any number of calls: sessions are opened, completed, edited and queued,
and now and then the queue is swept. Whatever the kernel makes of the slots, the queue holds live
sessions only, each once, in the order in which they were queued; and what the next call does can be
told from the sessions and the queue (`ClientTable.inOrder_run`). In particular, no session inherits
anything from an earlier one with its id.

As long as a session lives, it goes from connecting to active to pending deletion, and never back
(`ClientTable.Valid.rank_le_run`).
-/

namespace CapServer

/-- How far a session has come. -/
def SessionState.rank : SessionState → Nat
  | connecting => 0
  | active => 1
  | pendingDelete => 2

namespace ClientTable

variable {ω : Type} {k : Kernel ω} {t t' : ClientTable} {caps : CapSpace ω} {id : ClientId}

/-! ## Calls -/

/-- What can be done with a client table. -/
inductive Call (ω : Type)
  | alloc (liveness : CapPtr)
  | markActive (id : ClientId)
  | setDeathId (id : ClientId) (death : Option DeathId)
  | setParamBuffer (id : ClientId) (buffer : Option ParamBuffer)
  | queueDelete (id : ClientId)
  | queueDeath (death : DeathId)
  | sweep
  /-- Something else is done with the slots. -/
  | meanwhile (change : CapSpace ω → CapSpace ω)

/-- Carry out a call. -/
def step (k : Kernel ω) (s : ClientTable × CapSpace ω) : Call ω → ClientTable × CapSpace ω
  | .alloc liveness => (alloc k liveness).settle s
  | .markActive id => (s.1.modify id fun x => { x with active := true }, s.2)
  | .setDeathId id death => (s.1.modify id fun x => { x with deathId := death }, s.2)
  | .setParamBuffer id buffer => (s.1.modify id fun x => { x with paramBuffer := buffer }, s.2)
  | .queueDelete id => ((queueDelete id).settle s.1, s.2)
  | .queueDeath death => ((queueDeath death).settle s.1, s.2)
  | .sweep => (sweep k s).2
  | .meanwhile change => (s.1, change s.2)

/-- Carry out one call after the other. -/
def run (k : Kernel ω) (s : ClientTable × CapSpace ω) (calls : List (Call ω)) :
    ClientTable × CapSpace ω :=
  calls.foldl (step k) s

/-! ## Where sessions stand -/

theorem state?_of_get? {s : Session} (h : t.get? id = some s) :
    t.state? id = some (if t.pending.contains id then .pendingDelete
      else if s.active then .active else .connecting) := by
  rw [state?, h, Option.map_some]

/-- What is not taken back from a session: that it is active, and that it is queued. -/
def Advances (t t' : ClientTable) : Prop :=
  ∀ id s s', t.get? id = some s → t'.get? id = some s' →
    (s.active = true → s'.active = true) ∧ (id ∈ t.pending → id ∈ t'.pending)

/-- A session that is neither made inactive nor taken out of the queue stands no further back. -/
theorem Advances.rank_le (h : t.Advances t') {a b : SessionState} (ha : t.state? id = some a)
    (hb : t'.state? id = some b) : a.rank ≤ b.rank := by
  obtain ⟨s, hs, -⟩ := Option.map_eq_some_iff.1 ha
  obtain ⟨s', hs', -⟩ := Option.map_eq_some_iff.1 hb
  obtain ⟨hactive, hqueued⟩ := h id s s' hs hs'
  rw [state?_of_get? hs, Option.some.injEq] at ha
  rw [state?_of_get? hs', Option.some.injEq] at hb
  subst ha hb
  simp only [List.contains_iff_mem]
  by_cases hpending' : id ∈ t'.pending
  · simp only [if_pos hpending']
    split
    · rfl
    · split <;> decide
  · have hpending : id ∉ t.pending := fun hmem => hpending' (hqueued hmem)
    simp only [if_neg hpending, if_neg hpending']
    by_cases hs : s.active = true
    · simp [hs, hactive hs]
    · simp [hs, SessionState.rank]

/-! ## One call -/

theorem pending_queue_grows (t : ClientTable) (id : ClientId) :
    t.pending <+: (t.queue id).pending := by
  rw [queue]
  split
  · exact List.prefix_refl _
  · exact List.prefix_append _ _

theorem queue_queue (t : ClientTable) (id : ClientId) : (t.queue id).queue id = t.queue id := by
  have hmem : id ∈ (t.queue id).pending := mem_pending_queue.2 (.inr rfl)
  rw [queue, if_pos]
  rw [List.contains_iff_mem]
  exact hmem

theorem queueDelete_of_isNone (h : (t.get? id).isSome = false) :
    queueDelete id t = (.error .notFound, t) := by
  rw [queueDelete, if_pos]
  simpa using h

/-- Queueing leaves the sessions as they are, or fails and changes nothing. -/
theorem queueDelete_cases (t : ClientTable) (id : ClientId) :
    ((t.get? id).isSome = true ∧ queueDelete id t = (.ok (), t.queue id)) ∨
      ((t.get? id).isSome = false ∧ queueDelete id t = (.error .notFound, t)) := by
  rcases hlive : (t.get? id).isSome with _ | _
  · exact .inr ⟨rfl, queueDelete_of_isNone hlive⟩
  · exact .inl ⟨rfl, queueDelete_of_isSome hlive⟩

/-- What a call makes of a table, unless it is the sweep. -/
inductive Change (t : ClientTable) : ClientTable → Prop
  | unchanged : Change t t
  | enter {pool : Pool} {s : Session} (taken : t.table.pool.alloc = some (s.id, pool))
      (badge_eq : s.badge = s.id + t.badgeBase) : Change t (t.enter pool s)
  | abandon {pool : Pool} {id : ClientId} (taken : t.table.pool.alloc = some (id, pool)) :
      Change t (t.abandon pool id)
  | modify (id : ClientId) {f : Session → Session}
      (same : ∀ s, (f s).id = s.id ∧ (f s).badge = s.badge)
      (active : ∀ s, s.active = true → (f s).active = true) : Change t (t.modify id f)
  | queue {id : ClientId} (live : (t.get? id).isSome = true) : Change t (t.queue id)

/-- The table after a sweep. -/
def swept (t : ClientTable) : ClientTable :=
  ({ t with pending := [] } : ClientTable).withoutAll t.pending

theorem get?_swept (t : ClientTable) (id : ClientId) :
    t.swept.get? id = if id ∈ t.pending then none else t.get? id := get?_withoutAll _ _ _

theorem pending_swept (t : ClientTable) : t.swept.pending = [] := pending_withoutAll _ _

theorem Valid.change (ht : t.Valid) (k : Kernel ω) (caps : CapSpace ω) {call : Call ω}
    (hcall : call ≠ .sweep) : t.Change (step k (t, caps) call).1 := by
  cases call with
  | alloc liveness =>
    simp only [step, Attempt.settle]
    rcases alloc_cases ht k liveness caps with
      ⟨-, halloc⟩ | ⟨j, pool, htaken, ⟨endpoint, caps', -, halloc⟩ | ⟨e, caps', -, halloc⟩⟩
    · rw [halloc]
      exact .unchanged
    · rw [halloc]
      exact .enter htaken rfl
    · rw [halloc]
      exact .abandon htaken
  | markActive id => exact .modify id (fun _ => ⟨rfl, rfl⟩) fun _ _ => rfl
  | setDeathId id death => exact .modify id (fun _ => ⟨rfl, rfl⟩) fun _ h => h
  | setParamBuffer id buffer => exact .modify id (fun _ => ⟨rfl, rfl⟩) fun _ h => h
  | queueDelete id =>
    simp only [step, Attempt.settle]
    rcases t.queueDelete_cases id with ⟨hlive, hqueue⟩ | ⟨-, hqueue⟩
    · rw [hqueue]
      exact .queue hlive
    · rw [hqueue]
      exact .unchanged
  | queueDeath death =>
    simp only [step, Attempt.settle]
    rcases t.queueDeath_cases death with ⟨-, hqueue⟩ | ⟨j, s, -, hget, -, hqueue⟩
    · rw [hqueue]
      exact .unchanged
    · rw [hqueue]
      exact .queue (Option.isSome_of_eq_some hget)
  | sweep => exact absurd rfl hcall
  | meanwhile change => exact .unchanged

theorem Valid.of_change (ht : t.Valid) (h : t.Change t') : t'.Valid := by
  cases h with
  | unchanged => exact ht
  | enter taken badge_eq => exact ht.enter taken badge_eq
  | abandon taken => exact ht.abandon taken
  | modify id same => exact ht.modify id same
  | queue live => exact ht.queue live

theorem Valid.swept (ht : t.Valid) : t.swept.Valid :=
  ht.clearPending.withoutAll fun _ _ => List.not_mem_nil

/-- What is queued stays where it is in the queue. -/
theorem Change.pending_grows (h : t.Change t') : t.pending <+: t'.pending := by
  cases h with
  | queue live => exact t.pending_queue_grows _
  | _ => exact List.prefix_refl _

theorem Change.advances (ht : t.Valid) (h : t.Change t') : t.Advances t' := by
  intro j x x' hx hx'
  refine ⟨fun hactive => ?_, fun hj => h.pending_grows.subset hj⟩
  cases h with
  | enter taken =>
    -- The id of a new session had none before, so the session is another one.
    rw [get?_enter, if_neg, hx] at hx'
    · cases hx'
      exact hactive
    · rintro rfl
      rw [ht.get?_of_alloc taken] at hx
      cases hx
  | modify id same active =>
    rw [get?_modify] at hx'
    split at hx'
    · next hj =>
      rw [← hj, hx] at hx'
      cases hx'
      exact active x hactive
    · rw [hx] at hx'
      cases hx'
      exact hactive
  | queue live =>
    rw [get?_queue, hx] at hx'
    cases hx'
    exact hactive
  | unchanged =>
    rw [hx] at hx'
    cases hx'
    exact hactive
  | abandon taken =>
    have hsame : some x = some x' := hx.symm.trans hx'
    cases hsame
    exact hactive

/-- Whoever outlives a sweep was not queued. -/
theorem advances_swept (t : ClientTable) : t.Advances t.swept := by
  intro j x x' hx hx'
  rw [get?_swept] at hx'
  split at hx'
  · cases hx'
  · next hj =>
    rw [hx] at hx'
    cases hx'
    exact ⟨fun hactive => hactive, fun hmem => absurd hmem hj⟩

theorem step_sweep (ht : t.Valid) (k : Kernel ω) (caps : CapSpace ω) :
    (step k (t, caps) .sweep).1 = t.swept := by
  simp only [step, sweep_eq ht]
  rfl

theorem Valid.step (ht : t.Valid) (k : Kernel ω) (caps : CapSpace ω) (call : Call ω) :
    (step k (t, caps) call).1.Valid ∧ t.Advances (ClientTable.step k (t, caps) call).1 := by
  by_cases hcall : call = .sweep
  · rw [hcall, step_sweep ht]
    exact ⟨ht.swept, t.advances_swept⟩
  · have hchange := ht.change k caps hcall
    exact ⟨ht.of_change hchange, hchange.advances ht⟩

/-! ## Many calls -/

theorem Valid.run {s : ClientTable × CapSpace ω} (hs : s.1.Valid) (k : Kernel ω)
    (calls : List (Call ω)) : (run k s calls).1.Valid := by
  induction calls generalizing s with
  | nil => exact hs
  | cons call calls ih => exact ih (hs.step k s.2 call).1

/-- **A session never goes back.** While some calls are carried out that leave a session alive, it
gets no further from its end. -/
theorem Valid.rank_le_run {s : ClientTable × CapSpace ω} (hs : s.1.Valid) (k : Kernel ω)
    {calls : List (Call ω)}
    (hlive : ∀ done, done <+: calls → ((ClientTable.run k s done).1.get? id).isSome = true)
    {a b : SessionState} (ha : s.1.state? id = some a)
    (hb : (ClientTable.run k s calls).1.state? id = some b) : a.rank ≤ b.rank := by
  induction calls generalizing s a with
  | nil =>
    have hsame : some a = some b := ha.symm.trans hb
    cases hsame
    rfl
  | cons call calls ih =>
    obtain ⟨hvalid, hadvances⟩ := hs.step k s.2 call
    have halive : ((ClientTable.step k s call).1.get? id).isSome = true :=
      hlive [call] (List.prefix_append [call] calls)
    obtain ⟨x, hx⟩ := Option.isSome_iff_exists.1 halive
    -- The session outlives the first call, so it stands somewhere in between.
    have hmid := state?_of_get? hx
    have hrest := ih hvalid
      (fun done hdone => hlive (call :: done) ((List.prefix_cons_inj call).2 hdone)) hmid hb
    exact (hadvances.rank_le ha hmid).trans hrest

/-! ## Looking for a death -/

/-- Of the sessions with a death id, the first one is found. -/
theorem findDeath?_eq_some_iff {death : DeathId} : t.findDeath? death = some id ↔
    IsLeast {i | ∃ s, t.get? i = some s ∧ s.deathId = some death} id := by
  have hleast : ∀ {i}, t.findDeath? death = some i →
      IsLeast {i | ∃ s, t.get? i = some s ∧ s.deathId = some death} i := by
    intro i hi
    refine ⟨findDeath?_eq_some hi, ?_⟩
    rintro j ⟨x, hx, hdeath⟩
    obtain ⟨⟨_, y⟩, hfind, rfl⟩ := Option.map_eq_some_iff.1 hi
    obtain ⟨-, before, after, hlist, hbefore⟩ := List.find?_eq_some_iff_append.1 hfind
    have hsorted : (t.table.toList).Pairwise fun a b => a.1 < b.1 := t.table.objects.sorted
    have hj : (j, x) ∈ t.table.toList := IdMap.get?_eq_some_iff.1 hx
    -- What stands before the one found has another death id, what stands behind it a higher id.
    rw [hlist, List.mem_append, List.mem_cons] at hj
    rw [hlist, List.pairwise_append, List.pairwise_cons] at hsorted
    rcases hj with hj | hj | hj
    · simpa [hdeath] using hbefore _ hj
    · exact Nat.le_of_eq (congrArg Prod.fst hj).symm
    · exact Nat.le_of_lt (hsorted.2.1.1 _ hj)
  refine ⟨hleast, fun hid => ?_⟩
  obtain ⟨x, hx, hdeath⟩ := hid.1
  rcases hfind : t.findDeath? death with _ | j
  · exact absurd hdeath (findDeath?_eq_none hfind hx)
  · rw [(hleast hfind).unique hid]

theorem queueDeath_of_isLeast {death : DeathId}
    (h : IsLeast {i | ∃ s, t.get? i = some s ∧ s.deathId = some death} id) :
    queueDeath death t = (.ok id, t.queue id) := by
  rw [← findDeath?_eq_some_iff] at h
  rcases t.queueDeath_cases death with ⟨hnone, -⟩ | ⟨j, s, hfind, -, -, hqueue⟩
  · rw [h] at hnone
    cases hnone
  · rw [h, Option.some.injEq] at hfind
    rw [hqueue, hfind]

/-! ## What the sweep releases -/

theorem holdingsAt_eq_flatMap (t : ClientTable) (ids : List ClientId) :
    t.holdingsAt ids = (ids.filterMap t.get?).flatMap Session.holdings := by
  induction ids with
  | nil => rfl
  | cons id ids ih =>
    rw [holdingsAt, List.flatMap_cons, ← holdingsAt, ih, List.filterMap_cons]
    rcases t.get? id <;> rfl

/-- The sessions that are queued are ended one after the other. -/
theorem sweep_caps (ht : t.Valid) (k : Kernel ω) (caps : CapSpace ω) :
    (sweep k (t, caps)).2.2 = (t.pending.filterMap t.get?).foldl
      (fun caps s => (t.factory k).destroy s.id s caps) caps := by
  rw [sweep_eq ht, holdingsAt_eq_flatMap, Holding.slots, List.map_flatMap, List.foldl_flatMap]
  have hdestroy : ∀ (caps : CapSpace ω) (s : Session),
      (s.holdings.map Holding.slot).foldl (fun caps slot => caps.discard k slot) caps =
        (t.factory k).destroy s.id s caps := by
    intro caps s
    rw [← Holding.slots, s.slots_holdings]
    rfl
  simp only [hdestroy]

/-! ## All of it -/

/-- A session that was just opened for a client, with everything else as it was. -/
structure Opened (t : ClientTable) (liveness : CapPtr) (id : ClientId) (t' : ClientTable) :
    Prop where
  fresh : t.get? id = none
  state_eq : t'.state? id = some .connecting
  notQueued : id ∉ t'.pending
  blank : ∃ s, t'.get? id = some s ∧ s.liveness = liveness ∧ s.deathId = none ∧
    s.paramBuffer = none
  others : ∀ j, j ≠ id → t'.get? j = t.get? j
  pending_eq : t'.pending = t.pending

/-- What becomes of the sessions of a table, and of its queue. -/
structure InOrder (k : Kernel ω) (s : ClientTable × CapSpace ω) : Prop where
  nodup : s.1.pending.Nodup
  live : ∀ id ∈ s.1.pending, (s.1.get? id).isSome = true
  /-- What is queued stays where it is in the queue until the sweep. -/
  order : ∀ call, call ≠ .sweep → s.1.pending <+: (step k s call).1.pending
  /-- A live session can be queued, and once is as good as twice. -/
  queueDelete_live : ∀ id, (s.1.get? id).isSome = true →
    queueDelete id s.1 = (.ok (), s.1.queue id) ∧
      queueDelete id (s.1.queue id) = (.ok (), s.1.queue id)
  queueDelete_unknown : ∀ id, (s.1.get? id).isSome = false →
    queueDelete id s.1 = (.error .notFound, s.1)
  /-- Of the sessions with a death id, the one with the lowest id can be queued. -/
  queueDeath_live : ∀ death id,
    IsLeast {i | ∃ x, s.1.get? i = some x ∧ x.deathId = some death} id →
      queueDeath death s.1 = (.ok id, s.1.queue id) ∧
        queueDeath death (s.1.queue id) = (.ok id, s.1.queue id)
  queueDeath_unknown : ∀ death, (∀ i x, s.1.get? i = some x → x.deathId ≠ some death) →
    queueDeath death s.1 = (.error .notFound, s.1)
  /-- The sweep ends what is queued, in the order of the queue, and nothing else. -/
  swept : (sweep k s).1 = s.1.pending.length ∧ (sweep k s).2.1.pending = [] ∧
    (∀ j, (sweep k s).2.1.get? j = if j ∈ s.1.pending then none else s.1.get? j) ∧
    (sweep k s).2.2 = (s.1.pending.filterMap s.1.get?).foldl
      (fun caps x => (s.1.factory k).destroy x.id x caps) s.2
  opened : ∀ liveness id t caps, alloc k liveness s = (.ok id, t, caps) →
    s.1.Opened liveness id t
  unopened : ∀ liveness e t caps, alloc k liveness s = (.error e, t, caps) →
    (∀ j, t.get? j = s.1.get? j) ∧ t.pending = s.1.pending
  /-- As long as a session lives, it does not go back. -/
  forward : ∀ calls id a b, (∀ done, done <+: calls → ((run k s done).1.get? id).isSome = true) →
    s.1.state? id = some a → (run k s calls).1.state? id = some b → a.rank ≤ b.rank

theorem Valid.opened (ht : t.Valid) {liveness : CapPtr} {caps' : CapSpace ω}
    (h : alloc k liveness (t, caps) = (.ok id, t', caps')) : t.Opened liveness id t' := by
  rcases alloc_cases ht k liveness caps with
    ⟨-, halloc⟩ | ⟨j, pool, htaken, ⟨endpoint, caps₁, -, halloc⟩ | ⟨e, caps₁, -, halloc⟩⟩
  · simp [halloc] at h
  · simp only [halloc, Prod.mk.injEq, Except.ok.injEq] at h
    obtain ⟨rfl, rfl, rfl⟩ := h
    have hnone := ht.get?_of_alloc htaken
    have hpending : j ∉ t.pending := by
      intro hj
      have := ht.live j hj
      simp [hnone] at this
    have hget := t.get?_enter pool ⟨j, j + t.badgeBase, liveness, endpoint, false, none, none⟩ j
    rw [if_pos rfl] at hget
    refine ⟨hnone, ?_, hpending, ⟨_, hget, rfl, rfl, rfl⟩, fun i hi => ?_, rfl⟩
    · rw [state?_of_get? hget, if_neg]
      · rfl
      · rw [List.contains_iff_mem]
        exact hpending
    · rw [get?_enter, if_neg hi]
  · simp [halloc] at h

theorem Valid.unopened (ht : t.Valid) {liveness : CapPtr} {e : Failure} {caps' : CapSpace ω}
    (h : alloc k liveness (t, caps) = (.error e, t', caps')) :
    (∀ j, t'.get? j = t.get? j) ∧ t'.pending = t.pending := by
  rcases alloc_cases ht k liveness caps with
    ⟨-, halloc⟩ | ⟨j, pool, htaken, ⟨endpoint, caps₁, -, halloc⟩ | ⟨e, caps₁, -, halloc⟩⟩
  · simp only [halloc, Prod.mk.injEq] at h
    obtain ⟨-, rfl, -⟩ := h
    exact ⟨fun _ => rfl, rfl⟩
  · simp [halloc] at h
  · simp only [halloc, Prod.mk.injEq] at h
    obtain ⟨-, rfl, -⟩ := h
    exact ⟨fun _ => rfl, rfl⟩

/-- **A table keeps its sessions in order.** Whatever was done with a table since it was made, and
however the kernel behaved, what becomes of its sessions and its queue is as `InOrder` says. -/
theorem inOrder_run (k : Kernel ω) {maxClients badgeBase : Nat} {source : CapPtr}
    (h : create maxClients badgeBase source = .ok t) (caps : CapSpace ω)
    (calls : List (Call ω)) : InOrder k (run k (t, caps) calls) := by
  have ht : (run k (t, caps) calls).1.Valid := (create_spec h).1.run k calls
  generalize run k (t, caps) calls = s at ht ⊢
  obtain ⟨t, caps⟩ := s
  refine ⟨ht.nodup, ht.live, fun call hcall => (ht.change k caps hcall).pending_grows,
    fun id hid => ⟨queueDelete_of_isSome hid, ?_⟩, fun id hid => queueDelete_of_isNone hid,
    fun death id hid => ⟨queueDeath_of_isLeast hid, ?_⟩, fun death hdeath => ?_,
    ⟨?_, ?_, fun j => ?_, sweep_caps ht k caps⟩, fun _ _ _ _ halloc => ht.opened halloc,
    fun _ _ _ _ halloc => ht.unopened halloc,
    fun calls id a b hlive ha hb => ht.rank_le_run k hlive ha hb⟩
  · rw [queueDelete_of_isSome (by rw [get?_queue]; exact hid), queue_queue]
  · simp only [← get?_queue t id] at hid
    rw [queueDeath_of_isLeast hid, queue_queue]
  · rcases t.queueDeath_cases death with ⟨-, hqueue⟩ | ⟨j, s, -, hget, hs, -⟩
    · exact hqueue
    · exact absurd hs (hdeath j s hget)
  · rw [sweep_eq ht]
  · rw [sweep_eq ht]
    exact t.pending_swept
  · rw [sweep_eq ht]
    exact t.get?_swept j

/-- The death that two clients share is announced twice. The first of them is queued, once, and its
id goes to a third client after the sweep; the other one stays as it was. -/
theorem inOrder_run_with_recycled_id :
    let announced : List (Call SimKernel) :=
      [.alloc 20, .alloc 21, .markActive 1, .setDeathId 1 (some 7), .setDeathId 2 (some 7),
        .queueDeath 7, .queueDeath 7, .queueDelete 3]
    let recycled := announced ++ [.sweep, .alloc 22, .markActive 1]
    let seen : Session → CapPtr × Bool × Option DeathId := fun x => (x.liveness, x.active, x.deathId)
    ∃ t, create 4 1000 16 = .ok t ∧
      let after := fun calls => run SimKernel.kernel (t, ⟨⟨.ofRange 100 110⟩, .empty⟩) calls
      (after announced).1.pending = [1] ∧
      ((after announced).1.get? 1).map seen = some (20, true, some 7) ∧
      InOrder SimKernel.kernel (after recycled) ∧
      (after recycled).1.pending = [] ∧
      ((after recycled).1.get? 1).map seen = some (22, true, none) ∧
      ((after recycled).1.get? 2).map seen = some (21, false, some 7) := by
  intro announced recycled seen
  have h : create 4 1000 16 = .ok ⟨⟨.ofRange 1 4, .empty⟩, [], 1000, 1004, 16⟩ := rfl
  exact ⟨_, h, rfl, rfl, inOrder_run SimKernel.kernel h _ recycled, rfl, rfl, rfl⟩

end ClientTable

end CapServer
