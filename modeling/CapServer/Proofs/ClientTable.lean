import CapServer.Proofs.CapSpace
import CapServer.Proofs.ObjectTable
import CapServer.Session

/-!
# Client tables

What a client table looks like at all times is `ClientTable.Valid`: the ids taken from its pool are
those of its sessions, a session has the badge that goes with its id, and only live sessions are
queued. From this follow what opening a session does (`ClientTable.alloc_cases`), what the sweep
does (`ClientTable.sweep_eq`), and that badges tell sessions apart
(`Valid.getByBadge?_eq_some_iff`).

The slots of the sessions are added up over any choice of clients (`ClientTable.holdingsOf`): the
sum over a choice changes with one of its sessions by what that session holds
(`ClientTable.holdingsOf_perm`).
-/

namespace CapServer

namespace Session

/-- What a session holds for as long as it lives: its endpoint was minted with its badge. -/
def fixedHoldings (s : Session) : List Holding :=
  [⟨s.liveness, none⟩, ⟨s.endpoint, some s.badge⟩]

/-- What is held for a parameter buffer. -/
def bufferHoldings (buffer : Option ParamBuffer) : List Holding :=
  (buffer.map fun b => ⟨b.dataspace, none⟩).toList

/-- What a session holds. -/
def holdings (s : Session) : List Holding := s.fixedHoldings ++ bufferHoldings s.paramBuffer

theorem slots_holdings (s : Session) : Holding.slots s.holdings = s.slots := by
  rcases s with ⟨_, _, _, _, _, _, _ | _⟩ <;> rfl

end Session

namespace ClientTable

variable {ω : Type} {t : ClientTable} {id : ClientId} {s : Session}

/-! ## Changing one session -/

/-- Without the session of a client, whose id is given back. -/
def without (id : ClientId) (t : ClientTable) : ClientTable :=
  { t with table := ⟨t.table.pool.free id, t.table.objects.erase id⟩ }

/-- Without the sessions of some clients. -/
def withoutAll (ids : List ClientId) (t : ClientTable) : ClientTable :=
  ids.foldl (fun t id => t.without id) t

/-- With one more session, whose id was taken and left a pool behind. -/
def enter (pool : Pool) (s : Session) (t : ClientTable) : ClientTable :=
  { t with table := ⟨pool, t.table.objects.insert s.id s⟩ }

/-- With an id given back after it was taken for nothing. -/
def abandon (pool : Pool) (id : ClientId) (t : ClientTable) : ClientTable :=
  { t with table := { t.table with pool := pool.free id } }

theorem get?_without (t : ClientTable) (id j : ClientId) :
    (t.without id).get? j = if j = id then none else t.get? j := IdMap.get?_erase _ _ _

theorem get?_withoutAll (t : ClientTable) (ids : List ClientId) (j : ClientId) :
    (t.withoutAll ids).get? j = if j ∈ ids then none else t.get? j := by
  induction ids generalizing t with
  | nil => rfl
  | cons id ids ih =>
    rw [withoutAll, List.foldl_cons, ← withoutAll, ih, get?_without]
    by_cases hj : j = id
    · simp only [hj, if_true, ite_self, List.mem_cons, true_or]
    · simp only [hj, if_false, List.mem_cons, false_or]

theorem pending_withoutAll (t : ClientTable) (ids : List ClientId) :
    (t.withoutAll ids).pending = t.pending := by
  induction ids generalizing t with
  | nil => rfl
  | cons id ids ih => exact ih (t.without id)

theorem badges_withoutAll (t : ClientTable) (ids : List ClientId) :
    (t.withoutAll ids).badgeBase = t.badgeBase ∧ (t.withoutAll ids).badgeEnd = t.badgeEnd := by
  induction ids generalizing t with
  | nil => exact ⟨rfl, rfl⟩
  | cons id ids ih => exact ih (t.without id)

theorem get?_enter (t : ClientTable) (pool : Pool) (s : Session) (j : ClientId) :
    (t.enter pool s).get? j = if j = s.id then some s else t.get? j := IdMap.get?_insert _ _ _ _

theorem get?_modify (t : ClientTable) (id : ClientId) (f : Session → Session) (j : ClientId) :
    (t.modify id f).get? j = if j = id then (t.get? id).map f else t.get? j :=
  IdMap.get?_modify _ _ _ _

theorem modify_enter (t : ClientTable) (pool : Pool) (s : Session) {f : Session → Session}
    (hf : (f s).id = s.id) : (t.enter pool s).modify s.id f = t.enter pool (f s) := by
  have hobjects := IdMap.modify_insert t.table.objects s.id s f
  simp only [modify, enter, ObjectTable.modify, hobjects, hf]

/-! ## What sessions hold -/

/-- What the sessions of the chosen clients hold, in id order. -/
def holdingsOf (t : ClientTable) (P : ClientId → Bool) : List Holding :=
  (t.table.toList.filter fun e => P e.1).flatMap fun e => e.2.holdings

/-- What the sessions of some clients hold, one client after the other. -/
def holdingsAt (t : ClientTable) (ids : List ClientId) : List Holding :=
  ids.flatMap fun id => (t.get? id).elim [] Session.holdings

variable {P : ClientId → Bool}

theorem holdingsOf_perm (h : t.get? id = some s) (hP : P id = true) :
    (t.holdingsOf P).Perm (s.holdings ++ (t.without id).holdingsOf P) := by
  have hp := (IdMap.toList_perm_cons_erase h).filter fun e => P e.1
  rw [List.filter_cons_of_pos (by exact hP)] at hp
  exact hp.flatMap_right _

/-- A choice and its complement make up all sessions. -/
theorem holdingsOf_not_append (t : ClientTable) (P : ClientId → Bool) :
    ((t.holdingsOf fun id => !P id) ++ t.holdingsOf P).Perm (t.holdingsOf fun _ => true) := by
  have hp := (List.filter_append_perm (fun e : ObjectId × Session => P e.1)
    t.table.toList).flatMap_right fun e => e.2.holdings
  rw [List.flatMap_append] at hp
  refine List.perm_append_comm.trans (hp.trans (List.Perm.of_eq ?_))
  rw [holdingsOf, List.filter_eq_self.2 fun _ _ => rfl]

theorem holdingsOf_eq_nil (h : ∀ id, t.get? id = none) : t.holdingsOf P = [] := by
  have hnil : t.table.toList = [] := List.eq_nil_iff_forall_not_mem.2 fun e he => by
    have hget : t.get? e.1 = some e.2 := IdMap.get?_eq_some_iff.2 he
    rw [h] at hget
    cases hget
  rw [holdingsOf, hnil]
  rfl

/-- Over all clients, the slots of what sessions hold are the slots of the sessions. -/
theorem slots_holdingsOf (t : ClientTable) :
    Holding.slots (t.holdingsOf fun _ => true) = t.sessions.flatMap Session.slots := by
  rw [holdingsOf, List.filter_eq_self.2 fun _ _ => rfl, Holding.slots, List.map_flatMap, sessions,
    List.flatMap_map]
  exact congrArg (List.flatMap · _) (funext fun e => e.2.slots_holdings)

theorem holdingsOf_enter (hs : t.get? s.id = none) (pool : Pool) (hP : P s.id = true) :
    ((t.enter pool s).holdingsOf P).Perm (s.holdings ++ t.holdingsOf P) := by
  have hget : (t.enter pool s).get? s.id = some s := by rw [get?_enter, if_pos rfl]
  refine (holdingsOf_perm hget hP).trans (List.Perm.of_eq ?_)
  simp only [holdingsOf, enter, without, ObjectTable.toList, IdMap.erase_insert]
  rw [IdMap.erase_of_get?_eq_none hs]

theorem holdingsOf_modify (h : t.get? id = some s) (f : Session → Session) (hP : P id = true) :
    ((t.modify id f).holdingsOf P).Perm ((f s).holdings ++ (t.without id).holdingsOf P) := by
  have hget : (t.modify id f).get? id = some (f s) := by rw [get?_modify, if_pos rfl, h]; rfl
  refine (holdingsOf_perm hget hP).trans (List.Perm.of_eq ?_)
  simp only [holdingsOf, modify, without, ObjectTable.toList, ObjectTable.modify,
    IdMap.erase_modify]

theorem holdingsAt_without {ids : List ClientId} (hid : id ∉ ids) :
    (t.without id).holdingsAt ids = t.holdingsAt ids := by
  rw [holdingsAt, holdingsAt, List.flatMap, List.flatMap, List.map_congr_left fun j hj => ?_]
  rw [get?_without, if_neg]
  rintro rfl
  exact hid hj

theorem holdingsAt_cons (h : t.get? id = some s) (ids : List ClientId) :
    t.holdingsAt (id :: ids) = s.holdings ++ t.holdingsAt ids := by
  rw [holdingsAt, List.flatMap_cons, h]
  rfl

theorem isSome_without {ids : List ClientId} (hid : id ∉ ids)
    (hlive : ∀ j ∈ ids, (t.get? j).isSome = true) :
    ∀ j ∈ ids, ((t.without id).get? j).isSome = true := fun j hj => by
  rw [get?_without, if_neg]
  · exact hlive j hj
  · rintro rfl
    exact hid hj

theorem holdingsOf_withoutAll {ids : List ClientId} (hnodup : ids.Nodup)
    (hlive : ∀ id ∈ ids, (t.get? id).isSome = true) (hP : ∀ id ∈ ids, P id = true) :
    (t.holdingsOf P).Perm (t.holdingsAt ids ++ (t.withoutAll ids).holdingsOf P) := by
  induction ids generalizing t with
  | nil => exact List.Perm.refl _
  | cons id ids ih =>
    obtain ⟨s, hs⟩ := Option.isSome_iff_exists.1 (hlive id List.mem_cons_self)
    rw [List.nodup_cons] at hnodup
    have hrest := ih hnodup.2
      (isSome_without hnodup.1 fun j hj => hlive j (List.mem_cons_of_mem _ hj))
      fun j hj => hP j (List.mem_cons_of_mem _ hj)
    rw [holdingsAt_without hnodup.1] at hrest
    rw [holdingsAt_cons hs, List.append_assoc]
    exact (holdingsOf_perm hs (hP id List.mem_cons_self)).trans (hrest.append_left _)

theorem mem_holdingsOf (h : t.get? id = some s) (hP : P id = true) {x : Holding}
    (hx : x ∈ s.holdings) : x ∈ t.holdingsOf P :=
  (holdingsOf_perm h hP).mem_iff.2 (List.mem_append_left _ hx)

theorem mem_slots_holdingsOf (h : t.get? id = some s) (hP : P id = true) {slot : CapPtr}
    (hslot : slot ∈ s.slots) : slot ∈ Holding.slots (t.holdingsOf P) := by
  rw [← s.slots_holdings] at hslot
  obtain ⟨x, hx, rfl⟩ := List.mem_map.1 hslot
  exact Holding.mem_slots (mem_holdingsOf h hP hx)

/-! ## Valid tables -/

/-- What is true of every client table. -/
structure Valid (t : ClientTable) : Prop where
  roomy : t.table.pool.Roomy
  start_eq : t.table.pool.start = 1
  taken : ∀ id, t.table.pool.isTaken id = true ↔ (t.get? id).isSome = true
  id_eq : ∀ id s, t.get? id = some s → s.id = id
  badge_eq : ∀ id s, t.get? id = some s → s.badge = id + t.badgeBase
  badgeEnd_eq : t.badgeEnd = t.badgeBase + t.table.pool.stop
  badgeEnd_lt : t.badgeEnd < wordSize
  nodup : t.pending.Nodup
  live : ∀ id ∈ t.pending, (t.get? id).isSome = true

namespace Valid

theorem get?_isSome (ht : t.Valid) (h : (t.get? id).isSome = true) :
    1 ≤ id ∧ id < t.table.pool.stop := by
  rw [← ht.taken, Pool.isTaken_iff, ht.start_eq] at h
  exact ⟨h.1, Nat.lt_of_lt_of_le h.2.1 t.table.pool.next_le_stop⟩

theorem clearPending (ht : t.Valid) : Valid { t with pending := [] } :=
  { ht with nodup := List.nodup_nil, live := fun _ h => nomatch h }

theorem without (ht : t.Valid) (hid : id ∉ t.pending) : (t.without id).Valid where
  roomy := ht.roomy.of_frame_eq (Pool.frame_free _ _)
  start_eq := (congrArg Prod.fst (Pool.frame_free _ _)).trans ht.start_eq
  taken := ObjectTable.Dense.without ht.taken ht.roomy id
  id_eq j s h := by
    rw [get?_without] at h
    split at h
    · cases h
    · exact ht.id_eq j s h
  badge_eq j s h := by
    rw [get?_without] at h
    split at h
    · cases h
    · exact ht.badge_eq j s h
  badgeEnd_eq := by
    have hstop := congrArg (fun f => f.2.1) (Pool.frame_free t.table.pool id)
    exact ht.badgeEnd_eq.trans (congrArg (t.badgeBase + ·) hstop.symm)
  badgeEnd_lt := ht.badgeEnd_lt
  nodup := ht.nodup
  live j hj := by
    have hne : j ≠ id := by
      rintro rfl
      exact hid hj
    rw [get?_without, if_neg hne]
    exact ht.live j hj

theorem withoutAll (ht : t.Valid) {ids : List ClientId} (hids : ∀ id ∈ ids, id ∉ t.pending) :
    (t.withoutAll ids).Valid := by
  induction ids generalizing t with
  | nil => exact ht
  | cons id ids ih =>
    exact ih (ht.without (hids id List.mem_cons_self))
      fun j hj => hids j (List.mem_cons_of_mem _ hj)

/-- Taking an id for a new session: the id is fresh. -/
theorem get?_of_alloc (ht : t.Valid) {pool : Pool} (h : t.table.pool.alloc = some (id, pool)) :
    t.get? id = none := ObjectTable.Dense.get?_of_alloc ht.taken h

theorem enter (ht : t.Valid) {pool : Pool} (halloc : t.table.pool.alloc = some (s.id, pool))
    (hbadge : s.badge = s.id + t.badgeBase) : (t.enter pool s).Valid := by
  have hframe := (Pool.alloc_spec halloc).2.2.1
  refine ⟨ht.roomy.of_frame_eq hframe, (congrArg Prod.fst hframe).trans ht.start_eq,
    ObjectTable.Dense.enter ht.taken halloc s, fun j s' h => ?_, fun j s' h => ?_, ?_,
    ht.badgeEnd_lt, ht.nodup, fun j hj => ?_⟩
  · rw [get?_enter] at h
    split at h
    · next hj => cases h; exact hj.symm
    · exact ht.id_eq j s' h
  · rw [get?_enter] at h
    split at h
    · next hj => cases h; rw [hj]; exact hbadge
    · exact ht.badge_eq j s' h
  · have hstop := congrArg (fun f => f.2.1) hframe
    exact ht.badgeEnd_eq.trans (congrArg (t.badgeBase + ·) hstop.symm)
  · rw [get?_enter]
    split
    · rfl
    · exact ht.live j hj

theorem abandon (ht : t.Valid) {pool : Pool} (halloc : t.table.pool.alloc = some (id, pool)) :
    (t.abandon pool id).Valid := by
  have hframe := (Pool.frame_free pool id).trans (Pool.alloc_spec halloc).2.2.1
  have hstop := congrArg (fun f => f.2.1) hframe
  exact { ht with
    roomy := ht.roomy.of_frame_eq hframe
    start_eq := (congrArg Prod.fst hframe).trans ht.start_eq
    taken := ObjectTable.Dense.abandon ht.taken ht.roomy halloc
    badgeEnd_eq := ht.badgeEnd_eq.trans (congrArg (t.badgeBase + ·) hstop.symm) }

theorem modify (ht : t.Valid) (id : ClientId) {f : Session → Session}
    (hf : ∀ s, (f s).id = s.id ∧ (f s).badge = s.badge) : (t.modify id f).Valid := by
  have hsome : ∀ j, ((t.modify id f).get? j).isSome = (t.get? j).isSome := fun j => by
    rw [get?_modify]
    split
    · next h => rw [h, Option.isSome_map]
    · rfl
  refine { ht with
    taken := ObjectTable.Dense.modify ht.taken id f
    id_eq := fun j s h => ?_
    badge_eq := fun j s h => ?_
    live := fun j hj => by rw [hsome]; exact ht.live j hj }
  · rw [get?_modify] at h
    split at h
    · next hj =>
      obtain ⟨s', hs', rfl⟩ := Option.map_eq_some_iff.1 h
      rw [(hf s').1, hj]
      exact ht.id_eq id s' hs'
    · exact ht.id_eq j s h
  · rw [get?_modify] at h
    split at h
    · next hj =>
      obtain ⟨s', hs', rfl⟩ := Option.map_eq_some_iff.1 h
      rw [(hf s').2, hj]
      exact ht.badge_eq id s' hs'
    · exact ht.badge_eq j s h

end Valid

/-! ## Beginning -/

/-- A new table has no sessions, and its badges lie above its base. -/
theorem create_spec {maxClients badgeBase : Nat} {source : CapPtr}
    (h : create maxClients badgeBase source = .ok t) :
    t.Valid ∧ (∀ id, t.get? id = none) ∧ t.pending = [] ∧ t.badgeBase = badgeBase ∧
      t.badgeEnd = badgeBase + maxClients := by
  rw [create, badgeRange] at h
  split at h
  · cases h
  · next hbadges =>
    rw [ObjectTable.ofRange] at h
    split at h
    · cases h
    · next hrange =>
      simp only [Bool.or_eq_true, decide_eq_true_eq, not_or, Nat.not_lt] at hrange
      cases h
      refine ⟨⟨Pool.roomy_ofRange _ _, rfl, fun id => ?_, (fun _ _ h => nomatch h),
        (fun _ _ h => nomatch h), ?_, Nat.not_le.1 hbadges, List.nodup_nil, (fun _ h => nomatch h)⟩,
        (fun _ => rfl), rfl, rfl, rfl⟩
      · rw [Pool.not_isTaken_ofRange]
        exact ⟨(fun h => nomatch h), (fun h => nomatch h)⟩
      · exact congrArg (badgeBase + ·) (Nat.max_eq_left hrange.2).symm

/-! ## Opening and ending sessions -/

/-- A session is made by minting its endpoint; if that fails, the liveness capability is
discarded. -/
theorem create_factory (k : Kernel ω) (t : ClientTable) (id : ClientId) (liveness : CapPtr)
    (caps : CapSpace ω) :
    (t.factory k).create id liveness caps =
      match CapSpace.mint k t.source (id + t.badgeBase) caps with
      | (.ok endpoint, caps) =>
        (.ok ⟨id, id + t.badgeBase, liveness, endpoint, false, none, none⟩, caps)
      | (.error e, caps) => (.error e, caps.discard k liveness) := rfl

/-- Opening a session: there is no id, or its endpoint is minted and the session is there, or the
minting fails. Without a session the liveness capability is discarded. -/
theorem alloc_cases (ht : t.Valid) (k : Kernel ω) (liveness : CapPtr) (caps : CapSpace ω) :
    (t.table.pool.alloc = none ∧ alloc k liveness (t, caps) =
        (.error .resourceExhausted, t, caps.discard k liveness)) ∨
      ∃ id pool, t.table.pool.alloc = some (id, pool) ∧
        ((∃ endpoint caps',
          CapSpace.mint k t.source (id + t.badgeBase) caps = (.ok endpoint, caps') ∧
            alloc k liveness (t, caps) = (.ok id, t.enter pool
              ⟨id, id + t.badgeBase, liveness, endpoint, false, none, none⟩, caps')) ∨
          ∃ e caps', CapSpace.mint k t.source (id + t.badgeBase) caps = (.error e, caps') ∧
            alloc k liveness (t, caps) =
              (.error e, t.abandon pool id, caps'.discard k liveness)) := by
  rcases ObjectTable.alloc_cases ht.taken (t.factory k) liveness caps with
    ⟨hnone, halloc⟩ | ⟨id, pool, htaken, ⟨s, caps', hcreate, halloc⟩ | ⟨e, caps', hcreate, halloc⟩⟩
  · refine .inl ⟨hnone, ?_⟩
    simp only [alloc, halloc]
    rfl
  · refine .inr ⟨id, pool, htaken, .inl ?_⟩
    rw [create_factory] at hcreate
    rcases hmint : CapSpace.mint k t.source (id + t.badgeBase) caps with ⟨e | endpoint, caps₁⟩
    · simp [hmint] at hcreate
    · simp only [hmint, Prod.mk.injEq, Except.ok.injEq] at hcreate
      obtain ⟨rfl, rfl⟩ := hcreate
      exact ⟨endpoint, caps₁, rfl, by simp only [alloc, halloc]; rfl⟩
  · refine .inr ⟨id, pool, htaken, .inr ?_⟩
    rw [create_factory] at hcreate
    rcases hmint : CapSpace.mint k t.source (id + t.badgeBase) caps with ⟨e | endpoint, caps₁⟩
    · simp only [hmint, Prod.mk.injEq, Except.error.injEq] at hcreate
      obtain ⟨rfl, rfl⟩ := hcreate
      exact ⟨_, _, rfl, by simp only [alloc, halloc]; rfl⟩
    · simp [hmint] at hcreate

theorem destroy_eq (ht : t.Valid) (h : t.get? id = some s) (k : Kernel ω) (caps : CapSpace ω) :
    destroy k id (t, caps) =
      (true, t.without id, s.slots.foldl (fun caps slot => caps.discard k slot) caps) := by
  have hget : t.table.get? id = some s := h
  have hfree := ObjectTable.free_eq ht.taken (t.factory k) id caps
  rw [hget] at hfree
  simp only [destroy, hfree]
  rfl

theorem foldl_destroy_eq {ids : List ClientId} (ht : t.Valid) (hpending : t.pending = [])
    (hnodup : ids.Nodup) (hlive : ∀ id ∈ ids, (t.get? id).isSome = true) (k : Kernel ω) (n : Nat)
    (caps : CapSpace ω) :
    ids.foldl (fun (n, s) id => let (ended, s) := destroy k id s; (if ended then n + 1 else n, s))
      (n, t, caps) = (n + ids.length, t.withoutAll ids,
        (Holding.slots (t.holdingsAt ids)).foldl (fun caps slot => caps.discard k slot) caps) := by
  induction ids generalizing t n caps with
  | nil => rfl
  | cons id ids ih =>
    obtain ⟨s, hs⟩ := Option.isSome_iff_exists.1 (hlive id List.mem_cons_self)
    rw [List.nodup_cons] at hnodup
    have hid : id ∉ t.pending := by
      rw [hpending]
      exact List.not_mem_nil
    have hrest := ih (ht.without hid) hpending hnodup.2
      (isSome_without hnodup.1 fun j hj => hlive j (List.mem_cons_of_mem _ hj)) (n + 1)
      (s.slots.foldl (fun caps slot => caps.discard k slot) caps)
    rw [List.foldl_cons]
    simp only [destroy_eq ht hs, if_true]
    rw [hrest, holdingsAt_without hnodup.1, holdingsAt_cons hs, Holding.slots_append,
      Session.slots_holdings, List.foldl_append, List.length_cons, Nat.add_right_comm]
    rfl

/-- The sweep ends the sessions that are queued, in the order of the queue, and no others. -/
theorem sweep_eq (ht : t.Valid) (k : Kernel ω) (caps : CapSpace ω) :
    sweep k (t, caps) =
      (t.pending.length, ({ t with pending := [] } : ClientTable).withoutAll t.pending,
        (Holding.slots (t.holdingsAt t.pending)).foldl (fun caps slot => caps.discard k slot)
          caps) := by
  rw [sweep, foldl_destroy_eq ht.clearPending rfl ht.nodup ht.live, Nat.zero_add]
  rfl

theorem release_eq (k : Kernel ω) (caps : CapSpace ω) : release k t caps =
    (Holding.slots (t.holdingsOf fun _ => true)).foldl (fun caps slot => caps.discard k slot)
      caps := by
  rw [slots_holdingsOf, sessions, List.flatMap_map, List.foldl_flatMap]
  rfl

/-! ## Badges -/

/-- A badge leads to a session exactly if it is the session's own. -/
theorem Valid.getByBadge?_eq_some_iff (ht : t.Valid) {badge : Badge} :
    t.getByBadge? badge = some s ↔ t.get? s.id = some s ∧ s.badge = badge := by
  have hbadge := ht.badgeEnd_eq
  rw [getByBadge?, clientId?]
  constructor
  · intro h
    split at h
    · cases h
    · next hrange =>
      rw [Option.bind_some] at h
      have hid := ht.id_eq _ s h
      rw [hid]
      refine ⟨h, ?_⟩
      rw [ht.badge_eq _ s h]
      simp only [Bool.or_eq_true, decide_eq_true_eq, not_or, Nat.not_lt] at hrange
      exact Nat.sub_add_cancel hrange.1
  · rintro ⟨h, rfl⟩
    have hrange := ht.get?_isSome (Option.isSome_of_eq_some h)
    have heq := ht.badge_eq s.id s h
    rw [if_neg, Option.bind_some, heq, Nat.add_sub_cancel]
    · exact h
    · simp only [Bool.or_eq_true, decide_eq_true_eq, not_or, Nat.not_lt, Nat.not_le]
      rw [heq, hbadge, Nat.add_comm]
      exact ⟨Nat.le_add_right _ _, Nat.add_lt_add_left hrange.2 _⟩

/-! ## The queue -/

/-- With a session queued to be ended, once. -/
def queue (id : ClientId) (t : ClientTable) : ClientTable :=
  if t.pending.contains id then t else { t with pending := t.pending ++ [id] }

@[simp] theorem table_queue (t : ClientTable) (id : ClientId) : (t.queue id).table = t.table := by
  rw [queue]
  split <;> rfl

theorem get?_queue (t : ClientTable) (id j : ClientId) : (t.queue id).get? j = t.get? j := by
  rw [get?, table_queue, get?]

theorem mem_pending_queue {j : ClientId} : j ∈ (t.queue id).pending ↔ j ∈ t.pending ∨ j = id := by
  rw [queue]
  split
  · next h =>
    rw [List.contains_iff_mem] at h
    refine ⟨.inl, ?_⟩
    rintro (hj | rfl)
    · exact hj
    · exact h
  · simp only [List.mem_append, List.mem_singleton]

theorem holdingsOf_queue (t : ClientTable) (id : ClientId) :
    (t.queue id).holdingsOf P = t.holdingsOf P := by
  rw [holdingsOf, table_queue, holdingsOf]

theorem Valid.queue (ht : t.Valid) (hid : (t.get? id).isSome = true) : (t.queue id).Valid := by
  have hlive : ∀ j ∈ (t.queue id).pending, ((t.queue id).get? j).isSome = true := fun j hj => by
    rw [get?_queue]
    rcases mem_pending_queue.1 hj with hj | rfl
    · exact ht.live j hj
    · exact hid
  unfold ClientTable.queue at hlive ⊢
  split
  · exact ht
  · next h =>
    rw [if_neg h] at hlive
    rw [List.contains_iff_mem] at h
    refine { ht with
      nodup := List.nodup_append.2 ⟨ht.nodup, List.pairwise_singleton _ id, fun i hi j hj e => ?_⟩
      live := hlive }
    rw [List.mem_singleton.1 hj] at e
    exact h (e ▸ hi)

theorem queueDelete_of_isSome (h : (t.get? id).isSome = true) :
    queueDelete id t = (.ok (), t.queue id) := by
  rw [queueDelete, if_neg]
  · rfl
  · rw [Option.isNone_iff_eq_none]
    intro hnone
    rw [hnone] at h
    cases h

theorem findDeath?_eq_some {death : DeathId} (h : t.findDeath? death = some id) :
    ∃ s, t.get? id = some s ∧ s.deathId = some death := by
  obtain ⟨⟨_, s⟩, he, rfl⟩ := Option.map_eq_some_iff.1 h
  exact ⟨s, IdMap.get?_eq_some_iff.2 (List.mem_of_find?_eq_some he),
    by simpa using List.find?_some he⟩

theorem findDeath?_eq_none {death : DeathId} (h : t.findDeath? death = none)
    (hs : t.get? id = some s) : s.deathId ≠ some death := by
  have hnone := List.find?_eq_none.1 (Option.map_eq_none_iff.1 h) (id, s)
    (IdMap.get?_eq_some_iff.1 hs)
  simpa using hnone

/-- Queueing the session whose death is announced: there is one and it is queued, or there is
none. -/
theorem queueDeath_cases (t : ClientTable) (death : DeathId) :
    (t.findDeath? death = none ∧ queueDeath death t = (.error .notFound, t)) ∨
      ∃ id s, t.findDeath? death = some id ∧ t.get? id = some s ∧ s.deathId = some death ∧
        queueDeath death t = (.ok id, t.queue id) := by
  rcases hfind : t.findDeath? death with _ | id
  · refine .inl ⟨rfl, ?_⟩
    simp only [queueDeath, Attempt.bind_apply, Attempt.get_apply, hfind, Attempt.orFail_none,
      Attempt.throw_apply]
  · obtain ⟨s, hs, hdeath⟩ := findDeath?_eq_some hfind
    refine .inr ⟨id, s, rfl, hs, hdeath, ?_⟩
    have hqueue := queueDelete_of_isSome (Option.isSome_of_eq_some hs)
    simp only [queueDeath, Attempt.bind_apply, Attempt.get_apply, hfind, Attempt.orFail_some,
      Attempt.pure_apply, hqueue]

end ClientTable

end CapServer
