import CapServer.Proofs.Server.Ownership
import CapServer.Proofs.Sim.Machine

/-!
# Sessions are isolated

A server on a machine goes through rounds; in between, anything may happen that leaves the kernel's
slots alone (`Interlude`): messages are queued, failures are planned, notices and damaged records
are posted, clients die.

At every moment between two rounds badges tell the live sessions apart (`Badged`), and one more
round changes only sessions that the message concerns (`sessions_isolated`): those with the
message's badge, or, if it signals notifications, those whose death a drained record announces. No
slot of another session, and none of the server's own, is filled or emptied.
-/

namespace CapServer

open CapSpace (Terms)

/-- Something that happens around a server, and leaves the kernel's slots alone. -/
structure Interlude (ν : Type) where
  change : World (Machine ν) → World (Machine ν)
  slots_eq : ∀ w, (change w).rest.kernel.slots = w.rest.kernel.slots

namespace Server

variable {ν : Type}

/-- The calls that make up some rounds, each after an interlude. -/
def roundCalls (interludes : List (Interlude ν)) : List (Call (Machine ν)) :=
  interludes.flatMap fun i => [.outside i.change, .serve]

/-- The server after some rounds, each after an interlude. -/
def afterRounds (s : Server (Journaled (Machine ν))) (interludes : List (Interlude ν)) :
    Server (Journaled (Machine ν)) :=
  s.run Machine.platform.journaled ((roundCalls interludes).map Call.journaled)

/-- The server after an interlude. -/
def afterInterlude (s : Server (Journaled (Machine ν))) (i : Interlude ν) :
    Server (Journaled (Machine ν)) :=
  (Call.outside i.change).journaled.perform Machine.platform.journaled s

/-- Where the session of a client stands. -/
def state? {τ : Type} (s : Server τ) (id : ClientId) : Option SessionState :=
  s.clients.bind fun t => t.state? id

/-- Whether a message is about a session. -/
def Concerns {τ : Type} (s : Server τ) (msg : Message) (session : Session) : Prop :=
  if msg.badge = s.config.noticeBadge then ∃ death ∈ s.deathsAhead, session.deathId = some death
  else session.badge = msg.badge

theorem concerns_of_addresses {τ : Type} {s : Server τ} {msg : Message} {id : ClientId}
    {session : Session} (hid : s.session? id = some session) (h : s.addresses msg id = true) :
    s.Concerns msg session := by
  rw [addresses, hid] at h
  rw [Concerns]
  dsimp only at h
  split
  · next hnotice =>
    rw [if_pos hnotice, Option.any_eq_true] at h
    obtain ⟨death, hdeath, hmem⟩ := h
    exact ⟨death, List.contains_iff_mem.1 hmem, hdeath⟩
  · next hnotice =>
    rw [if_neg hnotice, beq_iff_eq] at h
    exact h

/-- Badges tell the live sessions apart. -/
structure Badged (s : Server (Journaled (Machine ν))) : Prop where
  /-- A session has the badge that goes with its id, which fits a word. -/
  badge_eq : ∀ id session, s.session? id = some session →
    session.badge = s.config.clientBadgeBase + id ∧ session.badge < wordSize
  injective : ∀ id id' session session', s.session? id = some session →
    s.session? id' = some session' → session.badge = session'.badge → id = id'
  /-- No session has the badge of notifications. -/
  ne_notice : ∀ id session, s.session? id = some session → session.badge ≠ s.config.noticeBadge
  /-- The kernel's capability for a session carries its badge. -/
  minted : ∀ id session, s.session? id = some session →
    s.caps.world.rest.rest.kernel.badgeOf session.endpoint = some session.badge
  /-- A badge leads to the live session that has it. -/
  found : ∀ t badge session, s.clients = some t → (t.getByBadge? badge = some session ↔
    s.session? session.id = some session ∧ session.badge = badge)

/-! ## Between rounds -/

/-- What holds between two rounds: everything is accounted for, nothing is queued, and badges are as
the configuration says. -/
structure Settled (T : Terms (Machine ν)) (s₀ s : Server (Journaled (Machine ν))) : Prop where
  confined : Confined anyone T s₀ s
  pending : ∀ t, s.clients = some t → t.pending = []

variable {T : Terms (Machine ν)} {s₀ s s' : Server (Journaled (Machine ν))}

theorem pending_sweep {k : Kernel (World (Journaled (Machine ν)))}
    (hvalid : ∀ t, s.clients = some t → t.Valid) {t : ClientTable}
    (ht : (Server.sweep k s).2.clients = some t) : t.pending = [] := by
  rcases hclients : s.clients with _ | u
  · simp only [Server.sweep, hclients] at ht
    cases ht
  · simp only [Server.sweep, hclients, ClientTable.sweep_eq (hvalid u hclients)] at ht
    cases ht
    exact ClientTable.pending_withoutAll _ _

/-- What is held for the sessions that are not chosen. -/
def holdingsOutside {τ : Type} (s : Server τ) (P : ClientId → Bool) : List Holding :=
  s.clients.elim [] fun t => t.holdingsOf fun id => !P id

/-- From now on everything is set aside that is not held for chosen clients. -/
theorem Confined.focus (h : Confined anyone T s₀ s)
    (hpending : ∀ t, s.clients = some t → t.pending = []) (P : ClientId → Bool) :
    Confined P ⟨s.caps.world.journal, T.kept ++ s.holdingsOutside P, T.inv⟩ s s := by
  refine ⟨rfl, ?_⟩
  rw [holdingsOutside]
  rcases h.clients with ⟨-, hnone, accounts⟩ | ⟨t₀, t, -, ht, confined⟩
  · rw [hnone]
    exact .inl ⟨rfl, rfl, accounts.rebase (List.Perm.of_eq (by simp))⟩
  · rw [ht]
    refine .inr ⟨t, t, rfl, rfl, confined.valid, fun _ _ => rfl, ⟨rfl, rfl⟩, fun id hid => ?_, ?_⟩
    · rw [hpending t ht] at hid
      cases hid
    · refine confined.accounts.rebase ?_
      rw [Option.elim_some, List.append_assoc]
      exact (t.holdingsOf_not_append P).symm.append_left _

/-- The server's round. -/
def round (s : Server (Journaled (Machine ν))) : Server (Journaled (Machine ν)) :=
  Call.serve.perform Machine.platform.journaled s

/-- Receiving a message. -/
def receive (s : Server (Journaled (Machine ν))) :
    Except Failure Message × Server (Journaled (Machine ν)) :=
  (Machine.platform.journaled.kernel.receive s.anonEp).on worldPart s

/-- A round either ends with receiving, or the message is handled and the sweep follows. -/
theorem round_cases (s : Server (Journaled (Machine ν))) :
    (∃ e, receive s = (.error e, s.round)) ∨ ∃ msg s₁, receive s = (.ok msg, s₁) ∧
      s.round = (Server.sweep Machine.platform.journaled.kernel (handle
        Machine.platform.journaled.kernel (.basic Machine.platform.journaled) msg s₁).2).2 := by
  rcases serve_cases Machine.platform.journaled.kernel (.basic Machine.platform.journaled) s with
    ⟨e, s₁, hr, hserve⟩ | ⟨msg, s₁, hr, hserve⟩
  · refine .inl ⟨e, ?_⟩
    rw [round, Call.perform, Attempt.settle, hserve]
    exact hr
  · refine .inr ⟨msg, s₁, hr, ?_⟩
    rw [round, Call.perform, Attempt.settle, hserve]

/-- Where no session is queued, one that is complete is connected. -/
theorem state?_of_pending {τ : Type} {s : Server τ}
    (hpending : ∀ t, s.clients = some t → t.pending = []) (id : ClientId) :
    s.state? id = (s.session? id).map fun session =>
      if session.active then SessionState.active else SessionState.connecting := by
  rw [state?, session?]
  rcases hclients : s.clients with _ | t
  · rfl
  · simp only [Option.bind_some, ClientTable.state?, hpending t hclients]
    rfl

namespace Settled

theorem interlude (hinv : T.inv = Machine.Faithful) (h : Settled T s₀ s) (i : Interlude ν) :
    Settled T s₀ (s.afterInterlude i) where
  confined := h.confined.call (hinv ▸ Machine.respects_faithful) (by
    rw [hinv]
    intro w hw x hx b hb
    exact (congrFun (Machine.badgeOf_congr (i.slots_eq _)) x.slot).trans (hw x hx b hb))
  pending := h.pending

theorem receive (hinv : T.inv = Machine.Faithful) (h : Settled T s₀ s) :
    Settled T s₀ (Server.receive s).2 where
  confined := h.confined.on_world (fun _ => rfl) (by
    rw [hinv]
    exact Machine.respects_faithful.calls.kernel.receive s.anonEp)
  pending := h.pending

theorem round (hinv : T.inv = Machine.Faithful) (h : Settled T s₀ s) : Settled T s₀ s.round := by
  have hp : Respects Machine.platform T.inv := hinv ▸ Machine.respects_faithful
  have hreceive := h.receive hinv
  rcases s.round_cases with ⟨e, hr⟩ | ⟨msg, s₁, hr, hround⟩
  · rw [hr] at hreceive
    exact hreceive
  · rw [hr] at hreceive
    have hhandle : Confined anyone T s₀ (handle Machine.platform.journaled.kernel
        (.basic Machine.platform.journaled) msg s₁).2 := hreceive.confined.handle hp fun _ _ => rfl
    rw [hround]
    exact ⟨hhandle.sweep hp, fun t ht => pending_sweep (fun u => hhandle.valid) ht⟩

theorem rounds (hinv : T.inv = Machine.Faithful) (h : Settled T s₀ s)
    (interludes : List (Interlude ν)) : Settled T s₀ (s.afterRounds interludes) := by
  induction interludes generalizing s with
  | nil => exact h
  | cons i interludes ih => exact ih ((h.interlude hinv i).round hinv)

/-- A round spares what is set aside, and every session that its message does not concern. -/
theorem round_spares (hinv : T.inv = Machine.Faithful) (h : Settled T s₀ s) :
    ∃ recent, s.round.caps.world.journal = recent ++ s.caps.world.journal ∧
      (∀ e ∈ recent, e.slot ∉ Holding.slots T.kept) ∧
      ∀ id session, s.session? id = some session →
        (∀ msg s₁, Server.receive s = (.ok msg, s₁) → ¬ s₁.Concerns msg session) →
        s.round.session? id = some session ∧ ∀ e ∈ recent, e.slot ∉ session.slots := by
  have hp : Respects Machine.platform T.inv := hinv ▸ Machine.respects_faithful
  have hreceive := h.receive hinv
  have hclients : (Server.receive s).2.clients = s.clients := rfl
  have hjournal : (Server.receive s).2.caps.world.journal = s.caps.world.journal := rfl
  rcases s.round_cases with ⟨e, hr⟩ | ⟨msg, s₁, hr, hround⟩
  · rw [hr] at hclients hjournal
    refine ⟨[], hjournal, (fun _ he => nomatch he), fun id session hid _ =>
      ⟨?_, (fun _ he => nomatch he)⟩⟩
    rw [session?, hclients]
    exact hid
  · rw [hr] at hclients hjournal hreceive
    obtain ⟨T', hT', hfocus⟩ : ∃ T' : Terms (Machine ν), T' = ⟨s₁.caps.world.journal,
        T.kept ++ s₁.holdingsOutside (s₁.addresses msg), T.inv⟩ ∧
          Confined (s₁.addresses msg) T' s₁ s₁ :=
      ⟨_, rfl, hreceive.confined.focus hreceive.pending _⟩
    have hp' : Respects Machine.platform T'.inv := by
      rw [hT']
      exact hp
    have hafter := (hfocus.handle hp' fun _ hid => hid).sweep hp'
    rw [← hround] at hafter
    obtain ⟨recent, hrecent, hspared⟩ := hafter.spared
    rw [hT'] at hrecent hspared
    refine ⟨recent, hrecent.trans (congrArg (recent ++ ·) hjournal), fun e he hmem => ?_,
      fun id session hid hconcerns => ?_⟩
    · refine hspared e he ?_
      rw [Holding.slots_append]
      exact List.mem_append_left _ hmem
    · have hid₁ : s₁.session? id = some session := by
        rw [session?, hclients]
        exact hid
      have hP : s₁.addresses msg id = false := by
        rw [Bool.eq_false_iff]
        exact fun haddr => hconcerns msg s₁ hr (concerns_of_addresses hid₁ haddr)
      refine ⟨(hafter.session?_eq hP).trans hid₁, fun e he hmem => hspared e he ?_⟩
      rw [Holding.slots_append, holdingsOutside]
      refine List.mem_append_right _ ?_
      rw [session?] at hid₁
      rcases ht : s₁.clients with _ | t
      · rw [ht] at hid₁
        cases hid₁
      · rw [ht] at hid₁
        have hnot : (!s₁.addresses msg id) = true := by
          rw [hP]
          rfl
        show e.slot ∈ Holding.slots (t.holdingsOf fun id => !s₁.addresses msg id)
        exact ClientTable.mem_slots_holdingsOf hid₁ hnot hmem

/-- A live session is in the table that the server began with, as far as that has come. -/
theorem table_of_session (h : Settled T s₀ s) {id : ClientId} {session : Session}
    (hid : s.session? id = some session) : ∃ t₀ t, s₀.clients = some t₀ ∧ s.clients = some t ∧
      t.get? id = some session ∧ Sessions.Confined anyone T t₀ (t, s.caps) := by
  rw [session?] at hid
  rcases h.confined.clients with ⟨-, hnone, -⟩ | ⟨t₀, t, ht₀, ht, confined⟩
  · rw [hnone] at hid
    cases hid
  · rw [ht] at hid
    exact ⟨t₀, t, ht₀, ht, hid, confined⟩

/-- The badge of a session is as the configuration says, and is not that of notifications. -/
theorem badge_spec (h : Settled T s₀ s)
    (hbadges : ∀ t, s₀.clients = some t → t.badgeBase = s₀.config.clientBadgeBase ∧
      (s₀.config.noticeBadge ≤ t.badgeBase ∨ t.badgeEnd ≤ s₀.config.noticeBadge))
    {id : ClientId} {session : Session} (hid : s.session? id = some session) :
    session.badge = s.config.clientBadgeBase + id ∧ session.badge < wordSize ∧
      session.badge ≠ s.config.noticeBadge := by
  have hconfig : s.config = s₀.config := congrArg Station.config h.confined.station
  obtain ⟨t₀, t, ht₀, ht, hget, confined⟩ := h.table_of_session hid
  obtain ⟨hbase, hnotice⟩ := hbadges t₀ ht₀
  obtain ⟨hbase', hend'⟩ := confined.badges
  have hrange := confined.valid.get?_isSome (Option.isSome_of_eq_some hget)
  have heq := confined.valid.badge_eq id session hget
  have hend := confined.valid.badgeEnd_eq
  have hlt := confined.valid.badgeEnd_lt
  dsimp only at hbase' hend' hrange heq hend hlt
  have hsum : session.badge = s.config.clientBadgeBase + id := by
    rw [heq, hbase', hbase, hconfig, Nat.add_comm]
  have hbelow : session.badge < t.badgeEnd := by
    rw [heq, hend, Nat.add_comm]
    exact Nat.add_lt_add_left hrange.2 _
  refine ⟨hsum, Nat.lt_trans hbelow hlt, fun e => ?_⟩
  rw [hconfig] at e
  rcases hnotice with hle | hle
  · rw [← e, heq, ← hbase'] at hle
    exact absurd hle (Nat.not_le.2 (Nat.lt_add_of_pos_left hrange.1))
  · rw [← e, ← hend'] at hle
    exact absurd hbelow (Nat.not_lt.2 hle)

/-- Badges tell the sessions apart, in the table and at the kernel. -/
theorem badged (hinv : T.inv = Machine.Faithful) (h : Settled T s₀ s)
    (hbadges : ∀ t, s₀.clients = some t → t.badgeBase = s₀.config.clientBadgeBase ∧
      (s₀.config.noticeBadge ≤ t.badgeBase ∨ t.badgeEnd ≤ s₀.config.noticeBadge)) : Badged s := by
  refine ⟨fun id session hid => ?_, fun id id' session session' hid hid' heq => ?_,
    fun id session hid => (h.badge_spec hbadges hid).2.2, fun id session hid => ?_,
    fun t badge session ht => ?_⟩
  · obtain ⟨hsum, hlt, -⟩ := h.badge_spec hbadges hid
    exact ⟨hsum, hlt⟩
  · rw [(h.badge_spec hbadges hid).1, (h.badge_spec hbadges hid').1] at heq
    exact Nat.add_left_cancel heq
  · obtain ⟨t₀, t, ht₀, ht, hget, confined⟩ := h.table_of_session hid
    have hheld :
        (⟨session.endpoint, some session.badge⟩ : Holding) ∈ s.caps.world.journal.held := by
      refine confined.accounts.held.mem_iff.2 (List.mem_append_right _ ?_)
      refine ClientTable.mem_holdingsOf hget rfl ?_
      rw [Session.holdings, Session.fixedHoldings]
      exact List.mem_cons_of_mem _ List.mem_cons_self
    have hfaithful : Machine.Faithful s.caps.world := hinv ▸ h.confined.inv
    exact hfaithful _ hheld session.badge rfl
  · rw [session?, ht]
    exact (h.confined.valid ht).getByBadge?_eq_some_iff

end Settled

/-! ## From the beginning -/

/-- A configuration that passed its check keeps the badges of sessions and that of notifications
apart. -/
theorem badges_of_check {config : Config} {source : CapPtr} {t : ClientTable}
    (hcheck : config.checkBadges = .ok ()) (hopen : openClients config source = .ok (some t)) :
    t.badgeBase = config.clientBadgeBase ∧
      (config.noticeBadge ≤ t.badgeBase ∨ t.badgeEnd ≤ config.noticeBadge) := by
  obtain ⟨hclients, hcreate⟩ := create_of_openClients hopen
  obtain ⟨-, -, -, hbase, hend⟩ := ClientTable.create_spec hcreate
  rw [Config.checkBadges, if_neg hclients] at hcheck
  refine ⟨hbase, ?_⟩
  rw [hbase, hend]
  have hfits : config.clientBadgeBase + config.maxClients < wordSize := by
    refine Nat.not_le.1 fun hle => ?_
    rw [ClientTable.badgeRange, if_pos hle] at hcheck
    cases hcheck
  have hfirst : min (config.clientBadgeBase + 1) (wordSize - 1) = config.clientBadgeBase + 1 := by
    omega
  rw [ClientTable.badgeRange, if_neg (Nat.not_le.2 hfits), hfirst] at hcheck
  rcases Nat.lt_or_ge config.clientBadgeBase config.noticeBadge with hlt | hle
  · refine .inr (Nat.not_lt.1 fun hstop => ?_)
    have hwithin : (decide (config.clientBadgeBase + 1 ≤ config.noticeBadge) && decide
        (config.noticeBadge < config.clientBadgeBase + config.maxClients)) = true := by
      rw [Bool.and_eq_true, decide_eq_true_eq, decide_eq_true_eq]
      exact ⟨hlt, hstop⟩
    simp only [Bind.bind, Except.bind, hwithin, if_true] at hcheck
    cases hcheck
  · exact .inl hle

/-- A machine on which a journal was just begun is faithful: nothing was minted. -/
theorem faithful_withJournal (c : CapSpace (World (Machine ν))) :
    Machine.Faithful c.withJournal.world := by
  intro h hh b hb
  have hheld : h ∈ (Journal.ofSlots c.slots.pool.takenIds).held := hh
  rw [Journal.held_ofSlots] at hheld
  obtain ⟨slot, -, rfl⟩ := List.mem_map.1 hheld
  cases hb

/-- A name service that works on the machine's directory. -/
def directoryNames (names : NameResolver Directory) : NameResolver (World (Machine ν)) :=
  names.lift (World.restPart.comp Machine.directoryPart)

theorem keeps_directoryNames (names : NameResolver Directory) :
    (directoryNames names : NameResolver (World (Machine ν))).journaled.Keeps Machine.Faithful where
  register _ _ _ := Machine.faithful_on_plain fun _ => rfl
  unregister _ _ := Machine.faithful_on_plain fun _ => rfl

/-- A new server on a machine is settled. -/
theorem start_settled {names : Option (NameResolver Directory)} {config : Config}
    {c : CapSpace (World (Machine ν))} (hroomy : c.slots.pool.Roomy)
    {c' : CapSpace (World (Journaled (Machine ν)))}
    (hstart : start Machine.platform.journaled
      ((names.map directoryNames).map NameResolver.journaled) config c.withJournal = (.ok s₀, c')) :
    Settled ⟨s₀.caps.world.journal, (c.slots.pool.takenIds.map fun slot => ⟨slot, none⟩) ++
      s₀.station.holdings, Machine.Faithful⟩ s₀ s₀ ∧
      config.checkBadges = .ok () ∧ s₀.config = config ∧
        openClients config s₀.anonEp = .ok s₀.clients := by
  have hbegin := CapSpace.Accounts.withJournal hroomy (faithful_withJournal c)
  have hnames : ∀ n : NameResolver (World (Machine ν)), names.map directoryNames = some n →
      n.journaled.Keeps Machine.Faithful := by
    intro n hn
    obtain ⟨m, -, rfl⟩ := Option.map_eq_some_iff.1 hn
    exact keeps_directoryNames m
  obtain ⟨-, hcheck, hconfig, hopen⟩ :=
    start_accounts Machine.respects_faithful hnames hbegin hstart
  refine ⟨⟨start_confined Machine.respects_faithful hnames hbegin hstart anyone, fun t ht => ?_⟩,
    hcheck, hconfig, hopen⟩
  rw [ht] at hopen
  exact (ClientTable.create_spec (create_of_openClients hopen).2).2.2.1

/-- **Sessions are isolated.** After any rounds, with anything in between that leaves the kernel's
slots alone, badges tell the live sessions apart. One more round changes no session that its message
does not concern, and neither fills nor empties a slot of such a session or one of the server's
own. -/
theorem sessions_isolated (names : Option (NameResolver Directory)) (config : Config)
    (c : CapSpace (World (Machine ν))) (hroomy : c.slots.pool.Roomy)
    {s₀ : Server (Journaled (Machine ν))} {c' : CapSpace (World (Journaled (Machine ν)))}
    (hstart : start Machine.platform.journaled
      ((names.map directoryNames).map NameResolver.journaled) config c.withJournal = (.ok s₀, c'))
    (rounds : List (Interlude ν)) (next : Interlude ν) :
    let s := s₀.afterRounds rounds
    let before := s.afterInterlude next
    let after := before.round
    Badged s ∧ ∃ recent, after.caps.world.journal = recent ++ s.caps.world.journal ∧
      (∀ e ∈ recent, e.slot ∉ s.ownSlots) ∧
      ∀ id session, s.session? id = some session →
        (∀ msg received, before.receive = (.ok msg, received) → ¬ received.Concerns msg session) →
        after.session? id = some session ∧ after.state? id = s.state? id ∧
          ∀ e ∈ recent, e.slot ∉ session.slots := by
  intro s before after
  obtain ⟨hsettled, hcheck, hconfig, hopen⟩ := start_settled hroomy hstart
  have hbadges : ∀ t, s₀.clients = some t → t.badgeBase = s₀.config.clientBadgeBase ∧
      (s₀.config.noticeBadge ≤ t.badgeBase ∨ t.badgeEnd ≤ s₀.config.noticeBadge) := by
    intro t ht
    rw [ht] at hopen
    rw [hconfig]
    exact badges_of_check hcheck hopen
  have hs : Settled _ s₀ s := hsettled.rounds rfl rounds
  have hbefore : Settled _ s₀ before := hs.interlude rfl next
  obtain ⟨recent, hrecent, hkept, hspared⟩ := hbefore.round_spares rfl
  refine ⟨hs.badged rfl hbadges, recent, hrecent, fun e he hmem => hkept e he ?_, ?_⟩
  · rw [Holding.slots_append, ← hs.confined.station, Station.slots_holdings]
    exact List.mem_append_right _ hmem
  · intro id session hid hconcerns
    obtain ⟨hlive, hslots⟩ := hspared id session hid hconcerns
    refine ⟨hlive, ?_, hslots⟩
    rw [state?_of_pending (hbefore.round rfl).pending, state?_of_pending hs.pending, hlive, hid]

/-- A message is sent. -/
def sampleLetter (msg : Message) : Interlude Unit where
  change w := { w with rest := { w.rest with kernel := w.rest.kernel.enqueue msg } }
  slots_eq _ := rfl

/-- Two clients connect. -/
def sampleTwo : List (Interlude Unit) :=
  [sampleLetter ((Request.encode .connect).withCap 0x500),
    sampleLetter ((Request.encode .connect).withCap 0x501)]

/-- The first of them leaves. -/
def sampleLeave : Interlude Unit :=
  sampleLetter { Request.encode .disconnect with badge := 0x1001 }

/-- Two clients connect, and one of them leaves: the other one stays as it was. -/
theorem sessions_isolated_from_leaving :
    start Machine.platform.journaled
        (((none : Option (NameResolver Directory)).map directoryNames).map NameResolver.journaled)
        sampleConfig sampleCaps.withJournal = (.ok sampleServer, sampleStart.2) ∧
      let s := sampleServer.afterRounds sampleTwo
      let after := (s.afterInterlude sampleLeave).round
      Badged s ∧ (s.session? 1).isSome ∧ after.session? 1 = none ∧
        ∃ session, s.session? 2 = some session ∧ after.session? 2 = some session := by
  refine ⟨sampleStart_eq, ?_⟩
  obtain ⟨hbadged, recent, -, -, hspared⟩ := sessions_isolated none sampleConfig sampleCaps
    (Pool.roomy_ofRange _ _) sampleStart_eq sampleTwo sampleLeave
  let before := (sampleServer.afterRounds sampleTwo).afterInterlude sampleLeave
  have hbadge : before.receive.1.toOption.map Message.badge = some 0x1001 := by decide +kernel
  have hnotice : before.receive.2.config.noticeBadge = 0x10 := by decide +kernel
  have hother :
      ((sampleServer.afterRounds sampleTwo).session? 2).map Session.badge = some 0x1002 := by
    decide +kernel
  have hlive : ((sampleServer.afterRounds sampleTwo).session? 2).isSome = true := by decide +kernel
  obtain ⟨session, hsession⟩ := Option.isSome_iff_exists.1 hlive
  refine ⟨hbadged, by decide +kernel, by decide +kernel, session, hsession, ?_⟩
  refine (hspared 2 session hsession fun msg received hreceive hconcerns => ?_).1
  rw [hsession] at hother
  rw [hreceive] at hbadge hnotice
  have hmsg : msg.badge = 0x1001 := Option.some.inj hbadge
  have hsession' : session.badge = 0x1002 := Option.some.inj hother
  rw [Concerns, hmsg, hnotice, hsession', if_neg (by decide)] at hconcerns
  cases hconcerns

end Server

end CapServer
