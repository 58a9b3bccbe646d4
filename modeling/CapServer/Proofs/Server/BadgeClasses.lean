import CapServer.Proofs.Server.Lifetimes

/-!
# Classes of badges

A message is routed by its badge before anything else is looked at. `Config.checkBadges` accepts
exactly the configurations in which the badges of sessions fit a word and are not that of
notifications (`Config.checkBadges_eq_ok_iff`).

So no request of a session is ever taken for a signal of notifications, and neither is one without a
badge, as long as the badge of notifications is a badge at all (`badges_apart`). The check does not
insist on the latter. Where notifications have the badge of unbadged clients, a request to connect
only drains the notification ring (`connect_drained_under_null_badge`).
-/

namespace CapServer

namespace Config

/-- The badges that sessions may have. -/
def IsSessionBadge (c : Config) (badge : Badge) : Prop :=
  ∃ id : ClientId, 1 ≤ id ∧ id < c.maxClients ∧ badge = c.clientBadgeBase + id

theorem IsSessionBadge.ne_none {c : Config} {badge : Badge} (h : c.IsSessionBadge badge) :
    badge ≠ Badge.none := by
  obtain ⟨id, hpos, -, rfl⟩ := h
  exact Nat.ne_of_gt (Nat.lt_of_lt_of_le hpos (Nat.le_add_left _ _))

/-- What the check of a configuration with clients accepts: there is a badge for each session, and
none of them is the badge of notifications. -/
theorem checkBadges_eq_ok_iff {c : Config} (h : c.maxClients ≠ 0) :
    c.checkBadges = .ok () ↔
      c.clientBadgeBase + c.maxClients < wordSize ∧ ¬ c.IsSessionBadge c.noticeBadge := by
  have hpos := Nat.pos_of_ne_zero h
  rw [checkBadges, if_neg h, ClientTable.badgeRange]
  by_cases hfits : c.clientBadgeBase + c.maxClients < wordSize
  · have hfirst : min (c.clientBadgeBase + 1) (wordSize - 1) = c.clientBadgeBase + 1 := by omega
    have hrange : c.IsSessionBadge c.noticeBadge ↔ c.clientBadgeBase + 1 ≤ c.noticeBadge ∧
        c.noticeBadge < c.clientBadgeBase + c.maxClients := by
      constructor
      · rintro ⟨id, hone, hlt, hbadge⟩
        rw [hbadge]
        exact ⟨Nat.add_le_add_left hone _, Nat.add_lt_add_left hlt _⟩
      · rintro ⟨hfrom, hto⟩
        have hle := Nat.le_of_succ_le hfrom
        exact ⟨c.noticeBadge - c.clientBadgeBase, Nat.le_sub_of_add_le' hfrom,
          Nat.sub_lt_left_of_lt_add hle hto, (Nat.add_sub_cancel' hle).symm⟩
    rw [if_neg (Nat.not_le.2 hfits), hfirst, hrange]
    simp only [Bind.bind, Except.bind, Bool.and_eq_true, decide_eq_true_eq]
    split
    · next hwithin => exact ⟨(fun h => by cases h), fun h => absurd hwithin h.2⟩
    · next hwithin => exact ⟨fun _ => ⟨hfits, hwithin⟩, fun _ => rfl⟩
  · rw [if_pos (Nat.not_lt.1 hfits)]
    exact ⟨(fun h => by cases h), fun h => absurd h.1 hfits⟩

end Config

namespace Server

variable {σ : Type} {p : Platform (World σ)} {s₀ s : Server σ}

/-! ## Reachable states -/

/-- The states a server can get into, whatever is done with it and by whatever services. -/
inductive Reached (p : Platform (World σ)) (s₀ : Server σ) : Server σ → Prop
  | start : Reached p s₀ s₀
  | call {s : Server σ} (h : Reached p s₀ s) (call : Call σ) : Reached p s₀ (call.perform p s)
  | handle {s : Server σ} {svc : Service σ} (h : Reached p s₀ s) (hsvc : svc.Orderly) (msg : Message) :
      Reached p s₀ (Server.handle p.kernel svc msg s).2
  | serve {s : Server σ} {svc : Service σ} (h : Reached p s₀ s) (hsvc : svc.Orderly) :
      Reached p s₀ (Server.serve p.kernel svc s).2
  | drain {s : Server σ} {svc : Service σ} (h : Reached p s₀ s) (hsvc : svc.Orderly) :
      Reached p s₀ (Server.drainNotices svc s).2

open ClientTable (InLine way_inLine)

/-- Nothing touches what a server has of its own, and its table stays valid. -/
theorem Reached.inLine (h : Reached p s₀ s) (hs₀ : s₀.Valid) : Goes InLine s₀ s := by
  induction h with
  | start => exact .refl way_inLine hs₀
  | call _ call ih => exact ih.trans (.call (ih.valid way_inLine) call) way_inLine
  | handle _ hsvc msg ih =>
    exact ih.trans (.handle_inLine hsvc (ih.valid way_inLine) p.kernel msg) way_inLine
  | serve _ hsvc ih =>
    exact ih.trans (.serve_inLine hsvc (ih.valid way_inLine) p.kernel) way_inLine
  | @drain s svc _ hsvc ih =>
    have hdrain := Goes.drain way_inLine hsvc.toGoes (ih.valid way_inLine) s.drainBound 0 none
    exact ih.trans hdrain way_inLine

theorem Reached.run (h : Reached p s₀ s) (calls : List (Call σ)) :
    Reached p s₀ (s.run p calls) := by
  induction calls generalizing s with
  | nil => exact h
  | cons call calls ih => exact ih (h.call call)

/-! ## Live sessions -/

/-- The badge of a live session is one of those set aside for sessions. -/
theorem isSessionBadge_of_session? {names : Option (NameResolver (World σ))} {config : Config}
    {c c' : CapSpace (World σ)} (hstart : start p names config c = (.ok s₀, c'))
    (h : Goes InLine s₀ s) {id : ClientId} {session : Session}
    (hid : s.session? id = some session) : config.IsSessionBadge session.badge := by
  obtain ⟨_, _, _, _, _, _, steps⟩ := start_eq_ok hstart
  have hopen := steps.clients
  have hclients := h.clients
  rw [session?] at hid
  generalize s₀.clients = clients₀, s.clients = clients at hclients hopen hid
  cases hclients with
  | none => cases hid
  | @some t₀ t hline =>
    obtain ⟨-, -, -, hbase, hend⟩ := ClientTable.create_spec (create_of_openClients hopen).2
    have hbase' : t.badgeBase = config.clientBadgeBase := hline.badges.1.trans hbase
    have hend' : t.badgeEnd = config.clientBadgeBase + config.maxClients :=
      hline.badges.2.trans hend
    have hstop : t.table.pool.stop = config.maxClients := by
      have hend := hline.valid.badgeEnd_eq
      omega
    obtain ⟨hpos, hlt⟩ := hline.valid.get?_isSome (Option.isSome_of_eq_some hid)
    refine ⟨id, hpos, Nat.lt_of_lt_of_eq hlt hstop, ?_⟩
    rw [hline.valid.badge_eq id session hid, hbase', Nat.add_comm]

/-! ## Routing -/

/-- An unbadged request to connect that is not taken for a signal is offered to the service, and
whatever the service makes of it is sent back. -/
theorem handle_connect {k : Kernel (World σ)} {svc : Service σ} {msg : Message}
    (h : s.AsksToConnect msg) :
    ∃ reply, handle k svc msg s = (if (svc.onConnect msg s).1.toBool then .success else .error,
        ((k.reply reply).on worldPart).settle (svc.onConnect msg s).2) ∧
      reply.label = msg.label ∧ (Reply.result reply).1 = (svc.onConnect msg s).1.map fun _ => () := by
  obtain ⟨hnotice, hlabel, hbadge⟩ := h
  rw [handle_request hnotice, respond, Request.decode_connect hlabel]
  dsimp only
  rw [perform, if_pos hbadge]
  rcases hconnect : svc.onConnect msg s with ⟨e | id, s'⟩
  · rw [Attempt.bind_error hconnect]
    exact ⟨_, rfl, rfl, (Reply.result_make msg.label (.error e) []).1⟩
  · rw [Attempt.bind_ok hconnect]
    exact ⟨_, rfl, rfl, rfl⟩

/-- The badge of notifications, the badges of sessions and the absence of a badge, and what they
mean for the messages that a server gets. -/
structure BadgesApart (p : Platform (World σ)) (config : Config) (s : Server σ) : Prop where
  session : ∀ badge, config.IsSessionBadge badge →
    badge ≠ Badge.none ∧ badge ≠ config.noticeBadge ∧ badge < wordSize
  live : ∀ id session, s.session? id = some session → config.IsSessionBadge session.badge
  /-- What comes from a session is a request. -/
  request : ∀ svc msg, config.IsSessionBadge msg.badge →
    handle p.kernel svc msg s = deliver p.kernel (respond svc msg s)
  /-- What comes without a badge is a request, if notifications have a badge. -/
  unbadged : config.noticeBadge ≠ Badge.none → ∀ svc msg, msg.badge = Badge.none →
    handle p.kernel svc msg s = deliver p.kernel (respond svc msg s)
  /-- So a client is connected or told why not. -/
  connect : config.noticeBadge ≠ Badge.none → ∀ svc msg, msg.badge = Badge.none →
    msg.label = Request.connectLabel → ∃ reply,
      handle p.kernel svc msg s = (if (svc.onConnect msg s).1.toBool then .success else .error,
        ((p.kernel.reply reply).on worldPart).settle (svc.onConnect msg s).2) ∧
      reply.label = msg.label ∧ (Reply.result reply).1 = (svc.onConnect msg s).1.map fun _ => ()
  /-- If notifications have no badge, whatever comes without one drains the ring. -/
  drained : config.noticeBadge = Badge.none → ∀ svc msg, msg.badge = Badge.none →
    handle p.kernel svc msg s = (if (drainNotices svc s).1.toBool then .success else .error,
      (drainNotices svc s).2)

/-- **Badges keep sessions and notifications apart.** Bring a server with clients up on any
platform, and do with it whatever can be done. Then no session has the badge of notifications, and
no message with the badge of a session is taken for a signal of notifications. Unbadged messages are
requests, too, if notifications have a badge; the check of the configuration does not ask for
that. -/
theorem badges_apart (names : Option (NameResolver (World σ))) (config : Config)
    (c : CapSpace (World σ)) {c' : CapSpace (World σ)}
    (hstart : start p names config c = (.ok s₀, c')) (hclients : config.maxClients ≠ 0)
    (hreached : Reached p s₀ s) : BadgesApart p config s := by
  have hline : Goes InLine s₀ s := hreached.inLine (start_valid hstart)
  obtain ⟨_, _, _, _, _, _, steps⟩ := start_eq_ok hstart
  have hconfig : s.config = config :=
    (congrArg Station.config hline.station).trans steps.config_eq
  obtain ⟨hfits, hnotice⟩ := (Config.checkBadges_eq_ok_iff hclients).1 steps.badges
  have hne : ∀ badge, config.IsSessionBadge badge → badge ≠ config.noticeBadge :=
    fun badge h e => hnotice (e ▸ h)
  refine ⟨fun badge h => ⟨h.ne_none, hne badge h, ?_⟩,
    fun id session hid => isSessionBadge_of_session? hstart hline hid,
    fun svc msg h => ?_, fun hnull svc msg hbadge => ?_, fun hnull svc msg hbadge hlabel => ?_,
    fun hnull svc msg hbadge => ?_⟩
  · obtain ⟨id, -, hid, rfl⟩ := h
    exact Nat.lt_trans (Nat.add_lt_add_left hid _) hfits
  · exact handle_request (hconfig ▸ hne msg.badge h)
  · exact handle_request (by rw [hbadge, hconfig]; exact hnull.symm)
  · exact handle_connect ⟨by rw [hbadge, hconfig]; exact hnull.symm, hlabel, hbadge⟩
  · exact handle_signal (by rw [hbadge, hconfig, hnull])

/-- The small server with a session that is about to end. -/
theorem badges_apart_after_connect :
    let s := sampleServer.run Machine.platform.journaled (sampleLeaving.map Call.journaled)
    sampleStart = (.ok sampleServer, sampleStart.2) ∧ sampleConfig.maxClients ≠ 0 ∧
      Reached Machine.platform.journaled sampleServer s ∧
      BadgesApart Machine.platform.journaled sampleConfig s := by
  intro s
  have hclients : sampleConfig.maxClients ≠ 0 := by decide
  have hreached : Reached Machine.platform.journaled sampleServer s := Reached.start.run _
  exact ⟨sampleStart_eq, hclients, hreached,
    badges_apart none sampleConfig sampleCaps.withJournal sampleStart_eq hclients hreached⟩

/-! ## Notifications without a badge -/

/-- A configuration in which notifications carry no badge. -/
def nullBadgeConfig : Config := { sampleConfig with noticeBadge := Badge.none }

/-- Bringing a server up under it. -/
def nullBadgeStart :
    Except Failure (Server (Journaled (Machine Unit))) ×
      CapSpace (World (Journaled (Machine Unit))) :=
  start Machine.platform.journaled none nullBadgeConfig sampleCaps.withJournal

/-- The server that came up under it. -/
def nullBadgeServer : Server (Journaled (Machine Unit)) :=
  nullBadgeStart.1.toOption.get (by decide +kernel)

/-- The server after it received a client's request to connect. -/
def nullBadgeRefusal : Server (Journaled (Machine Unit)) :=
  nullBadgeServer.run Machine.platform.journaled
    ([sampleSend ((Request.encode .connect).withCap 0x500) [], .serve].map Call.journaled)

/-- The configuration is accepted, but a client that asks to connect gets neither a session nor a
reply. -/
theorem connect_drained_under_null_badge :
    nullBadgeConfig.checkBadges = .ok () ∧ nullBadgeStart = (.ok nullBadgeServer, nullBadgeStart.2) ∧
      nullBadgeRefusal.caps.world.rest.rest.kernel.inbox = [] ∧
      (nullBadgeRefusal.clients.map ClientTable.size) = some 0 ∧
      nullBadgeRefusal.caps.world.rest.rest.kernel.replies = [] :=
  ⟨rfl, rfl, by decide +kernel, by decide +kernel, by decide +kernel⟩

end Server

end CapServer
