import CapServer.Proofs.Server.Lifetimes
import CapServer.Proofs.Server.Mirrors

/-!
# Replies

A platform can be asked to note every reply that it is given to send (`Platform.posted`). The notes
change nothing else (`Server.handle_unposted`).

A server that knows the connection protocol replies once to every request of it, and the reply says
what came of the request (`Server.outcome`); to nothing else does it reply at all
(`Server.replies_tell_outcomes`).
-/

namespace CapServer

/-! ## Taking note of replies -/

/-- A state beside the replies that were sent, the latest first. -/
structure Posted (σ : Type) where
  rest : σ
  sent : List Message

namespace World

variable {σ : Type}

/-- A world beside the notes about it. -/
def unpostedPart : Part (World (Posted σ)) (World σ) where
  get w := ⟨w.memory, w.rest.rest⟩
  set v w := ⟨v.memory, ⟨v.rest, w.rest.sent⟩⟩

end World

section Platforms

variable {σ : Type}

/-- The platform beside notes that nobody writes. -/
def Platform.beside (p : Platform (World σ)) : Platform (World (Posted σ)) :=
  ⟨p.kernel.lift World.unpostedPart, p.procs.lift World.unpostedPart⟩

/-- The platform, with a note of each reply that it is to send, whether that succeeds or not. -/
def Platform.posted (p : Platform (World σ)) : Platform (World (Posted σ)) :=
  { p.beside with kernel := { p.beside.kernel with
      reply := fun msg w =>
        let (a, w) := p.beside.kernel.reply msg w
        (a, { w with rest := { w.rest with sent := msg :: w.rest.sent } }) } }

/-- Beside fixed notes the platform does what it does without any. -/
theorem mirrors_beside (p : Platform (World σ)) (sent : List Message) :
    p.Mirrors p.beside (World.map fun rest => ⟨rest, sent⟩) where
  kernel := by constructor <;> intros <;> exact .of_eq fun _ => rfl
  procs := by constructor <;> intros <;> exact .of_eq fun _ => rfl

theorem mirrors_posted (p : Platform (World σ)) :
    p.posted.Mirrors p (World.map Posted.rest) where
  kernel := by constructor <;> intros <;> exact .of_eq fun _ => rfl
  procs := by constructor <;> intros <;> exact .of_eq fun _ => rfl

/-- A service that knows the connection protocol only sends no replies itself. -/
theorem basic_posted (p : Platform (World σ)) : Service.basic p.posted = .basic p.beside := rfl

end Platforms

namespace Server

variable {σ : Type}

/-- The replies that were sent, the latest first. -/
def sent (s : Server (Posted σ)) : List Message := s.caps.world.rest.sent

/-- Without the notes a message is handled in the same way. -/
theorem handle_unposted (p : Platform (World σ)) (msg : Message) (s : Server (Posted σ)) :
    handle p.kernel (.basic p) msg (s.map Posted.rest) =
      Prod.map id (map Posted.rest)
        (handle p.posted.kernel (.basic p.posted) msg s) :=
  map_handle (mirrors_basic (mirrors_posted p)) (mirrors_posted p).kernel msg s

section Notes

variable (p : Platform (World σ)) (s : Server (Posted σ))

theorem map_unposted : (s.map Posted.rest).map (fun rest => ⟨rest, s.sent⟩) = s := rfl

/-- No reply is sent by draining the ring. -/
theorem sent_drainNotices : (drainNotices (.basic p.posted) s).2.sent = s.sent := by
  have hmirrors := (mirrors_drainNotices (mirrors_basic (mirrors_beside p s.sent))).eq
    (s.map Posted.rest)
  rw [map_unposted, ← basic_posted] at hmirrors
  rw [hmirrors]
  rfl

/-- No reply is sent while a request is carried out. -/
theorem sent_respond (msg : Message) : (respond (.basic p.posted) msg s).2.2.sent = s.sent := by
  have hmirrors := map_respond (mirrors_basic (mirrors_beside p s.sent)) msg (s.map Posted.rest)
  rw [map_unposted, ← basic_posted] at hmirrors
  rw [hmirrors]
  rfl

end Notes

/-! ## What comes of a request -/

section Outcomes

variable {p : Platform (World σ)} {s s' : Server σ} {msg : Message}

/-- What comes of work for the client whose session has a badge. -/
def outcomeFor (s : Server σ) (badge : Badge) (work : ClientId → Attempt (Server σ) Unit) :
    Except Failure (Option ClientId) :=
  (clientOf badge s).1.bind fun client => (work client s).1.map fun _ => none

/-- What comes of a request of the connection protocol: a failure, or the client whose session was
opened, if it was asked for one. A session is opened for an unbadged client only, a buffer must come
with its size, and all else is for the client whose session has the badge. -/
def outcome (p : Platform (World σ)) (s : Server σ) (msg : Message) :
    Except Failure (Option ClientId) :=
  if msg.label = Request.connectLabel then
    if msg.badge = Badge.none then (connect p msg s).1.map some else .error .permissionOrProtocol
  else if msg.label = Request.pingLabel then s.outcomeFor msg.badge fun _ => pure ()
  else if msg.label = Request.setParamBufferLabel then
    match msg.unread with
    | [] => .error .malformed
    | size :: _ => s.outcomeFor msg.badge fun client =>
      setParamBuffer p.kernel client msg size.toNat
  else s.outcomeFor msg.badge fun client => disconnect p.procs client

/-- What a reply carries for what came of a request, from one state to another: nothing, or the id
and the endpoint of a session that was not there before. -/
inductive Carries (s s' : Server σ) : Except Failure (Option ClientId) → Except Failure Answer → Prop
  | failed (e : Failure) : Carries s s' (.error e) (.error e)
  | done : Carries s s' (.ok none) (.ok {})
  | opened {id : ClientId} {session : Session} (fresh : s.session? id = none)
      (live : s'.session? id = some session) (fits : id < wordSize) :
      Carries s s' (.ok (some id)) (.ok ⟨[UInt64.ofNat id], [session.endpoint]⟩)

/-- A session that is opened was not there before. -/
theorem connect_eq_ok (hs : s.Valid) {id : ClientId} (h : connect p msg s = (.ok id, s')) :
    s.session? id = none ∧ id < wordSize ∧ ∃ session, s'.session? id = some session := by
  rw [connect] at h
  split at h
  · rw [Attempt.bind_ok (Attempt.get_apply s)] at h
    rcases ht : s.clients with _ | t
    · simp only [withClients, ht] at h
      cases h
    · have hvalid := hs t ht
      have hconnects : Sessions.Connects p s.notifyEp t s.caps
          (Sessions.connect p s.notifyEp (t, s.caps)) := Sessions.connects hvalid p s.notifyEp
      simp only [withClients, ht] at h
      generalize Sessions.connect p s.notifyEp (t, s.caps) = r at hconnects h
      cases hconnects with
      | unaccepted => cases h
      | exhausted => cases h
      | unminted => cases h
      | unwatched => cases h
      | opened accepted taken minted watched =>
        cases h
        have hlt := (Pool.alloc_spec taken).1.2
        have hend := hvalid.badgeEnd_eq
        have hword := hvalid.badgeEnd_lt
        refine ⟨?_, ?_, ?_⟩
        · rw [session?, ht]
          exact hvalid.get?_of_alloc taken
        · exact Nat.lt_of_lt_of_le hlt (by omega)
        · rw [session?, Option.bind_some, ClientTable.get?_enter, if_pos rfl]
          exact ⟨_, rfl⟩
  · cases h

/-- Work for the client of a badge carries nothing back. -/
theorem carries_for (hs : s.Valid) (badge : Badge) (work : ClientId → Attempt (Server σ) Unit) :
    let r := (do work (← clientOf badge); return {} : Attempt (Server σ) Answer) s
    Carries s r.2 (s.outcomeFor badge work) r.1 := by
  intro r
  rcases clientOf_cases hs badge with ⟨e, hclient⟩ | ⟨id, -, hclient, -, -⟩
  · have hr : r = (.error e, s) := Attempt.bind_error hclient
    rw [hr, outcomeFor, hclient]
    exact .failed e
  · have hr : r = (work id >>= fun _ => pure {}) s := Attempt.bind_ok hclient
    rw [hr, outcomeFor, hclient]
    rcases hwork : work id s with ⟨e | ⟨⟩, s'⟩
    · rw [Attempt.bind_error hwork]
      simp only [Except.bind, hwork]
      exact .failed e
    · rw [Attempt.bind_ok hwork]
      simp only [Except.bind, hwork]
      exact .done

/-- An unbadged request to connect carries back the id and the endpoint of the new session. -/
theorem carries_connect (hs : s.Valid) (hbadge : msg.badge = Badge.none) :
    let r := perform (.basic p) msg .connect s
    Carries s r.2 ((connect p msg s).1.map some) r.1 := by
  intro r
  have hr : r = perform (.basic p) msg .connect s := rfl
  rw [perform, if_pos hbadge] at hr
  rcases hconnect : connect p msg s with ⟨e | id, s'⟩
  · have hcall : (Service.basic p).onConnect msg s = (.error e, s') := hconnect
    rw [hr, Attempt.bind_error hcall]
    exact .failed e
  · have hcall : (Service.basic p).onConnect msg s = (.ok id, s') := hconnect
    obtain ⟨hfresh, hfits, session, hlive⟩ := connect_eq_ok hs hconnect
    rw [hr, Attempt.bind_ok hcall, Attempt.bind_ok (Attempt.get_apply s'), hlive]
    exact .opened hfresh hlive hfits

end Outcomes

variable {p : Platform (World σ)} {s : Server σ} {msg : Message}

/-- Carrying out a request carries back what came of it. -/
theorem carries_perform (hs : s.Valid) {request : Request} {read : Message}
    (hdecode : Request.decode msg = (.ok (some request), read)) :
    let r := perform (.basic p) read request s
    Carries s r.2 (s.outcome p msg) r.1 := by
  have hcase := Request.decodes msg
  rw [hdecode] at hcase
  intro r
  rw [outcome]
  cases hcase with
  | connect label =>
    rw [if_pos label]
    by_cases hbadge : msg.badge = Badge.none
    · rw [if_pos hbadge]
      exact carries_connect hs hbadge
    · rw [if_neg hbadge]
      have hr : r = perform (.basic p) msg .connect s := rfl
      rw [hr, perform, if_neg hbadge]
      exact .failed .permissionOrProtocol
  | ping label =>
    rw [label, if_neg (by decide), if_pos rfl]
    exact carries_for hs msg.badge fun _ => pure ()
  | @setParamBuffer size read label popped =>
    rw [label, if_neg (by decide), if_neg (by decide), if_pos rfl]
    rw [Message.pop_eq] at popped
    rcases hunread : msg.unread with _ | ⟨word, rest⟩
    · rw [hunread] at popped
      cases popped
    · rw [hunread] at popped
      cases popped
      -- the handler gets the message with its size consumed, which is the same to it
      exact carries_for hs msg.badge fun client => setParamBuffer p.kernel client msg size.toNat
  | disconnect label =>
    rw [label, if_neg (by decide), if_neg (by decide), if_neg (by decide)]
    exact carries_for hs msg.badge fun client => disconnect p.procs client

/-- A request gets the reply that goes with what came of it. -/
theorem respond_basic (hs : s.Valid) (hlabel : Request.isLabel msg.label = true) :
    ∃ a s', respond (.basic p) msg s =
        (if a.toBool then .success else .error, some (performReply msg.label a), s') ∧
      Carries s s' (s.outcome p msg) a := by
  rw [respond]
  rcases hdecode : Request.decode msg with ⟨e | _ | request, read⟩
  · refine ⟨.error e, s, rfl, ?_⟩
    have hcase := Request.decodes msg
    rw [hdecode] at hcase
    cases hcase with
    | short label popped =>
      rw [Message.pop_eq] at popped
      rw [outcome, label, if_neg (by decide), if_neg (by decide), if_pos rfl]
      rcases hunread : msg.unread with _ | ⟨word, rest⟩
      · rw [hunread] at popped
        cases popped
        exact .failed .malformed
      · rw [hunread] at popped
        cases popped
  · have hcase := Request.decodes msg
    rw [hdecode] at hcase
    cases hcase with
    | foreign label =>
      rw [hlabel] at label
      cases label
  · exact ⟨_, _, rfl, carries_perform hs hdecode⟩

/-! ## The replies that are sent -/

/-- A reply tells the truth about a request that led from one state to another. -/
structure Tells (s s' : Server σ) (label : Nat) (outcome : Except Failure (Option ClientId))
    (reply : Message) : Prop where
  label_eq : reply.label = label
  result_eq : (Reply.result reply).1 = outcome.map fun _ => ()
  /-- If a session was opened, the reply brings its id and its endpoint. -/
  opened : ∀ id, outcome = .ok (some id) → ∃ session, s.session? id = none ∧
    s'.session? id = some session ∧
      (Reply.result reply).2.unread.map UInt64.toNat = [id] ∧ reply.caps = [session.endpoint]
  /-- Otherwise it brings nothing. -/
  nothing : (∀ id, outcome ≠ .ok (some id)) →
    (Reply.result reply).2.unread = [] ∧ reply.caps = []

theorem Carries.tells {s s' : Server σ} {outcome : Except Failure (Option ClientId)}
    {a : Except Failure Answer} (h : Carries s s' outcome a) (label : Nat) :
    Tells s s' label outcome (performReply label a) ∧ a.toBool = outcome.toBool := by
  cases h with
  | failed e =>
    obtain ⟨hresult, hunread⟩ := Reply.result_make label (.error e) []
    exact ⟨⟨rfl, hresult, (fun _ h => by cases h), fun _ => ⟨hunread, rfl⟩⟩, rfl⟩
  | done =>
    exact ⟨⟨rfl, rfl, (fun _ h => by cases h), fun _ => ⟨rfl, rfl⟩⟩, rfl⟩
  | @opened id session fresh live fits =>
    refine ⟨⟨rfl, rfl, fun id' h => ?_, fun h => absurd rfl (h id)⟩, rfl⟩
    cases h
    refine ⟨session, fresh, live, ?_, rfl⟩
    have hword : (UInt64.ofNat id).toNat = id := UInt64.toNat_ofNat_of_lt fits
    show [(UInt64.ofNat id).toNat] = [id]
    rw [hword]

/-- **Replies tell what came of requests.** Whatever was done with a server that knows the
connection protocol only, on any platform, handling one more message goes in one of three ways. A
signal of notifications gets no reply, and fares as its drain does. A request of the protocol gets
one reply, under its own label, that tells what came of it; the request fares accordingly. Any other
message gets no reply, is passed on and changes nothing. -/
theorem replies_tell_outcomes (p : Platform (World σ))
    (names : Option (NameResolver (World (Posted σ)))) (config : Config)
    (c : CapSpace (World (Posted σ))) {s₀ : Server (Posted σ)} {c' : CapSpace (World (Posted σ))}
    (hstart : start p.posted names config c = (.ok s₀, c')) (calls : List (Call (Posted σ)))
    (msg : Message) :
    let s := s₀.run p.posted calls
    let r := handle p.posted.kernel (.basic p.posted) msg s
    (msg.badge = config.noticeBadge → r.2.sent = s.sent ∧
      r.1 = if (drainNotices (.basic p.posted) s).1.toBool then .success else .error) ∧
    (msg.badge ≠ config.noticeBadge → Request.isLabel msg.label = true →
      ∃ reply, r.2.sent = reply :: s.sent ∧
        Tells s r.2 msg.label (s.outcome p.posted msg) reply ∧
        r.1 = if (s.outcome p.posted msg).toBool then .success else .error) ∧
    (msg.badge ≠ config.noticeBadge → Request.isLabel msg.label = false → r = (.pass, s)) := by
  intro s r
  have hline : Goes ClientTable.InLine s₀ s := .run (start_valid hstart) calls
  have hs : s.Valid := hline.valid ClientTable.way_inLine
  obtain ⟨_, _, _, _, _, _, steps⟩ := start_eq_ok hstart
  have hconfig : s.config = config :=
    (congrArg Station.config hline.station).trans steps.config_eq
  rw [← hconfig]
  refine ⟨fun hnotice => ?_, fun hnotice hlabel => ?_, fun hnotice hlabel => ?_⟩
  · have hr : r = _ := handle_signal hnotice
    rw [hr]
    exact ⟨sent_drainNotices p s, rfl⟩
  · have hr : r = _ := handle_request hnotice
    obtain ⟨a, s', hrespond, hcarries⟩ := respond_basic (p := p.posted) hs hlabel
    have hsent : s'.sent = s.sent := by
      have hsent := sent_respond p s msg
      rw [hrespond] at hsent
      exact hsent
    obtain ⟨htells, hfares⟩ := hcarries.tells msg.label
    rw [hr, hrespond, deliver, ← hfares]
    refine ⟨performReply msg.label a, ?_, ?_, rfl⟩
    · rw [← hsent]
      rfl
    · exact ⟨htells.label_eq, htells.result_eq, htells.opened, htells.nothing⟩
  · have hr : r = _ := handle_request hnotice
    rw [hr, respond, Request.decode_foreign hlabel]
    rfl

/-- Bringing the small server up where replies are noted. -/
def postedStart :
    Except Failure (Server (Posted (Machine Unit))) × CapSpace (World (Posted (Machine Unit))) :=
  start Machine.platform.posted none sampleConfig
    ⟨sampleCaps.slots, ⟨sampleCaps.world.memory, ⟨sampleCaps.world.rest, []⟩⟩⟩

/-- The small server where replies are noted. -/
def postedServer : Server (Posted (Machine Unit)) :=
  postedStart.1.toOption.get (by decide +kernel)

/-- The capability of a client comes in. -/
def postedDelivery : Call (Posted (Machine Unit)) :=
  .outside fun w => { w with rest := { w.rest with rest := { w.rest.rest with
    kernel := w.rest.rest.kernel.deliver ((Request.encode .connect).withCap 0x500) } } }

/-- A client that connects is told its id, and gets the endpoint of its session. -/
theorem replies_tell_connected :
    postedStart = (.ok postedServer, postedStart.2) ∧
      ∃ reply, (handle Machine.platform.posted.kernel (.basic Machine.platform.posted)
          ((Request.encode .connect).withCap 0x500)
            (postedServer.run Machine.platform.posted [postedDelivery])).2.sent = [reply] ∧
        (Reply.result reply).1 = .ok () ∧
        (Reply.result reply).2.unread.map UInt64.toNat = [1] ∧ reply.caps.length = 1 := by
  have hstart : postedStart = (.ok postedServer, postedStart.2) := rfl
  refine ⟨hstart, ?_⟩
  obtain ⟨-, hreplies, -⟩ := replies_tell_outcomes Machine.platform none sampleConfig _ hstart
    [postedDelivery] ((Request.encode .connect).withCap 0x500)
  obtain ⟨reply, hsent, htells, -⟩ := hreplies (by decide) (by decide)
  have houtcome : outcome Machine.platform.posted
      (postedServer.run Machine.platform.posted [postedDelivery])
        ((Request.encode .connect).withCap 0x500) = .ok (some 1) := rfl
  have hbefore : (postedServer.run Machine.platform.posted [postedDelivery]).sent = [] := by
    decide +kernel
  obtain ⟨session, -, -, hwords, hcaps⟩ := htells.opened 1 houtcome
  refine ⟨reply, hbefore ▸ hsent, ?_, hwords, congrArg List.length hcaps⟩
  rw [htells.result_eq, houtcome]
  rfl

end Server

end CapServer
