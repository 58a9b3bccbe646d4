import CapServer.Proofs.Lifetimes
import CapServer.Proofs.Server.Isolation
import CapServer.Proofs.Server.Routing

/-!
# Sessions outlive the handling of messages

`Server.Goes R` says of two states of a server that what it has of its own is the same and that its
table went on by `R`. If every handler of a service goes on by `R`, so does handling a message
(`Goes.handle`), whatever the platform.

A server that knows the connection protocol ends no session while it handles a message
(`Goes.handle_continues`): those that are to end are queued, and end with the sweep. The exception
is a request to open a session whose client cannot be watched (`Server.Unwatched`). It sweeps the
whole queue before its reply is sent (`Goes.handle_swept`, `queued_session_ended_by_connect`).
-/

namespace CapServer

/-- A way for tables to go on that leads to valid tables and can be repeated. -/
structure ClientTable.Way (R : ClientTable → ClientTable → Prop) : Prop where
  valid : ∀ {t t'}, R t t' → t'.Valid
  refl : ∀ {t}, t.Valid → R t t
  trans : ∀ {t t' t''}, R t t' → R t' t'' → R t t''

namespace ClientTable

theorem way_inLine : Way InLine := ⟨InLine.valid, fun ht => ⟨ht, rfl, rfl⟩, InLine.trans⟩

theorem way_continues : Way Continues :=
  ⟨fun h => h.valid, Continues.refl, Continues.trans⟩

end ClientTable

open ClientTable (InLine Continues Swept Way way_inLine way_continues)

namespace Server

variable {σ : Type} {R R' : ClientTable → ClientTable → Prop} {s₀ s s' : Server σ}

/-- The client table of a server, if it has one, is valid. -/
def Valid (s : Server σ) : Prop := ∀ t, s.clients = some t → t.Valid

/-- What a server has of its own is as before, and its table has gone on by `R`. -/
structure Goes (R : ClientTable → ClientTable → Prop) (s₀ s : Server σ) : Prop where
  station : s.station = s₀.station
  clients : Option.Rel R s₀.clients s.clients

namespace Goes

theorem mono (h : Goes R s₀ s) (hR : ∀ t t', R t t' → R' t t') : Goes R' s₀ s := by
  obtain ⟨hstation, hclients⟩ := h
  refine ⟨hstation, ?_⟩
  generalize s₀.clients = clients₀, s.clients = clients at hclients ⊢
  cases hclients with
  | none => exact .none
  | some hclients => exact .some (hR _ _ hclients)

theorem valid (h : Goes R s₀ s) (hR : Way R) : s.Valid := by
  intro t ht
  have hclients := h.clients
  generalize s₀.clients = clients₀ at hclients
  rw [ht] at hclients
  cases hclients with
  | some hclients => exact hR.valid hclients

theorem trans (h : Goes R s₀ s) (h' : Goes R s s') (hR : Way R) : Goes R s₀ s' := by
  obtain ⟨hstation, hclients⟩ := h
  obtain ⟨hstation', hclients'⟩ := h'
  refine ⟨hstation'.trans hstation, ?_⟩
  generalize s₀.clients = clients₀, s.clients = clients, s'.clients = clients'
    at hclients hclients' ⊢
  cases hclients with
  | none => exact hclients'
  | some hclients =>
    cases hclients' with
    | some hclients' => exact .some (hR.trans hclients hclients')

/-- What has to do neither with the server's own nor with its table. -/
theorem of_eq (hR : Way R) (hs : s.Valid) (hstation : s'.station = s.station)
    (hclients : s'.clients = s.clients) : Goes R s s' := by
  refine ⟨hstation, ?_⟩
  rw [hclients]
  rcases ht : s.clients with _ | t
  · exact .none
  · exact .some (hR.refl (hs t ht))

theorem refl (hR : Way R) (hs : s.Valid) : Goes R s s := of_eq hR hs rfl rfl

/-- Work on the clients of a server goes by what it does to a table. -/
theorem withClients {α : Type} {x : Attempt (Sessions σ) α}
    (hx : ∀ t, s.clients = some t → R t (x (t, s.caps)).2.1) :
    Goes R s (Server.withClients x s).2 := by
  rcases ht : s.clients with _ | t
  · simp only [Server.withClients, ht]
    exact ⟨rfl, by rw [ht]; exact .none⟩
  · simp only [Server.withClients, ht]
    exact ⟨rfl, by rw [ht]; exact .some (hx t ht)⟩

theorem deliver (h : Goes R s₀ s) (k : Kernel (World σ)) (outcome : Dispatch)
    (reply : Option Message) : Goes R s₀ (Server.deliver k (outcome, reply, s)).2 := by
  obtain ⟨-, hstation, hclients⟩ := deliver_spec k (outcome, reply, s)
  exact ⟨hstation.trans h.station, by rw [hclients]; exact h.clients⟩

end Goes

end Server

/-! ## Handling a message -/

/-- The handlers of a service, but for the one that opens sessions, go on by `R`. -/
structure Service.Goes {σ : Type} (R : ClientTable → ClientTable → Prop) (svc : Service σ) :
    Prop where
  onNotice : ∀ n s, s.Valid → Server.Goes R s (svc.onNotice n s).2
  dispatch : ∀ msg s, s.Valid → Server.Goes R s (svc.dispatch msg s).2
  onPing : ∀ client s, s.Valid → Server.Goes R s (svc.onPing client s).2
  onSetParamBuffer : ∀ client msg size s, s.Valid →
    Server.Goes R s (svc.onSetParamBuffer client msg size s).2
  onDisconnect : ∀ client s, s.Valid → Server.Goes R s (svc.onDisconnect client s).2

/-- The handlers of a service leave what a server has of its own alone, and its table valid. -/
structure Service.Orderly {σ : Type} (svc : Service σ) : Prop extends Service.Goes InLine svc where
  onConnect : ∀ msg s, s.Valid → Server.Goes InLine s (svc.onConnect msg s).2

namespace Server

variable {σ : Type} {R : ClientTable → ClientTable → Prop} {s₀ s : Server σ} {svc : Service σ}

/-- A message with the badge of no session, other than that of notifications, asks to open one. -/
def AsksToConnect (s : Server σ) (msg : Message) : Prop :=
  msg.badge ≠ s.config.noticeBadge ∧ msg.label = Request.connectLabel ∧ msg.badge = Badge.none

namespace Goes

theorem nextRecord (hR : Way R) (hs : s.Valid) : Goes R s (Server.nextRecord s).2 := by
  refine of_eq hR hs ?_ (clients_nextRecord s)
  rcases s with ⟨_, _, _, _, _, _ | notices, _, _⟩ <;> rfl

/-- A drain goes on as its handlers do. -/
theorem drain (hR : Way R) (hsvc : svc.Goes R) (hs : s.Valid) (fuel handled : Nat)
    (failure : Option Failure) : Goes R s (Server.drain svc fuel handled failure s).2 := by
  induction fuel generalizing s handled failure with
  | zero =>
    rw [Server.drain, Attempt.ofExcept_apply]
    exact refl hR hs
  | succ fuel ih =>
    have hnext := nextRecord hR hs
    by_cases hfound : ∃ record n,
        (Server.nextRecord s).1 = .ok (some record) ∧ record.notice = .ok n
    · obtain ⟨record, n, hfirst, hnotice⟩ := hfound
      obtain ⟨handled', failure', hdrain⟩ :=
        drain_goes_on svc (Prod.ext hfirst rfl) hnotice fuel handled failure
      have hhandler := hsvc.onNotice n _ (hnext.valid hR)
      rw [hdrain]
      exact (hnext.trans hhandler hR).trans (ih (hhandler.valid hR) handled' failure') hR
    · rw [drain_ends svc fun record n hfirst hnotice => hfound ⟨record, n, hfirst, hnotice⟩]
      exact hnext

/-- Carrying out a request goes on as its handler does. -/
theorem perform (hR : Way R) (hsvc : svc.Goes R) (hs : s.Valid) {msg : Message} {request : Request}
    (hconnect : request = .connect → msg.badge = Badge.none → Goes R s (svc.onConnect msg s).2) :
    Goes R s (Server.perform svc msg request s).2 :=
  settle_perform hs (refl hR hs) hconnect fun id _ _ _ =>
    ⟨hsvc.onPing id s hs, fun size => hsvc.onSetParamBuffer id msg size s hs,
      hsvc.onDisconnect id s hs⟩

theorem respond (hR : Way R) (hsvc : svc.Goes R) (hs : s.Valid) {msg : Message}
    (hconnect : msg.label = Request.connectLabel → msg.badge = Badge.none →
      Goes R s (svc.onConnect msg s).2) :
    Goes R s (Server.respond svc msg s).2.2 := by
  have hdecode := Request.decodes msg
  have hread := badge_decode msg
  rw [Server.respond]
  generalize Request.decode msg = r at hdecode hread
  cases hdecode with
  | connect label => exact perform hR hsvc hs fun _ => hconnect label
  | ping label => exact perform hR hsvc hs fun h => by cases h
  | setParamBuffer label popped => exact perform hR hsvc hs fun h => by cases h
  | short label popped => exact refl hR hs
  | disconnect label => exact perform hR hsvc hs fun h => by cases h
  | foreign label =>
    have hdispatch := hsvc.dispatch msg s hs
    dsimp only
    rcases hr : svc.dispatch msg s with ⟨e | _ | reply, s'⟩
    · rw [hr] at hdispatch
      exact hdispatch
    · rw [hr] at hdispatch
      exact hdispatch
    · rw [hr] at hdispatch
      exact hdispatch

/-- Handling a message goes on as the handlers of the service do. -/
theorem handle (hR : Way R) (hsvc : svc.Goes R) (hs : s.Valid) (k : Kernel (World σ))
    {msg : Message} (hconnect : s.AsksToConnect msg → Goes R s (svc.onConnect msg s).2) :
    Goes R s (Server.handle k svc msg s).2 := by
  by_cases hbadge : msg.badge = s.config.noticeBadge
  · rw [handle_signal hbadge]
    exact drain hR hsvc hs s.drainBound 0 none
  · rw [handle_request hbadge]
    exact (respond hR hsvc hs fun hlabel hnone => hconnect ⟨hbadge, hlabel, hnone⟩).deliver k _ _

end Goes

/-! ## The connection protocol -/

section Basic

variable {p : Platform (World σ)}

/-- A request to open a session comes in, a session can be made, and the process server will not
watch its client. -/
def Unwatched (p : Platform (World σ)) (s : Server σ) (msg : Message) : Prop :=
  s.AsksToConnect msg ∧ msg.carries 0 1 = true ∧
    ∃ t, s.clients = some t ∧ Sessions.Unwatched p s.notifyEp t s.caps

theorem connect_of_carries {msg : Message} (h : msg.carries 0 1 = true) :
    connect p msg s = Server.withClients (Sessions.connect p s.notifyEp) s := by
  rw [connect, if_pos h, Attempt.bind_ok (Attempt.get_apply s)]

/-- Opening a session ends none that was there, unless its client cannot be watched. -/
theorem Goes.connect_continues (hs : s.Valid) {msg : Message}
    (h : ¬ (msg.carries 0 1 = true ∧
      ∃ t, s.clients = some t ∧ Sessions.Unwatched p s.notifyEp t s.caps)) :
    Goes Continues s (connect p msg s).2 := by
  by_cases hcarries : msg.carries 0 1 = true
  · rw [connect_of_carries hcarries]
    exact .withClients fun t ht =>
      .connect (hs t ht) fun hunwatched => h ⟨hcarries, t, ht, hunwatched⟩
  · rw [connect, if_neg hcarries]
    exact refl way_continues hs

theorem Goes.connect_swept (hs : s.Valid) {msg : Message} (hcarries : msg.carries 0 1 = true)
    {t : ClientTable} (ht : s.clients = some t)
    (h : Sessions.Unwatched p s.notifyEp t s.caps) : Goes Swept s (connect p msg s).2 := by
  rw [connect_of_carries hcarries]
  refine .withClients fun t' ht' => ?_
  cases ht.symm.trans ht'
  exact .connect (hs t ht) h

/-- Opening a session leaves a valid table. -/
theorem Goes.connect_inLine (hs : s.Valid) (msg : Message) :
    Goes InLine s (connect p msg s).2 := by
  by_cases h : msg.carries 0 1 = true ∧
      ∃ t, s.clients = some t ∧ Sessions.Unwatched p s.notifyEp t s.caps
  · obtain ⟨hcarries, t, ht, hunwatched⟩ := h
    exact (connect_swept hs hcarries ht hunwatched).mono fun _ _ h => h.toInLine
  · exact (connect_continues hs h).mono fun _ _ h => h.toInLine

/-- A server that knows the connection protocol only ends no session but when it opens one. -/
theorem basic_continues (p : Platform (World σ)) : (Service.basic p).Goes Continues where
  onNotice n s hs := by
    rw [settle_onNotice]
    rcases announced n with _ | death
    · exact .refl way_continues hs
    · exact .withClients fun t ht => .queueDeath (hs t ht) death
  dispatch _ _ hs := .refl way_continues hs
  onPing _ _ hs := .refl way_continues hs
  onSetParamBuffer client msg size _ hs :=
    .withClients fun t ht => .setParamBuffer (hs t ht) p.kernel client msg size
  onDisconnect client _ hs := .withClients fun t ht => .disconnect (hs t ht) p.procs client

theorem basic_orderly (p : Platform (World σ)) : (Service.basic p).Orderly where
  onNotice n s hs := ((basic_continues p).onNotice n s hs).mono fun _ _ h => h.toInLine
  dispatch _ _ hs := .refl way_inLine hs
  onPing _ _ hs := .refl way_inLine hs
  onSetParamBuffer client msg size s hs :=
    ((basic_continues p).onSetParamBuffer client msg size s hs).mono fun _ _ h => h.toInLine
  onDisconnect client s hs :=
    ((basic_continues p).onDisconnect client s hs).mono fun _ _ h => h.toInLine
  onConnect msg _ hs := .connect_inLine hs msg

/-- Handling a message ends no session, with one exception. -/
theorem Goes.handle_continues (hs : s.Valid) {msg : Message} (h : ¬ s.Unwatched p msg) :
    Goes Continues s (Server.handle p.kernel (.basic p) msg s).2 :=
  .handle way_continues (basic_continues p) hs p.kernel fun hconnect =>
    .connect_continues hs fun hunwatched => h ⟨hconnect, hunwatched⟩

/-- The exception: the queue is swept, and with it whatever was in it. -/
theorem Goes.handle_swept (hs : s.Valid) {msg : Message} (h : s.Unwatched p msg) :
    Goes Swept s (Server.handle p.kernel (.basic p) msg s).2 := by
  obtain ⟨⟨hnotice, hlabel, hbadge⟩, hcarries, t, ht, hunwatched⟩ := h
  have hrespond : Goes Swept s (Server.respond (.basic p) msg s).2.2 := by
    rw [Server.respond, Request.decode_connect hlabel]
    dsimp only
    rw [Server.perform, if_pos hbadge, Attempt.snd_bind fun _ _ => rfl]
    exact connect_swept hs hcarries ht hunwatched
  rw [handle_request hnotice]
  exact hrespond.deliver p.kernel _ _

end Basic

/-! ## Rounds and runs -/

namespace Goes

theorem sweep (hs : s.Valid) (k : Kernel (World σ)) : Goes Swept s (Server.sweep k s).2 := by
  rcases ht : s.clients with _ | t
  · simp only [Server.sweep, ht]
    exact ⟨rfl, by rw [ht]; exact .none⟩
  · simp only [Server.sweep, ht]
    exact ⟨rfl, by rw [ht]; exact .some (.sweep (hs t ht) k)⟩

theorem handle_inLine (hsvc : svc.Orderly) (hs : s.Valid) (k : Kernel (World σ)) (msg : Message) :
    Goes InLine s (Server.handle k svc msg s).2 :=
  handle way_inLine hsvc.toGoes hs k fun _ => hsvc.onConnect msg s hs

theorem serve_inLine (hsvc : svc.Orderly) (hs : s.Valid) (k : Kernel (World σ)) :
    Goes InLine s (Server.serve k svc s).2 := by
  have hreceive : Goes InLine s ((k.receive s.anonEp).on worldPart s).2 :=
    of_eq way_inLine hs rfl rfl
  rcases serve_cases k svc s with ⟨e, s', hr, hserve⟩ | ⟨msg, s', hr, hserve⟩
  · rw [hr] at hreceive
    rw [hserve]
    exact hreceive
  · rw [hr] at hreceive
    rw [hserve]
    have hhandle := handle_inLine hsvc (hreceive.valid way_inLine) k msg
    have hsweep := (sweep (hhandle.valid way_inLine) k).mono fun _ _ h => h.toInLine
    exact (hreceive.trans hhandle way_inLine).trans hsweep way_inLine

theorem call {p : Platform (World σ)} (hs : s.Valid) (call : Call σ) :
    Goes InLine s (call.perform p s) := by
  cases call with
  | serve => exact serve_inLine (basic_orderly p) hs p.kernel
  | handle msg => exact handle_inLine (basic_orderly p) hs p.kernel msg
  | sweep => exact (sweep hs p.kernel).mono fun _ _ h => h.toInLine
  | connect msg => exact connect_inLine hs msg
  | setParamBuffer client msg size =>
    exact (basic_orderly p).onSetParamBuffer client msg size s hs
  | disconnect client => exact (basic_orderly p).onDisconnect client s hs
  | outside change => exact of_eq way_inLine hs rfl rfl

theorem run {p : Platform (World σ)} (hs : s.Valid) (calls : List (Call σ)) :
    Goes InLine s (s.run p calls) := by
  induction calls generalizing s with
  | nil => exact refl way_inLine hs
  | cons call calls ih =>
    have hcall : Goes InLine s (call.perform p s) := .call hs call
    exact hcall.trans (ih (hcall.valid way_inLine)) way_inLine

end Goes

/-- A new server has a valid table, if it has one. -/
theorem start_valid {p : Platform (World σ)} {names : Option (NameResolver (World σ))}
    {config : Config} {c c' : CapSpace (World σ)} (hstart : start p names config c = (.ok s, c')) :
    s.Valid := by
  obtain ⟨_, _, _, _, _, _, steps⟩ := start_eq_ok hstart
  intro t ht
  have hopen := steps.clients
  rw [ht] at hopen
  exact (ClientTable.create_spec (create_of_openClients hopen).2).1

/-! ## When sessions end -/

theorem state?_eq_pendingDelete_iff (hs : s.Valid) {id : ClientId} :
    s.state? id = some .pendingDelete ↔ ∃ t, s.clients = some t ∧ id ∈ t.pending := by
  rw [state?]
  rcases ht : s.clients with _ | t
  · constructor
    · intro h
      cases h
    · rintro ⟨_, h, -⟩
      cases h
  · rw [Option.bind_some, ClientTable.state?]
    constructor
    · intro h
      obtain ⟨session, -, h⟩ := Option.map_eq_some_iff.1 h
      split at h
      · next hmem => exact ⟨t, rfl, List.contains_iff_mem.1 hmem⟩
      · split at h <;> cases h
    · rintro ⟨_, ⟨⟩, hmem⟩
      obtain ⟨session, hsession⟩ := Option.isSome_iff_exists.1 ((hs t ht).live id hmem)
      rw [hsession, Option.map_some, if_pos (List.contains_iff_mem.2 hmem)]

/-- Where no session ends, the queued ones are queued still. -/
theorem Goes.live (h : Goes Continues s s₀) (hs : s.Valid) {id : ClientId} {session : Session}
    (hid : s.session? id = some session) :
    (∃ session', s₀.session? id = some session' ∧ session'.lasting = session.lasting) ∧
      (s.state? id = some .pendingDelete → s₀.state? id = some .pendingDelete) := by
  rw [state?_eq_pendingDelete_iff hs, state?_eq_pendingDelete_iff (h.valid way_continues)]
  rw [session?] at hid ⊢
  have hclients := h.clients
  generalize s.clients = clients, s₀.clients = clients' at hclients hid ⊢
  cases hclients with
  | none => cases hid
  | @some t t' hcontinues =>
    refine ⟨hcontinues.live id session hid, ?_⟩
    rintro ⟨_, ⟨⟩, hmem⟩
    exact ⟨t', rfl, hcontinues.queued id hmem⟩

/-- Where the queue is swept, just the queued sessions end. -/
theorem Goes.session?_eq (h : Goes Swept s s₀) (hs : s.Valid) (id : ClientId) :
    s₀.session? id = if s.state? id = some .pendingDelete then none else s.session? id := by
  have hstate : s.state? id = some .pendingDelete ↔ _ := state?_eq_pendingDelete_iff hs
  rw [session?, session?]
  have hclients := h.clients
  generalize s.clients = clients, s₀.clients = clients' at hclients hstate ⊢
  cases hclients with
  | none => exact (ite_self none).symm
  | @some t t' hswept =>
    have hiff : s.state? id = some .pendingDelete ↔ id ∈ t.pending := by
      rw [hstate]
      constructor
      · rintro ⟨_, ⟨⟩, hmem⟩
        exact hmem
      · exact fun hmem => ⟨t, rfl, hmem⟩
    simp only [hiff]
    exact hswept.get?_eq id

/-- **Handling a message ends no session, unless a client cannot be watched.** Whatever was done
with a server, on any platform, a session that is there when a message is handled is there
afterwards, as it was but for its buffer; and if it was queued, it still is. The one exception is a
request to open a session whose client the process server will not watch: it ends every session that
was queued. Otherwise sessions end with the sweep, which ends the queued ones and no others. -/
theorem endings_deferred (p : Platform (World σ)) (names : Option (NameResolver (World σ)))
    (config : Config) (c : CapSpace (World σ)) {s₀ : Server σ} {c' : CapSpace (World σ)}
    (hstart : start p names config c = (.ok s₀, c')) (calls : List (Call σ)) (msg : Message) :
    let s := s₀.run p calls
    let s' := (handle p.kernel (.basic p) msg s).2
    (∀ id session, s.session? id = some session →
      ¬ (s.Unwatched p msg ∧ s.state? id = some .pendingDelete) →
        (∃ session', s'.session? id = some session' ∧ session'.lasting = session.lasting) ∧
          (¬ s.Unwatched p msg →
            s.state? id = some .pendingDelete → s'.state? id = some .pendingDelete)) ∧
      (s.Unwatched p msg → ∀ id, s.state? id = some .pendingDelete → s'.session? id = none) ∧
      ∀ id, (sweep p.kernel s').2.session? id =
        if s'.state? id = some .pendingDelete then none else s'.session? id := by
  intro s s'
  have hs : s.Valid := (Goes.run (start_valid hstart) calls).valid way_inLine
  have hs' : s'.Valid := (Goes.handle_inLine (basic_orderly p) hs p.kernel msg).valid way_inLine
  refine ⟨fun id session hid hexcept => ?_, fun hunwatched id hqueued => ?_,
    fun id => (Goes.sweep hs' p.kernel).session?_eq hs' id⟩
  · by_cases hunwatched : s.Unwatched p msg
    · have hswept : s'.session? id = _ := (Goes.handle_swept hs hunwatched).session?_eq hs id
      rw [if_neg fun hqueued => hexcept ⟨hunwatched, hqueued⟩, hid] at hswept
      exact ⟨⟨session, hswept, rfl⟩, fun h => absurd hunwatched h⟩
    · obtain ⟨hlive, hqueued⟩ := (Goes.handle_continues hs hunwatched).live hs hid
      exact ⟨hlive, fun _ => hqueued⟩
  · have hswept : s'.session? id = _ := (Goes.handle_swept hs hunwatched).session?_eq hs id
    rw [if_pos hqueued] at hswept
    exact hswept

/-- A client connects and asks to leave, and nothing is swept yet. Another one will connect whom the
process server will not watch. -/
def sampleLeaving : List (Call (Machine Unit)) :=
  [sampleSend ((Request.encode .connect).withCap 0x500) [], .serve,
    .handle { Request.encode .disconnect with badge := 0x1001 },
    .outside fun w => { w with rest := { w.rest with
      kernel := w.rest.kernel.deliver ((Request.encode .connect).withCap 0x501)
      procFaults := w.rest.procFaults.extend .watch [some (.kernel (-1))] } }]

/-- The server when the second client is about to connect. -/
def sampleQueued : Server (Journaled (Machine Unit)) :=
  sampleServer.run Machine.platform.journaled (sampleLeaving.map Call.journaled)

/-- The server when the second client has been refused, before any sweep. -/
def sampleRefused : Server (Journaled (Machine Unit)) :=
  (handle Machine.platform.journaled.kernel (.basic Machine.platform.journaled)
    ((Request.encode .connect).withCap 0x501) sampleQueued).2

/-- The session of the first client was only queued, and the second client's request ended it. -/
theorem queued_session_ended_by_connect :
    (sampleQueued.session? 1).isSome = true ∧ sampleQueued.state? 1 = some .pendingDelete ∧
      sampleRefused.session? 1 = none := by
  decide +kernel

/-- That session ended only because the second client was not watched. -/
theorem endings_deferred_but_for_unwatched :
    sampleStart = (.ok sampleServer, sampleStart.2) ∧
      sampleQueued.Unwatched Machine.platform.journaled
        ((Request.encode .connect).withCap 0x501) := by
  refine ⟨sampleStart_eq, ?_⟩
  obtain ⟨hlive, -, -⟩ := endings_deferred Machine.platform.journaled none sampleConfig
    sampleCaps.withJournal sampleStart_eq (sampleLeaving.map Call.journaled)
    ((Request.encode .connect).withCap 0x501)
  have hsome : (sampleQueued.session? 1).isSome = true := by decide +kernel
  have hnone : sampleRefused.session? 1 = none := by decide +kernel
  obtain ⟨session, hsession⟩ := Option.isSome_iff_exists.1 hsome
  refine Classical.byContradiction fun hwatched => ?_
  obtain ⟨⟨session', hsession', -⟩, -⟩ := hlive 1 session hsession fun h => hwatched h.1
  cases hnone.symm.trans hsession'

end Server

end CapServer
