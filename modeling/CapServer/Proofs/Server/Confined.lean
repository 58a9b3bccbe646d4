import CapServer.Proofs.Sessions
import CapServer.Server.Dispatch

/-!
# What messages do to a server

A message addresses some clients (`Server.addresses`): a request the one whose session has the
message's badge, a signal of notifications those whose death the ring announces. Every id without a
session counts as addressed, so that a new one can get it.

Handling a message, and the sweep after it, change no session that is not addressed and touch none
of its slots (`Confined.handle`, `Confined.sweep`). What a server has of its own, its `station`,
never changes.
-/

namespace CapServer

namespace Server

variable {σ : Type}

/-! ## Work on the clients -/

section Clients

variable {α : Type} {s : Server σ} {x : Attempt (Sessions σ) α}

theorem withClients_of_none (h : s.clients = none) :
    withClients x s = (.error .unsupported, s) := by
  simp only [withClients, h]

/-- Work on the clients of a server and its slots changes these and nothing else. -/
theorem withClients_of_some {t t' : ClientTable} {c : CapSpace (World σ)} {a : Except Failure α}
    (h : s.clients = some t) (hx : x (t, s.caps) = (a, t', c)) :
    withClients x s = (a, { s with clients := some t', caps := c }) := by
  simp only [withClients, h, hx]

end Clients

/-! ## What a server has of its own -/

/-- What a server has from its beginning to its end. -/
structure Station where
  config : Config
  anonEp : CapPtr
  notifyAsyncEp : CapPtr
  notifyEp : CapPtr
  notices : Option MappedBuffer
  paramBuffer : Option MappedBuffer

def station (s : Server σ) : Station :=
  ⟨s.config, s.anonEp, s.notifyAsyncEp, s.notifyEp,
    s.notices.map fun b => ⟨b.dataspace, b.reader.region⟩, s.paramBuffer⟩

namespace Station

/-- What is held for a buffer. -/
def bufferHoldings (buffer : Option MappedBuffer) : List Holding :=
  (buffer.map fun b => ⟨b.dataspace, none⟩).toList

/-- What a server holds for itself. -/
def holdings (s : Station) : List Holding :=
  bufferHoldings s.notices ++ bufferHoldings s.paramBuffer ++
    [⟨s.notifyEp, some s.config.noticeBadge⟩, ⟨s.notifyAsyncEp, none⟩, ⟨s.anonEp, none⟩]

theorem slots_holdings (s : Server σ) : Holding.slots s.station.holdings = s.ownSlots := by
  rcases s with ⟨_, _, _, _, _, _ | _, _ | _, _⟩ <;> rfl

end Station

/-! ## What a drain will see -/

/-- The notices that draining the ring hands to handlers, as long as they leave the ring alone. -/
def noticesAhead : Nat → Server σ → List Notice
  | 0, _ => []
  | fuel + 1, s =>
    match nextRecord s with
    | (.ok (some record), s) =>
      match record.notice with
      | .ok notice => notice :: noticesAhead fuel s
      | .error _ => []
    | _ => []

/-- The next record is what the reader takes out of the memory. -/
theorem nextRecord_eq {s : Server σ} {buffer : NoticeBuffer} {reader : Reader} {m : Memory}
    {bytes : List UInt8} {a : Except Failure Bool} (hbuffer : s.notices = some buffer)
    (hread : Reader.readExact ⟨buffer.reader, s.caps.world.memory, List.replicate Record.size 0⟩ =
      (a, ⟨reader, m, bytes⟩)) :
    nextRecord s = (a.map fun found => if found then some (Record.ofBytes bytes) else none,
      memoryPart.set m { s with notices := some { buffer with reader := reader } }) := by
  have hmemory : memoryPart.get s = s.caps.world.memory := rfl
  simp only [nextRecord, hbuffer, hmemory, hread]

/-- What is told of a failure, if nothing failed earlier. -/
def firstFailure (failure : Option Failure) : Except Failure Unit → Option Failure
  | .ok () => failure
  | .error e => failure <|> some e

section Draining

variable (svc : Service σ) {s s' : Server σ} {record : Record}

theorem drain_emptied (fuel handled : Nat) (failure : Option Failure)
    (hnext : nextRecord s = (.ok none, s')) :
    drain svc (fuel + 1) handled failure s = (drainAnswer handled failure, s') := by
  rw [drain, Attempt.bind_ok hnext]
  exact Attempt.ofExcept_apply _ _

theorem drain_damaged (fuel handled : Nat) (failure : Option Failure) {e : Failure}
    (hnext : nextRecord s = (.ok (some record), s')) (hnotice : record.notice = .error e) :
    drain svc (fuel + 1) handled failure s = (.error e, s') := by
  rw [drain, Attempt.bind_ok hnext]
  dsimp only
  rw [hnotice]
  rfl

/-- A notice is handed to its handler, and the drain goes on from the state that this leaves. -/
theorem drain_handed (fuel handled : Nat) (failure : Option Failure) {n : Notice}
    (hnext : nextRecord s = (.ok (some record), s')) (hnotice : record.notice = .ok n) :
    drain svc (fuel + 1) handled failure s = drain svc fuel (handled + 1)
      (firstFailure failure (svc.onNotice n s').1) (svc.onNotice n s').2 := by
  rw [drain, Attempt.bind_ok hnext]
  dsimp only
  rw [hnotice, Attempt.ofExcept, Attempt.bind_ok (Attempt.pure_apply n s'),
    Attempt.bind_ok (Attempt.catching_apply _ _)]
  rcases (svc.onNotice n s').1 with e | ⟨⟩ <;> rfl

/-- Where no notice is found, the drain is over. -/
theorem drain_ends {fuel handled : Nat} {failure : Option Failure}
    (hnone : ∀ record n, (nextRecord s).1 = .ok (some record) → record.notice ≠ .ok n) :
    (drain svc (fuel + 1) handled failure s).2 = (nextRecord s).2 := by
  rcases hnext : nextRecord s with ⟨e | _ | record, s'⟩
  · rw [drain, Attempt.bind_error hnext]
  · rw [drain_emptied svc fuel handled failure hnext]
  · rw [hnext] at hnone
    rcases hnotice : record.notice with e | n
    · rw [drain_damaged svc fuel handled failure hnext hnotice]
    · exact absurd hnotice (hnone record n rfl)

/-- Where a notice is found, the drain goes on, whatever its handler answers. -/
theorem drain_goes_on {n : Notice} (hnext : nextRecord s = (.ok (some record), s'))
    (hnotice : record.notice = .ok n) (fuel handled : Nat) (failure : Option Failure) :
    ∃ handled' failure', drain svc (fuel + 1) handled failure s =
      drain svc fuel handled' failure' (svc.onNotice n s').2 :=
  ⟨_, _, drain_handed svc fuel handled failure hnext hnotice⟩

end Draining

/-- The death that a notice announces. -/
def announced : Notice → Option DeathId
  | .death id => some id.toNat
  | _ => none

/-- The deaths that a drain announces. -/
def deathsAhead (s : Server σ) : List DeathId := (noticesAhead s.drainBound s).filterMap announced

/-- The clients that a message is about, and the ids that a new client could get. -/
def addresses (s : Server σ) (msg : Message) (id : ClientId) : Bool :=
  match s.session? id with
  | none => true
  | some session =>
    if msg.badge = s.config.noticeBadge then session.deathId.any fun d => s.deathsAhead.contains d
    else session.badge == msg.badge

/-- The table a server has does not matter for its ring. -/
theorem nextRecord_withClients (s : Server σ) (clients : Option ClientTable) :
    nextRecord { s with clients := clients } =
      ((nextRecord s).1, { (nextRecord s).2 with clients := clients }) := by
  rcases s with ⟨_, _, _, _, _, _ | notices, _, _⟩ <;> rfl

theorem noticesAhead_withClients (fuel : Nat) (s : Server σ) (clients : Option ClientTable) :
    noticesAhead fuel { s with clients := clients } = noticesAhead fuel s := by
  induction fuel generalizing s with
  | zero => rfl
  | succ fuel ih =>
    rw [noticesAhead, noticesAhead, nextRecord_withClients]
    rcases nextRecord s with ⟨_ | _ | record, s'⟩
    · rfl
    · rfl
    · dsimp only
      rw [ih s']

/-! ## Confinement -/

open CapSpace (Terms)

variable {P : ClientId → Bool} {T : Terms σ} {s₀ s : Server (Journaled σ)}

/-- Since an earlier state nothing has changed but the sessions of chosen clients and the world: in
a server without clients nothing is at disposal, in any other the sessions are confined. -/
structure Confined (P : ClientId → Bool) (T : Terms σ) (s₀ s : Server (Journaled σ)) : Prop where
  station : s.station = s₀.station
  clients : (s₀.clients = none ∧ s.clients = none ∧ s.caps.Accounts T []) ∨
    ∃ t₀ t, s₀.clients = some t₀ ∧ s.clients = some t ∧ Sessions.Confined P T t₀ (t, s.caps)

/-- A property that the calls of a platform keep, and that does not depend on shared memory. -/
structure Respects (p : Platform (World σ)) (I : World (Journaled σ) → Prop) : Prop where
  calls : p.journaled.Keeps I
  memory : ∀ m w, I w → I (World.memoryPart.set m w)

namespace Confined

theorem inv (h : Confined P T s₀ s) : T.inv s.caps.world := by
  rcases h.clients with ⟨-, -, accounts⟩ | ⟨t₀, t, -, -, confined⟩
  · exact accounts.inv
  · exact confined.accounts.inv

theorem spared (h : Confined P T s₀ s) : ∃ recent, s.caps.world.journal = recent ++ T.since ∧
    ∀ e ∈ recent, e.slot ∉ Holding.slots T.kept := by
  rcases h.clients with ⟨-, -, accounts⟩ | ⟨t₀, t, -, -, confined⟩
  · exact accounts.spared
  · exact confined.accounts.spared

theorem valid (h : Confined P T s₀ s) {t : ClientTable} (ht : s.clients = some t) : t.Valid := by
  rcases h.clients with ⟨-, hnone, -⟩ | ⟨t₀, t', -, ht', confined⟩
  · rw [ht] at hnone
    cases hnone
  · cases ht.symm.trans ht'
    exact confined.valid

theorem session?_eq (h : Confined P T s₀ s) {id : ClientId} (hP : P id = false) :
    s.session? id = s₀.session? id := by
  rw [session?, session?]
  rcases h.clients with ⟨hnone₀, hnone, -⟩ | ⟨t₀, t, ht₀, ht, confined⟩
  · rw [hnone₀, hnone]
  · rw [ht₀, ht]
    exact confined.same id hP

/-- What leaves journal, slots and clients alone leaves the server confined. -/
theorem of_journal_eq (h : Confined P T s₀ s) {s' : Server (Journaled σ)}
    (hstation : s'.station = s.station) (hclients : s'.clients = s.clients)
    (hslots : s'.caps.slots = s.caps.slots)
    (hjournal : s'.caps.world.journal = s.caps.world.journal)
    (hinv : T.inv s'.caps.world) : Confined P T s₀ s' := by
  have hcaps : s'.caps = ⟨s.caps.slots, s'.caps.world⟩ := by rw [← hslots]
  refine ⟨hstation.trans h.station, ?_⟩
  rw [hclients, hcaps]
  rcases h.clients with ⟨hnone₀, hnone, accounts⟩ | ⟨t₀, t, ht₀, ht, confined⟩
  · exact .inl ⟨hnone₀, hnone, accounts.of_journal_eq hjournal hinv⟩
  · exact .inr ⟨t₀, t, ht₀, ht, confined.of_journal_eq hjournal hinv⟩

theorem on_world {α : Type} {x : Attempt (World (Journaled σ)) α} (h : Confined P T s₀ s)
    (hjournal : ∀ w, (x w).2.journal = w.journal) (hinv : x.Keeps T.inv) :
    Confined P T s₀ (x.on worldPart s).2 :=
  h.of_journal_eq rfl rfl rfl (hjournal s.caps.world) (hinv s.caps.world h.inv)

/-- Work on the clients of a server is confined if it is confined for every table. -/
theorem withClients {α : Type} {x : Attempt (Sessions (Journaled σ)) α} (h : Confined P T s₀ s)
    (hx : ∀ t₀ t, s.clients = some t → Sessions.Confined P T t₀ (t, s.caps) →
      Sessions.Confined P T t₀ (x (t, s.caps)).2) :
    Confined P T s₀ (Server.withClients x s).2 := by
  rcases h.clients with ⟨-, hnone, -⟩ | ⟨t₀, t, ht₀, ht, confined⟩
  · simp only [Server.withClients, hnone]
    exact h
  · simp only [Server.withClients, ht]
    exact ⟨h.station, .inr ⟨t₀, _, ht₀, rfl, hx t₀ t ht confined⟩⟩

/-! ### Requests -/

section Platforms

variable {p : Platform (World σ)} (hp : Respects p T.inv)

include hp

theorem connect (h : Confined P T s₀ s) (hfresh : ∀ id, s.session? id = none → P id = true)
    (msg : Message) : Confined P T s₀ (Server.connect p.journaled msg s).2 := by
  rw [Server.connect]
  split
  · rw [Attempt.bind_ok (Attempt.get_apply s)]
    refine h.withClients fun t₀ t ht confined => ?_
    refine confined.connect hp.calls (fun id hid => hfresh id ?_)
      (Sessions.connects confined.valid _ _)
    rw [session?, ht]
    exact hid
  · exact h

theorem setParamBuffer (h : Confined P T s₀ s) {client : ClientId} (hP : P client = true)
    (msg : Message) (size : Nat) :
    Confined P T s₀ (Server.setParamBuffer p.journaled.kernel client msg size s).2 :=
  h.withClients fun _ _ _ confined =>
    confined.setParamBuffer hp.calls.kernel hP (Sessions.setsBuffer _ _ _ _)

theorem disconnect (h : Confined P T s₀ s) {client : ClientId} (hP : P client = true) :
    Confined P T s₀ (Server.disconnect p.journaled.procs client s).2 :=
  h.withClients fun _ _ _ confined =>
    confined.disconnect hp.calls.procs hP (Sessions.disconnects _ _)

theorem sweep (h : Confined P T s₀ s) : Confined P T s₀ (Server.sweep p.journaled.kernel s).2 := by
  rcases h.clients with ⟨-, hnone, -⟩ | ⟨t₀, t, ht₀, ht, confined⟩
  · simp only [Server.sweep, hnone]
    exact h
  · simp only [Server.sweep, ht]
    exact ⟨h.station, .inr ⟨t₀, _, ht₀, rfl, confined.sweep hp.calls.kernel⟩⟩

end Platforms

theorem queueDeath (h : Confined P T s₀ s) {death : DeathId}
    (hP : ∀ id session, s.session? id = some session → session.deathId = some death → P id = true) :
    Confined P T s₀ (Server.queueDeath death s).2 := by
  refine h.withClients fun t₀ t ht confined => ?_
  refine confined.queueDeath fun id session hget hdeath => hP id session ?_ hdeath
  rw [session?, ht]
  exact hget

end Confined

/-! ## Requests of the connection protocol -/

/-- Looking up the client of a badge changes nothing, and finds only a client whose session has the
badge. -/
theorem clientOf_cases {s : Server σ} (hvalid : ∀ t, s.clients = some t → t.Valid) (badge : Badge) :
    (∃ e, clientOf badge s = (.error e, s)) ∨
      ∃ id session, clientOf badge s = (.ok id, s) ∧ s.session? id = some session ∧
        session.badge = badge := by
  rcases hs : s.clients with _ | t
  · refine .inl ⟨.unsupported, ?_⟩
    simp only [clientOf, Server.withClients, hs]
  · have hsame : ({ s with clients := some t, caps := s.caps } : Server σ) = s := by rw [← hs]
    rcases hfind : (t.clientId? badge).filter fun id => (t.get? id).isSome with _ | id
    · refine .inl ⟨.notFound, ?_⟩
      simp only [clientOf, Server.withClients, hs, Attempt.bind_apply, Attempt.get_apply, hfind,
        Attempt.orFail_none, Attempt.throw_apply]
      rw [hsame]
    · obtain ⟨hid, hlive⟩ := Option.filter_eq_some_iff.1 hfind
      obtain ⟨session, hget⟩ := Option.isSome_iff_exists.1 hlive
      have hbadge : t.getByBadge? badge = some session := by
        rw [ClientTable.getByBadge?, hid]
        exact hget
      refine .inr ⟨id, session, ?_, ?_, ((hvalid t hs).getByBadge?_eq_some_iff.1 hbadge).2⟩
      · simp only [clientOf, Server.withClients, hs, Attempt.bind_apply, Attempt.get_apply, hfind,
          Attempt.orFail_some, Attempt.pure_apply]
        rw [hsame]
      · rw [session?, hs]
        exact hget

/-- Reading a request leaves the badge of its message alone. -/
theorem badge_decode (msg : Message) : (Request.decode msg).2.badge = msg.badge := by
  have hpop : (Message.pop msg).2.badge = msg.badge := by
    rw [Message.pop]
    split <;> rfl
  rw [Request.decode, Attempt.bind_ok (Attempt.get_apply msg)]
  split
  · rfl
  split
  · rfl
  split
  · rw [Attempt.snd_bind fun _ _ => rfl]
    exact hpop
  split <;> rfl

/-- Work for the client of a badge is done for the session that has it, if there is one. -/
theorem settle_forClient {s : Server σ} (hvalid : ∀ t, s.clients = some t → t.Valid)
    (badge : Badge) (work : ClientId → Attempt (Server σ) Unit) :
    let after := ((do work (← clientOf badge); return {} : Attempt (Server σ) Answer) s).2
    after = s ∨ ∃ id session, s.session? id = some session ∧ session.badge = badge ∧
      after = (work id s).2 := by
  intro after
  rcases clientOf_cases hvalid badge with ⟨e, hclient⟩ | ⟨id, session, hclient, hid, hbadge⟩
  · have hafter : after = s := congrArg Prod.snd (Attempt.bind_error hclient)
    exact .inl hafter
  · have hafter : after = ((do work id; return {} : Attempt (Server σ) Answer) s).2 :=
      congrArg Prod.snd (Attempt.bind_ok hclient)
    exact .inr ⟨id, session, hid, hbadge, hafter.trans (Attempt.snd_bind (fun _ _ => rfl) s)⟩

/-- What holds before a request is carried out, and whatever its handler does, holds afterwards. -/
theorem settle_perform {C : Server σ → Prop} {svc : Service σ} {s : Server σ} {msg : Message}
    {request : Request} (hvalid : ∀ t, s.clients = some t → t.Valid) (hs : C s)
    (hconnect : request = .connect → msg.badge = Badge.none → C (svc.onConnect msg s).2)
    (hclient : ∀ id session, s.session? id = some session → session.badge = msg.badge →
      C (svc.onPing id s).2 ∧ (∀ size, C (svc.onSetParamBuffer id msg size s).2) ∧
        C (svc.onDisconnect id s).2) :
    C (perform svc msg request s).2 := by
  cases request with
  | connect =>
    rw [perform]
    split
    · next hbadge =>
      rw [Attempt.snd_bind fun _ _ => rfl]
      exact hconnect rfl hbadge
    · exact hs
  | ping =>
    rcases settle_forClient hvalid msg.badge svc.onPing with h | ⟨id, session, hid, hbadge, h⟩
    · exact h.symm ▸ hs
    · exact h.symm ▸ (hclient id session hid hbadge).1
  | setParamBuffer size =>
    rcases settle_forClient hvalid msg.badge fun id => svc.onSetParamBuffer id msg size.toNat with
      h | ⟨id, session, hid, hbadge, h⟩
    · exact h.symm ▸ hs
    · exact h.symm ▸ (hclient id session hid hbadge).2.1 size.toNat
  | disconnect =>
    rcases settle_forClient hvalid msg.badge svc.onDisconnect with
      h | ⟨id, session, hid, hbadge, h⟩
    · exact h.symm ▸ hs
    · exact h.symm ▸ (hclient id session hid hbadge).2.2

/-- What a notice does to a server that knows the connection protocol only. -/
theorem settle_onNotice (p : Platform (World σ)) (notice : Notice) (s : Server σ) :
    ((Service.basic p).onNotice notice s).2 =
      (announced notice).elim s fun death => (queueDeath death s).2 := by
  cases notice with
  | fault _ => rfl
  | content _ => rfl
  | death id => exact Attempt.snd_bind (fun _ _ => rfl) s

theorem queueDeath_of_none {s : Server σ} (h : s.clients = none) (death : DeathId) :
    queueDeath death s = (.error .unsupported, s) :=
  withClients_of_none h

theorem queueDeath_of_some {s : Server σ} {t : ClientTable} (h : s.clients = some t)
    (death : DeathId) :
    queueDeath death s = ((ClientTable.queueDeath death t).1,
      { s with clients := some (ClientTable.queueDeath death t).2 }) :=
  withClients_of_some h rfl

/-- Queueing a death changes nothing but the queue. -/
theorem queueDeath_spec (s : Server σ) (death : DeathId) :
    ∃ clients, (queueDeath death s).2 = { s with clients := clients } ∧
      ∀ id, (queueDeath death s).2.session? id = s.session? id := by
  rcases hs : s.clients with _ | t
  · rw [queueDeath_of_none hs]
    exact ⟨s.clients, rfl, fun _ => rfl⟩
  · have hget : ∀ id, (ClientTable.queueDeath death t).2.get? id = t.get? id := fun id => by
      rcases t.queueDeath_cases death with ⟨-, hnone⟩ | ⟨id', session, -, -, -, hqueue⟩
      · rw [hnone]
      · rw [hqueue]
        exact t.get?_queue id' id
    rw [queueDeath_of_some hs]
    refine ⟨some (ClientTable.queueDeath death t).2, rfl, fun id => ?_⟩
    simp only [session?, hs]
    exact hget id

theorem clients_nextRecord (s : Server σ) : (nextRecord s).2.clients = s.clients := by
  rcases s with ⟨_, _, _, _, _, _ | notices, _, _⟩ <;> rfl

namespace Confined

variable {p : Platform (World σ)} (hp : Respects p T.inv)

include hp

theorem nextRecord (h : Confined P T s₀ s) : Confined P T s₀ (Server.nextRecord s).2 := by
  refine h.of_journal_eq ?_ (clients_nextRecord s) ?_ ?_ ?_
  · rcases s with ⟨_, _, _, _, _, _ | notices, _, _⟩ <;> rfl
  · rcases s with ⟨_, _, _, _, _, _ | notices, _, _⟩ <;> rfl
  · rcases s with ⟨_, _, _, _, _, _ | notices, _, _⟩ <;> rfl
  · have hinv := h.inv
    rcases s with ⟨_, _, _, _, _, _ | notices, _, _⟩
    · exact hinv
    · exact hp.memory _ _ hinv

/-- A drain queues only sessions whose death the ring announces. -/
theorem drain (fuel : Nat) (h : Confined P T s₀ s)
    (hP : ∀ death ∈ (noticesAhead fuel s).filterMap announced, ∀ id session,
      s.session? id = some session → session.deathId = some death → P id = true)
    (handled : Nat) (failure : Option Failure) :
    Confined P T s₀ (Server.drain (.basic p.journaled) fuel handled failure s).2 := by
  induction fuel generalizing s handled failure with
  | zero =>
    rw [Server.drain, Attempt.ofExcept_apply]
    exact h
  | succ fuel ih =>
    have hnext := h.nextRecord hp
    have hclients := clients_nextRecord s
    by_cases hfound : ∃ record n,
        (Server.nextRecord s).1 = .ok (some record) ∧ record.notice = .ok n
    · obtain ⟨record, n, hfirst, hnotice⟩ := hfound
      obtain ⟨s', hs'⟩ : ∃ s', s' = (Server.nextRecord s).2 := ⟨_, rfl⟩
      rw [← hs'] at hnext hclients
      have hrecord : Server.nextRecord s = (.ok (some record), s') := Prod.ext hfirst hs'.symm
      obtain ⟨handled', failure', hdrain⟩ :=
        drain_goes_on (.basic p.journaled) hrecord hnotice fuel handled failure
      have hsession : ∀ id, s'.session? id = s.session? id := fun id => by
        rw [session?, session?, hclients]
      rw [noticesAhead, hrecord] at hP
      simp only [hnotice, List.filterMap_cons] at hP
      rw [hdrain, settle_onNotice]
      rcases hdeath : announced n with _ | death
      · refine ih hnext (fun d hd id session hid => ?_) handled' failure'
        rw [hsession] at hid
        rw [hdeath] at hP
        exact hP d hd id session hid
      · rw [hdeath] at hP
        obtain ⟨clients, hclients', hsame⟩ := queueDeath_spec s' death
        refine ih (hnext.queueDeath fun id session hid => ?_) (fun d hd id session hid => ?_)
          handled' failure'
        · rw [hsession] at hid
          exact hP death List.mem_cons_self id session hid
        · rw [hsame, hsession] at hid
          rw [hclients', noticesAhead_withClients] at hd
          exact hP d (List.mem_cons_of_mem _ hd) id session hid
    · rw [drain_ends _ fun record n hfirst hnotice => hfound ⟨record, n, hfirst, hnotice⟩]
      exact hnext

theorem perform (h : Confined P T s₀ s) {msg : Message}
    (hfresh : ∀ id, s.session? id = none → P id = true)
    (hbadge : ∀ id session, s.session? id = some session → session.badge = msg.badge → P id = true)
    (request : Request) :
    Confined P T s₀ (Server.perform (.basic p.journaled) msg request s).2 := by
  refine settle_perform (fun t => h.valid) h (fun _ _ => h.connect hp hfresh msg)
    fun id session hid hsession => ?_
  have haddressed := hbadge id session hid hsession
  exact ⟨h, h.setParamBuffer hp haddressed msg, h.disconnect hp haddressed⟩

theorem respond (h : Confined P T s₀ s) {msg : Message}
    (hfresh : ∀ id, s.session? id = none → P id = true)
    (hbadge : ∀ id session, s.session? id = some session → session.badge = msg.badge →
      P id = true) :
    Confined P T s₀ (Server.respond (.basic p.journaled) msg s).2.2 := by
  have hread := badge_decode msg
  rw [Server.respond]
  rcases hdecode : Request.decode msg with ⟨e | _ | request, read⟩
  · exact h
  · exact h
  · rw [hdecode] at hread
    rw [← hread] at hbadge
    exact h.perform hp hfresh hbadge request

/-- **Handling a message changes only what it addresses.** Whatever the message is and whatever the
kernel and the process server answer, no other session changes and no other slot is touched. -/
theorem handle (h : Confined P T s₀ s) {msg : Message}
    (hP : ∀ id, s.addresses msg id = true → P id = true) :
    Confined P T s₀ (Server.handle p.journaled.kernel (.basic p.journaled) msg s).2 := by
  rw [Server.handle]
  split
  · next hnotice =>
    refine h.drain hp s.drainBound (fun death hdeath id session hid hsession => hP id ?_) 0 none
    rw [addresses, hid]
    dsimp only
    rw [if_pos hnotice, hsession, Option.any_some, List.contains_iff_mem]
    exact hdeath
  · next hnotice =>
    have hrespond := h.respond hp (fun id hid => hP id (by rw [addresses, hid]))
      fun id session hid hsession => hP id (by
        rw [addresses, hid]
        dsimp only
        rw [if_neg hnotice, hsession, beq_self_eq_true])
    rcases hr : Server.respond (.basic p.journaled) msg s with ⟨outcome, _ | reply, s'⟩
    · rw [hr] at hrespond
      exact hrespond
    · rw [hr] at hrespond
      exact hrespond.on_world (fun _ => rfl) (hp.calls.kernel.reply reply)

end Confined

end Server

end CapServer
