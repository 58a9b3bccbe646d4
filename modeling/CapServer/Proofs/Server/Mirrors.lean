import CapServer.Proofs.Mirrors
import CapServer.Proofs.Server.Ownership

/-!
# A journal changes nothing

A map of the unknown part of a world leaves the shared memory as it is (`World.map`). If through
such a map the calls of a platform are seen as those of another one, then a server on the first is
seen as a server on the second: when it is brought up (`Server.mirrors_start`), in all that is done
with it, and when it is brought down (`Server.map_shutdown`).

Taking the journal away is such a map. What is shown of a server whose journal is kept is, apart
from the journal, shown of the server without one (`Server.start_plain`, `Server.run_plain`,
`Server.shutdown_plain`).
-/

namespace CapServer

variable {σ τ α : Type} {g : τ → σ}

/-- The same memory beside another rest. -/
def World.map (g : τ → σ) (w : World τ) : World σ := ⟨w.memory, g w.rest⟩

/-! ## Sessions -/

namespace Sessions

/-- The same sessions in another world. -/
def map (g : τ → σ) (s : Sessions τ) : Sessions σ := (s.1, s.2.map (World.map g))

variable {p : Platform (World τ)} {q : Platform (World σ)}

theorem mirrors_capsPart {x : Attempt (CapSpace (World τ)) α} {y : Attempt (CapSpace (World σ)) α}
    (h : x.Mirrors y (CapSpace.map (World.map g)) id) :
    (x.on capsPart).Mirrors (y.on capsPart) (map g) id :=
  h.on (fun _ => rfl) fun _ _ => rfl

theorem mirrors_worldPart {x : Attempt (World τ) α} {y : Attempt (World σ) α}
    (h : x.Mirrors y (World.map g) id) : (x.on worldPart).Mirrors (y.on worldPart) (map g) id :=
  h.on (fun _ => rfl) fun _ _ => rfl

theorem mirrors_tablePart (x : Attempt ClientTable α) :
    (x.on (tablePart (σ := τ))).Mirrors (x.on tablePart) (map g) id :=
  (Attempt.Mirrors.of_eq (f := id) fun _ => rfl).on (fun _ => rfl) fun _ _ => rfl

theorem mirrors_edit (client : ClientId) (f : Session → Session) :
    (modify (edit client f) : Attempt (Sessions τ) Unit).Mirrors (modify (edit client f)) (map g)
      id :=
  .modify fun _ => rfl

theorem mirrors_session (client : ClientId) :
    (session client : Attempt (Sessions τ) Session).Mirrors (session client) (map g) id := by
  unfold session
  exact Attempt.Mirrors.get.bind fun s => .orFail (s.1.get? client) .notFound

theorem mirrors_takeBuffer {k : Kernel (World τ)} {l : Kernel (World σ)}
    (hk : k.Mirrors l (World.map g)) (msg : Message) (size : Nat) :
    (takeBuffer k msg size).Mirrors (takeBuffer l msg size) (map g) id := by
  unfold takeBuffer
  refine .ite (fun _ => rfl) (.ite (.throw _) (.ite (.throw _) ?_))
  exact (mirrors_capsPart (CapSpace.mirrors_accept hk 0)).bind fun dataspace => .pure _

theorem mirrors_setParamBuffer {k : Kernel (World τ)} {l : Kernel (World σ)}
    (hk : k.Mirrors l (World.map g)) (client : ClientId) (msg : Message) (size : Nat) :
    (setParamBuffer k client msg size).Mirrors (setParamBuffer l client msg size) (map g) id := by
  unfold setParamBuffer
  refine (mirrors_session client).bind fun session => ?_
  refine (mirrors_takeBuffer hk msg size).bind fun buffer => ?_
  refine (mirrors_edit client _).bind fun _ => ?_
  dsimp only [id]
  rcases session.paramBuffer with _ | old
  · exact fun _ => rfl
  · exact (mirrors_capsPart (CapSpace.mirrors_reclaim hk old.dataspace)).tolerate

theorem mirrors_disconnect {s : ProcessServer (World τ)} {t : ProcessServer (World σ)}
    (hs : s.Mirrors t (World.map g)) (client : ClientId) :
    (disconnect s client).Mirrors (disconnect t client) (map g) id := by
  unfold disconnect
  refine (mirrors_session client).bind fun session => ?_
  refine (mirrors_tablePart (ClientTable.queueDelete client)).bind fun _ => ?_
  exact (mirrors_worldPart (hs.unwatch session.liveness)).tolerate

theorem mirrors_connect (hp : p.Mirrors q (World.map g)) (notifyEp : CapPtr) :
    (connect p notifyEp).Mirrors (connect q notifyEp) (map g) id := by
  unfold connect
  refine (mirrors_capsPart (CapSpace.mirrors_accept hp.kernel 0)).bind fun liveness => ?_
  refine (ClientTable.mirrors_alloc hp.kernel liveness).bind fun client => ?_
  refine (mirrors_session client).bind fun session => ?_
  refine (mirrors_worldPart (hp.procs.watch session.liveness notifyEp)).catching.bind fun a => ?_
  rcases a with e | death
  · refine (mirrors_tablePart (ClientTable.queueDelete client)).bind fun _ => ?_
    refine (Attempt.Mirrors.modify fun s => ?_).bind fun _ => .throw e
    exact congrArg Prod.snd (ClientTable.map_sweep hp.kernel s)
  · exact (mirrors_edit client _).bind fun _ => .pure client

end Sessions

/-! ## Servers -/

namespace Server

/-- The same server in another world. -/
def map (g : τ → σ) (s : Server τ) : Server σ :=
  ⟨s.config, s.caps.map (World.map g), s.anonEp, s.notifyAsyncEp, s.notifyEp, s.notices,
    s.paramBuffer, s.clients⟩

@[simp] theorem map_config (s : Server τ) : (s.map g).config = s.config := rfl

@[simp] theorem map_clients (s : Server τ) : (s.map g).clients = s.clients := rfl

theorem mirrors_withClients {x : Attempt (Sessions τ) α} {y : Attempt (Sessions σ) α}
    (h : x.Mirrors y (Sessions.map g) id) : (withClients x).Mirrors (withClients y) (map g) id := by
  refine .of_eq fun ⟨config, caps, anonEp, notifyAsyncEp, notifyEp, notices, paramBuffer,
    clients⟩ => ?_
  rcases clients with _ | t
  · rfl
  · have hx : y (t, caps.map (World.map g)) = _ := h.eq (t, caps)
    unfold withClients map
    dsimp only
    rw [hx]
    rfl

variable {p : Platform (World τ)} {q : Platform (World σ)} (hp : p.Mirrors q (World.map g))

theorem mirrors_worldPart {x : Attempt (World τ) α} {y : Attempt (World σ) α}
    (h : x.Mirrors y (World.map g) id) : (x.on worldPart).Mirrors (y.on worldPart) (map g) id :=
  h.on (fun _ => rfl) fun _ _ => rfl

theorem mirrors_clientOf (badge : Badge) :
    (clientOf badge : Attempt (Server τ) ClientId).Mirrors (clientOf badge) (map g) id := by
  unfold clientOf
  exact mirrors_withClients (Attempt.Mirrors.get.bind fun _ => .orFail _ _)

theorem mirrors_queueDeath (death : DeathId) :
    (queueDeath death : Attempt (Server τ) ClientId).Mirrors (queueDeath death) (map g) id :=
  mirrors_withClients (Sessions.mirrors_tablePart _)

section

include hp

theorem mirrors_connect (msg : Message) : (connect p msg).Mirrors (connect q msg) (map g) id := by
  unfold connect
  refine .ite ?_ (.throw _)
  exact Attempt.Mirrors.get.bind fun s =>
    mirrors_withClients (Sessions.mirrors_connect hp s.notifyEp)

theorem map_sweep (s : Server τ) :
    sweep q.kernel (s.map g) = Prod.map id (map g) (sweep p.kernel s) := by
  obtain ⟨config, caps, anonEp, notifyAsyncEp, notifyEp, notices, paramBuffer, clients⟩ := s
  rcases clients with _ | t
  · rfl
  · have hsweep : ClientTable.sweep q.kernel (t, caps.map (World.map g)) = _ :=
      ClientTable.map_sweep hp.kernel (t, caps)
    unfold sweep map
    dsimp only
    rw [hsweep]
    rfl

end

/-- Reading the ring has to do with memory only. -/
theorem mirrors_nextRecord :
    (nextRecord : Attempt (Server τ) (Option Record)).Mirrors nextRecord (map g) id := by
  refine .of_eq fun ⟨config, caps, anonEp, notifyAsyncEp, notifyEp, notices, paramBuffer,
    clients⟩ => ?_
  rcases notices with _ | notices <;> rfl

/-- Each handler of a service is seen as that of another one. -/
structure ServiceMirrors (svc : Service τ) (svc' : Service σ) (g : τ → σ) : Prop where
  onNotice : ∀ n, (svc.onNotice n).Mirrors (svc'.onNotice n) (map g) id
  dispatch : ∀ msg, (svc.dispatch msg).Mirrors (svc'.dispatch msg) (map g) id
  onConnect : ∀ msg, (svc.onConnect msg).Mirrors (svc'.onConnect msg) (map g) id
  onPing : ∀ client, (svc.onPing client).Mirrors (svc'.onPing client) (map g) id
  onSetParamBuffer : ∀ client msg size,
    (svc.onSetParamBuffer client msg size).Mirrors (svc'.onSetParamBuffer client msg size) (map g)
      id
  onDisconnect : ∀ client, (svc.onDisconnect client).Mirrors (svc'.onDisconnect client) (map g) id

section

include hp

theorem mirrors_basic : ServiceMirrors (.basic p) (.basic q) g where
  onNotice n := by
    cases n with
    | fault n => exact .throw _
    | content n => exact .throw _
    | death death => exact (mirrors_queueDeath death.toNat).bind fun _ => fun _ => rfl
  dispatch _ := fun _ => rfl
  onConnect msg := mirrors_connect hp msg
  onPing _ := fun _ => rfl
  onSetParamBuffer client msg size :=
    mirrors_withClients (Sessions.mirrors_setParamBuffer hp.kernel client msg size)
  onDisconnect client := mirrors_withClients (Sessions.mirrors_disconnect hp.procs client)

end

section

variable {svc : Service τ} {svc' : Service σ} (hsvc : ServiceMirrors svc svc' g)

include hsvc

theorem mirrors_drain (fuel handled : Nat) (failure : Option Failure) :
    (drain svc fuel handled failure).Mirrors (drain svc' fuel handled failure) (map g) id := by
  induction fuel generalizing handled failure with
  | zero => exact .ofExcept _
  | succ fuel ih =>
    unfold drain
    refine mirrors_nextRecord.bind fun record => ?_
    dsimp only [id]
    rcases record with _ | record
    · exact .ofExcept _
    · refine (Attempt.Mirrors.ofExcept record.notice).bind fun notice => ?_
      refine (hsvc.onNotice notice).catching.bind fun a => ?_
      rcases a with e | ⟨⟩
      · exact ih _ _
      · exact ih _ _

theorem mirrors_drainNotices : (drainNotices svc).Mirrors (drainNotices svc') (map g) id := by
  unfold drainNotices
  exact Attempt.Mirrors.get.bind fun s => mirrors_drain hsvc s.drainBound 0 none

theorem mirrors_perform (msg : Message) (request : Request) :
    (perform svc msg request).Mirrors (perform svc' msg request) (map g) id := by
  cases request with
  | connect =>
    refine .ite ?_ (.throw _)
    exact (hsvc.onConnect msg).bind fun client => Attempt.Mirrors.get.bind fun s => fun _ => rfl
  | ping =>
    exact (mirrors_clientOf msg.badge).bind fun client =>
      (hsvc.onPing client).bind fun _ => fun _ => rfl
  | setParamBuffer size =>
    exact (mirrors_clientOf msg.badge).bind fun client =>
      (hsvc.onSetParamBuffer client msg size.toNat).bind fun _ => fun _ => rfl
  | disconnect =>
    exact (mirrors_clientOf msg.badge).bind fun client =>
      (hsvc.onDisconnect client).bind fun _ => fun _ => rfl

theorem map_respond (msg : Message) (s : Server τ) :
    respond svc' msg (s.map g) = Prod.map id (Prod.map id (map g)) (respond svc msg s) := by
  unfold respond
  rcases Request.decode msg with ⟨e | _ | request, read⟩
  · rfl
  · dsimp only
    rw [(hsvc.dispatch read).eq]
    rcases svc.dispatch read s with ⟨e | _ | reply, s'⟩ <;> rfl
  · dsimp only
    rw [(mirrors_perform hsvc read request).eq]
    rfl

theorem map_handle {k : Kernel (World τ)} {l : Kernel (World σ)} (hk : k.Mirrors l (World.map g))
    (msg : Message) (s : Server τ) :
    handle l svc' msg (s.map g) = Prod.map id (map g) (handle k svc msg s) := by
  unfold handle
  by_cases hmsg : msg.badge = s.config.noticeBadge
  · rw [map_config, if_pos hmsg, if_pos hmsg, (mirrors_drainNotices hsvc).eq]
    rfl
  · rw [map_config, if_neg hmsg, if_neg hmsg, map_respond hsvc]
    rcases respond svc msg s with ⟨outcome, _ | reply, s'⟩
    · rfl
    · exact congrArg (Prod.mk outcome) ((mirrors_worldPart (hk.reply reply)).settle s')

end

section

include hp

theorem mirrors_serve :
    (serve p.kernel (.basic p)).Mirrors (serve q.kernel (.basic q)) (map g) id := by
  unfold serve
  refine Attempt.Mirrors.get.bind fun s => ?_
  refine (mirrors_worldPart (hp.kernel.receive s.anonEp)).bind fun msg => ?_
  refine Attempt.Mirrors.get.bind fun s => ?_
  dsimp only [id]
  rw [map_handle (mirrors_basic hp) hp.kernel]
  rcases handle p.kernel (.basic p) msg s with ⟨outcome, s'⟩
  dsimp only [Prod.map, id]
  rw [map_sweep hp]
  exact (Attempt.Mirrors.of_eq fun _ => rfl).bind fun _ => fun _ => rfl

/-! ## From the beginning to the end -/

theorem mirrors_create (size : Nat) :
    (MappedBuffer.create p.procs size).Mirrors (MappedBuffer.create q.procs size)
      (CapSpace.map (World.map g)) id := by
  unfold MappedBuffer.create
  refine CapSpace.mirrors_alloc.bind fun dataspace => ?_
  refine (CapSpace.mirrors_worldPart
    (hp.procs.openDataspace size dataspace)).catching.bind fun a => ?_
  rcases a with e | region
  · exact (CapSpace.mirrors_free dataspace).bind fun _ => .throw e
  · exact fun _ => rfl

theorem mirrors_openNotices (size : Nat) : (openNotices p.procs size).Mirrors
    (openNotices q.procs size) (CapSpace.map (World.map g)) id := by
  unfold openNotices
  refine .ite (fun _ => rfl) ((mirrors_create hp size).bind fun buffer => ?_)
  refine (CapSpace.mirrors_worldPart (hp.procs.registerNotices buffer.dataspace)).bind fun _ => ?_
  exact Attempt.Mirrors.get.bind fun c => fun _ => rfl

theorem mirrors_openParams (size : Nat) : (openParams p.procs size).Mirrors
    (openParams q.procs size) (CapSpace.map (World.map g)) id := by
  unfold openParams
  refine .ite (fun _ => rfl) ((mirrors_create hp size).bind fun buffer => ?_)
  exact (CapSpace.mirrors_worldPart
    (hp.procs.registerParams buffer.dataspace size)).bind fun _ => fun _ => rfl

end

variable {names : Option (NameResolver (World τ))} {names' : Option (NameResolver (World σ))}

/-- A name service that is there is seen as one that is there. -/
def NamesMirror (names : Option (NameResolver (World τ))) (names' : Option (NameResolver (World σ)))
    (g : τ → σ) : Prop :=
  Option.Rel (fun m n => m.Mirrors n (World.map g)) names names'

theorem mirrors_publish (hn : NamesMirror names names' g) (config : Config) (endpoint : CapPtr) :
    (publish names config endpoint).Mirrors (publish names' config endpoint)
      (CapSpace.map (World.map g)) id := by
  unfold publish
  rcases config.mountPoint with _ | path
  · exact fun _ => rfl
  · cases hn with
    | none => exact fun _ => rfl
    | some hn => exact CapSpace.mirrors_worldPart (hn.register config.nameServer path endpoint)

/-- A server that is brought up in one world is brought up in the other. -/
theorem mirrors_start (hp : p.Mirrors q (World.map g)) (hn : NamesMirror names names' g)
    (config : Config) :
    (start p names config).Mirrors (start q names' config) (CapSpace.map (World.map g))
      (map g) := by
  unfold start
  refine (Attempt.Mirrors.ofExcept config.checkBadges).bind fun _ => ?_
  refine (CapSpace.mirrors_allocFilled hp.procs.newEndpoint).bind fun anonEp => ?_
  refine (CapSpace.mirrors_allocFilled hp.procs.newAsyncEndpoint).bind fun notifyAsyncEp => ?_
  refine (CapSpace.mirrors_mint hp.kernel notifyAsyncEp config.noticeBadge).bind fun notifyEp => ?_
  refine (CapSpace.mirrors_worldPart (hp.kernel.bindNotification notifyAsyncEp)).bind fun _ => ?_
  refine (mirrors_publish hn config anonEp).bind fun _ => ?_
  refine (Attempt.Mirrors.ofExcept (openClients config anonEp)).bind fun clients => ?_
  refine (mirrors_openNotices hp config.notificationBufferSize).bind fun notices => ?_
  refine (mirrors_openParams hp config.paramBufferSize).bind fun paramBuffer => ?_
  exact Attempt.Mirrors.get.bind fun c => fun _ => rfl

theorem map_withdraw (hn : NamesMirror names names' g) (s : Server τ) :
    withdraw names' (s.map g) = (withdraw names s).map (World.map g) := by
  unfold withdraw
  rw [map_config]
  rcases s.config.mountPoint with _ | path
  · rfl
  · cases hn with
    | none => rfl
    | some hn =>
      exact (CapSpace.mirrors_worldPart (hn.unregister s.config.nameServer path)).settle s.caps

/-- A server that is brought down in one world is brought down in the other. -/
theorem map_shutdown (hp : p.Mirrors q (World.map g)) (hn : NamesMirror names names' g)
    (s : Server τ) :
    (s.map g).shutdown q.kernel names' = (s.shutdown p.kernel names).map (World.map g) := by
  unfold shutdown
  rw [map_withdraw hn, map_clients]
  rcases s.clients with _ | t
  · exact CapSpace.map_discardAll hp.kernel _ _
  · dsimp only
    rw [ClientTable.map_release hp.kernel]
    exact CapSpace.map_discardAll hp.kernel _ _

/-! ## Without the journal -/

theorem mirrors_journaled (p : Platform (World σ)) :
    p.journaled.Mirrors p (World.map Journaled.rest) where
  kernel := by constructor <;> intros <;> exact .of_eq fun _ => rfl
  procs := by constructor <;> intros <;> exact .of_eq fun _ => rfl

theorem namesMirror_journaled (names : Option (NameResolver (World σ))) :
    NamesMirror (names.map NameResolver.journaled) names Journaled.rest := by
  cases names with
  | none => exact .none
  | some n => exact .some ⟨fun _ _ _ => .of_eq fun _ => rfl, fun _ _ => .of_eq fun _ => rfl⟩

/-- The server without the journal. -/
def plain (s : Server (Journaled σ)) : Server σ := s.map Journaled.rest

variable (p : Platform (World σ)) (names : Option (NameResolver (World σ)))

/-- A server comes up whether a journal is kept or not, and is the same but for the journal. -/
theorem start_plain (config : Config) (c : CapSpace (World σ)) :
    start p names config c =
      ((start p.journaled (names.map NameResolver.journaled) config c.withJournal).1.map plain,
        (start p.journaled (names.map NameResolver.journaled) config c.withJournal).2.map
          (World.map Journaled.rest)) :=
  mirrors_start (mirrors_journaled p) (namesMirror_journaled names) config c.withJournal

theorem perform_plain (s : Server (Journaled σ)) (call : Call σ) :
    (call.journaled.perform p.journaled s).plain = call.perform p s.plain := by
  have hp := mirrors_journaled p
  cases call with
  | serve => exact ((mirrors_serve hp).settle s).symm
  | handle msg => exact (congrArg Prod.snd (map_handle (mirrors_basic hp) hp.kernel msg s)).symm
  | sweep => exact (congrArg Prod.snd (map_sweep hp s)).symm
  | connect msg => exact ((mirrors_connect hp msg).settle s).symm
  | setParamBuffer client msg size =>
    exact (((mirrors_basic hp).onSetParamBuffer client msg size).settle s).symm
  | disconnect client => exact (((mirrors_basic hp).onDisconnect client).settle s).symm
  | outside change => rfl

/-- Whatever is done with a server has the same effect whether a journal is kept or not. -/
theorem run_plain (s : Server (Journaled σ)) (calls : List (Call σ)) :
    (s.run p.journaled (calls.map Call.journaled)).plain = s.plain.run p calls := by
  induction calls generalizing s with
  | nil => rfl
  | cons call calls ih =>
    have hrest := ih (call.journaled.perform p.journaled s)
    rw [perform_plain] at hrest
    exact hrest

/-- Bringing a server down leaves the same slots in use whether a journal is kept or not. -/
theorem shutdown_plain (s : Server (Journaled σ)) :
    s.plain.shutdown p.kernel names =
      (s.shutdown p.journaled.kernel (names.map NameResolver.journaled)).map
        (World.map Journaled.rest) :=
  map_shutdown (mirrors_journaled p) (namesMirror_journaled names) s

end Server

end CapServer
