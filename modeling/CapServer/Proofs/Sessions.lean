import CapServer.Proofs.ClientTable
import CapServer.Server.Sessions

/-!
# What requests do to sessions

Each request of the connection protocol ends in one of a few ways, whatever the kernel and the
process server answer: `Sessions.Connects`, `Sessions.SetsBuffer` and `Sessions.Disconnects` list
them, one constructor a way, with what was called and the state that is left.

`Sessions.Confined P` says of sessions and the slots around them that nothing but the sessions of
the clients chosen by `P` has changed and nothing but their slots is at disposal. Requests about
chosen clients keep it (`Confined.connect`, `Confined.setParamBuffer`, `Confined.disconnect`,
`Confined.queueDeath`), and so does the sweep (`Confined.sweep`).
-/

namespace CapServer

/-! ## Requests for a buffer -/

namespace Message

/-- Nothing is attached, and the size is zero: the buffer is to be cleared. -/
def AsksNone (msg : Message) (size : Nat) : Prop := msg.caps.length = 0 ∧ size = 0

/-- One capability is attached, as such, and there is a size: this is to be the buffer. -/
def AsksBuffer (msg : Message) (size : Nat) : Prop :=
  msg.capsUnwrapped = 0 ∧ msg.caps.length = 1 ∧ 0 < size

theorem AsksBuffer.not_asksNone {msg : Message} {size : Nat} (h : msg.AsksBuffer size) :
    ¬ msg.AsksNone size := by
  rw [AsksBuffer] at h
  rw [AsksNone]
  omega

instance (msg : Message) (size : Nat) : Decidable (msg.AsksNone size) :=
  inferInstanceAs (Decidable (_ ∧ _))

instance (msg : Message) (size : Nat) : Decidable (msg.AsksBuffer size) :=
  inferInstanceAs (Decidable (_ ∧ _))

end Message

namespace Sessions

/-! ## Outcomes -/

section Outcomes

variable {σ : Type} {t : ClientTable} {c : CapSpace (World σ)}

/-- How opening a session ends. -/
inductive Connects (p : Platform (World σ)) (notifyEp : CapPtr) (t : ClientTable)
    (c : CapSpace (World σ)) : Except Failure ClientId × Sessions σ → Prop
  /-- The liveness capability could not be received. -/
  | unaccepted {e c₁} (accepted : CapSpace.accept p.kernel 0 c = (.error e, c₁)) :
      Connects p notifyEp t c (.error e, t, c₁)
  /-- There is no id. -/
  | exhausted {liveness c₁} (accepted : CapSpace.accept p.kernel 0 c = (.ok liveness, c₁))
      (taken : t.table.pool.alloc = none) :
      Connects p notifyEp t c (.error .resourceExhausted, t, c₁.discard p.kernel liveness)
  /-- The endpoint could not be minted. -/
  | unminted {liveness c₁ id pool e c₂}
      (accepted : CapSpace.accept p.kernel 0 c = (.ok liveness, c₁))
      (taken : t.table.pool.alloc = some (id, pool))
      (minted : CapSpace.mint p.kernel t.source (id + t.badgeBase) c₁ = (.error e, c₂)) :
      Connects p notifyEp t c (.error e, t.abandon pool id, c₂.discard p.kernel liveness)
  /-- The client could not be watched, and the session was ended again. -/
  | unwatched {liveness c₁ id pool endpoint c₂ e w}
      (accepted : CapSpace.accept p.kernel 0 c = (.ok liveness, c₁))
      (taken : t.table.pool.alloc = some (id, pool))
      (minted : CapSpace.mint p.kernel t.source (id + t.badgeBase) c₁ = (.ok endpoint, c₂))
      (watched : p.procs.watch liveness notifyEp c₂.world = (.error e, w)) :
      Connects p notifyEp t c (.error e, (ClientTable.sweep p.kernel ((t.enter pool
        ⟨id, id + t.badgeBase, liveness, endpoint, false, none, none⟩).queue id, ⟨c₂.slots, w⟩)).2)
  /-- The session is there. -/
  | opened {liveness c₁ id pool endpoint c₂ death w}
      (accepted : CapSpace.accept p.kernel 0 c = (.ok liveness, c₁))
      (taken : t.table.pool.alloc = some (id, pool))
      (minted : CapSpace.mint p.kernel t.source (id + t.badgeBase) c₁ = (.ok endpoint, c₂))
      (watched : p.procs.watch liveness notifyEp c₂.world = (.ok death, w)) :
      Connects p notifyEp t c (.ok id, t.enter pool
        ⟨id, id + t.badgeBase, liveness, endpoint, true, some death, none⟩, ⟨c₂.slots, w⟩)

theorem connects (ht : t.Valid) (p : Platform (World σ)) (notifyEp : CapPtr) :
    Connects p notifyEp t c (connect p notifyEp (t, c)) := by
  rcases haccept : CapSpace.accept p.kernel 0 c with ⟨e | liveness, c₁⟩
  · have h : connect p notifyEp (t, c) = (.error e, t, c₁) := by
      simp only [connect, Attempt.bind_apply, Attempt.on_apply, capsPart, Part.snd, haccept]
    rw [h]
    exact .unaccepted haccept
  have hon : (CapSpace.accept p.kernel 0).on capsPart (t, c) = (.ok liveness, t, c₁) := by
    simp only [Attempt.on_apply, capsPart, Part.snd, haccept]
  rcases ClientTable.alloc_cases ht p.kernel liveness c₁ with
    ⟨htaken, halloc⟩ | ⟨id, pool, htaken, ⟨endpoint, c₂, hmint, halloc⟩ | ⟨e, c₂, hmint, halloc⟩⟩
  · have h : connect p notifyEp (t, c) =
        (.error .resourceExhausted, t, c₁.discard p.kernel liveness) := by
      rw [connect, Attempt.bind_ok hon, Attempt.bind_error halloc]
    rw [h]
    exact .exhausted haccept htaken
  · have hget : ∀ s : Session, (t.enter pool s).get? s.id = some s := fun s => by
      rw [ClientTable.get?_enter, if_pos rfl]
    have hsession : ∀ s : Session, session (σ := σ) s.id (t.enter pool s, c₂) =
        (.ok s, t.enter pool s, c₂) := fun s => by
      simp only [session, Attempt.bind_apply, Attempt.get_apply, hget, Attempt.orFail_some,
        Attempt.pure_apply]
    rcases hwatch : p.procs.watch liveness notifyEp c₂.world with ⟨e | death, w⟩
    · have h : connect p notifyEp (t, c) = (.error e, (ClientTable.sweep p.kernel ((t.enter pool
          ⟨id, id + t.badgeBase, liveness, endpoint, false, none, none⟩).queue id,
            ⟨c₂.slots, w⟩)).2) := by
        have hlive := hget ⟨id, id + t.badgeBase, liveness, endpoint, false, none, none⟩
        have hqueue := ClientTable.queueDelete_of_isSome (Option.isSome_of_eq_some hlive)
        rw [connect, Attempt.bind_ok hon, Attempt.bind_ok halloc,
          Attempt.bind_ok (hsession ⟨id, _, _, _, _, _, _⟩)]
        simp only [Attempt.bind_apply, Attempt.catching_apply, Attempt.on_apply, worldPart,
          capsPart, tablePart, Part.snd, Part.fst, Part.comp, CapSpace.worldPart, hwatch, hqueue]
        rfl
      rw [h]
      exact .unwatched haccept htaken hmint hwatch
    · have h : connect p notifyEp (t, c) = (.ok id, t.enter pool
          ⟨id, id + t.badgeBase, liveness, endpoint, true, some death, none⟩, ⟨c₂.slots, w⟩) := by
        rw [connect, Attempt.bind_ok hon, Attempt.bind_ok halloc,
          Attempt.bind_ok (hsession ⟨id, _, _, _, _, _, _⟩)]
        simp only [Attempt.bind_apply, Attempt.catching_apply, Attempt.on_apply, worldPart,
          capsPart, Part.snd, Part.comp, CapSpace.worldPart, hwatch, Attempt.modify_apply,
          Attempt.pure_apply, edit]
        rw [ClientTable.modify_enter t pool ⟨id, _, _, _, _, _, _⟩ rfl]
      rw [h]
      exact .opened haccept htaken hmint hwatch
  · have h : connect p notifyEp (t, c) =
        (.error e, t.abandon pool id, c₂.discard p.kernel liveness) := by
      rw [connect, Attempt.bind_ok hon, Attempt.bind_error halloc]
    rw [h]
    exact .unminted haccept htaken hmint

theorem takeBuffer_of_asksNone {msg : Message} {size : Nat} (k : Kernel (World σ))
    (h : msg.AsksNone size) (s : Sessions σ) : takeBuffer k msg size s = (.ok none, s) := by
  rw [takeBuffer, if_pos (by simpa [Message.AsksNone] using h)]
  rfl

theorem takeBuffer_of_asksBuffer {msg : Message} {size : Nat} (k : Kernel (World σ))
    (h : msg.AsksBuffer size) (t : ClientTable) (c : CapSpace (World σ)) :
    takeBuffer k msg size (t, c) =
      ((CapSpace.accept k 0 c).1.map fun slot => some ⟨slot, size, 0⟩,
        t, (CapSpace.accept k 0 c).2) := by
  obtain ⟨hmask, hcaps, hsize⟩ := h
  rw [takeBuffer, if_neg (by simp; omega), if_neg (by simp [Message.carries, hmask, hcaps]),
    if_neg (by omega)]
  simp only [Attempt.bind_apply, Attempt.on_apply, capsPart, Part.snd]
  rcases CapSpace.accept k 0 c with ⟨e | slot, c'⟩ <;> rfl

/-- A request that is not in order does not get as far as to take a slot. -/
theorem takeBuffer_refused {msg : Message} {size : Nat} (k : Kernel (World σ))
    (hnone : ¬ msg.AsksNone size) (hbuffer : ¬ msg.AsksBuffer size) (s : Sessions σ) :
    ∃ e, takeBuffer k msg size s = (.error e, s) := by
  rw [takeBuffer, if_neg (by simpa [Message.AsksNone] using hnone)]
  by_cases hcarries : msg.carries 0 1 = true
  · have hsize : size = 0 := by
      simp only [Message.carries, Bool.and_eq_true, beq_iff_eq] at hcarries
      simp only [Message.AsksBuffer, hcarries, true_and] at hbuffer
      omega
    rw [if_neg (by simp [hcarries]), if_pos hsize]
    exact ⟨_, rfl⟩
  · rw [if_pos (by simpa using hcarries)]
    exact ⟨_, rfl⟩

/-- What is left when a session's buffer, if it had one, is revoked and released. -/
def dropBuffer (k : Kernel (World σ)) (s : Session) (c : CapSpace (World σ)) : CapSpace (World σ) :=
  s.paramBuffer.elim c fun old => (CapSpace.reclaim k old.dataspace).settle c

/-- How setting a parameter buffer ends. -/
inductive SetsBuffer (k : Kernel (World σ)) (client : ClientId) (t : ClientTable)
    (c : CapSpace (World σ)) : Except Failure Unit × Sessions σ → Prop
  /-- There is no such client, or the request is not in order. -/
  | refused {e} : SetsBuffer k client t c (.error e, t, c)
  /-- The buffer's capability could not be received. -/
  | unaccepted {e c₁} (accepted : CapSpace.accept k 0 c = (.error e, c₁)) :
      SetsBuffer k client t c (.error e, t, c₁)
  /-- The client has no buffer any more. -/
  | cleared {s} (found : t.get? client = some s) :
      SetsBuffer k client t c
        (.ok (), t.modify client fun s => { s with paramBuffer := none }, dropBuffer k s c)
  /-- The client has a new buffer. -/
  | replaced {s dataspace size c₁} (found : t.get? client = some s)
      (accepted : CapSpace.accept k 0 c = (.ok dataspace, c₁)) :
      SetsBuffer k client t c
        (.ok (), t.modify client fun s => { s with paramBuffer := some ⟨dataspace, size, 0⟩ },
          dropBuffer k s c₁)

theorem session_eq_ok {client : ClientId} {s : Session} (found : t.get? client = some s) :
    session (σ := σ) client (t, c) = (.ok s, t, c) := by
  simp only [session, Attempt.bind_apply, Attempt.get_apply, found, Attempt.orFail_some,
    Attempt.pure_apply]

/-- Once the new buffer is at hand, the rest depends on the old one alone. -/
theorem setParamBuffer_of_taken {k : Kernel (World σ)} {client : ClientId} {msg : Message}
    {size : Nat} {s : Session} {buffer : Option ParamBuffer} {c₁ : CapSpace (World σ)}
    (found : t.get? client = some s) (taken : takeBuffer k msg size (t, c) = (.ok buffer, t, c₁)) :
    setParamBuffer k client msg size (t, c) =
      (.ok (), t.modify client fun s => { s with paramBuffer := buffer }, dropBuffer k s c₁) := by
  rw [setParamBuffer, Attempt.bind_ok (session_eq_ok found), Attempt.bind_ok taken,
    Attempt.bind_ok (Attempt.modify_apply _ _), dropBuffer]
  rcases s.paramBuffer with _ | old <;> rfl

theorem setParamBuffer_of_untaken {k : Kernel (World σ)} {client : ClientId} {msg : Message}
    {size : Nat} {s : Session} {e : Failure} {c₁ : CapSpace (World σ)}
    (found : t.get? client = some s) (untaken : takeBuffer k msg size (t, c) = (.error e, t, c₁)) :
    setParamBuffer k client msg size (t, c) = (.error e, t, c₁) := by
  rw [setParamBuffer, Attempt.bind_ok (session_eq_ok found), Attempt.bind_error untaken]

theorem setParamBuffer_of_unknown {client : ClientId} (k : Kernel (World σ))
    (unknown : t.get? client = none) (msg : Message) (size : Nat) :
    setParamBuffer k client msg size (t, c) = (.error .notFound, t, c) := by
  simp only [setParamBuffer, session, Attempt.bind_apply, Attempt.get_apply, unknown,
    Attempt.orFail_none, Attempt.throw_apply]

theorem setsBuffer (k : Kernel (World σ)) (client : ClientId) (msg : Message) (size : Nat) :
    SetsBuffer k client t c (setParamBuffer k client msg size (t, c)) := by
  cases hget : t.get? client with
  | none =>
    rw [setParamBuffer_of_unknown k hget]
    exact .refused
  | some s =>
    by_cases hnone : msg.AsksNone size
    · rw [setParamBuffer_of_taken hget (takeBuffer_of_asksNone k hnone _)]
      exact .cleared hget
    by_cases hbuffer : msg.AsksBuffer size
    · have htake := takeBuffer_of_asksBuffer k hbuffer t c
      rcases haccept : CapSpace.accept k 0 c with ⟨e | dataspace, c₁⟩ <;> rw [haccept] at htake
      · rw [setParamBuffer_of_untaken hget htake]
        exact .unaccepted haccept
      · rw [setParamBuffer_of_taken hget htake]
        exact .replaced hget haccept
    · obtain ⟨e, htake⟩ := takeBuffer_refused k hnone hbuffer (t, c)
      rw [setParamBuffer_of_untaken hget htake]
      exact .refused

/-- How queueing a client's session ends. -/
inductive Disconnects (procs : ProcessServer (World σ)) (client : ClientId) (t : ClientTable)
    (c : CapSpace (World σ)) : Except Failure Unit × Sessions σ → Prop
  /-- There is no such client. -/
  | unknown (found : t.get? client = none) :
      Disconnects procs client t c (.error .notFound, t, c)
  /-- The session is queued, whatever the process server said. -/
  | queued {s a w} (found : t.get? client = some s)
      (unwatched : procs.unwatch s.liveness c.world = (a, w)) :
      Disconnects procs client t c (.ok (), t.queue client, ⟨c.slots, w⟩)

theorem disconnects (procs : ProcessServer (World σ)) (client : ClientId) :
    Disconnects procs client t c (disconnect procs client (t, c)) := by
  rcases hget : t.get? client with _ | s
  · have h : disconnect procs client (t, c) = (.error .notFound, t, c) := by
      simp only [disconnect, session, Attempt.bind_apply, Attempt.get_apply, hget,
        Attempt.orFail_none, Attempt.throw_apply]
    rw [h]
    exact .unknown hget
  · rcases hunwatch : procs.unwatch s.liveness c.world with ⟨a, w⟩
    have hqueue := ClientTable.queueDelete_of_isSome (Option.isSome_of_eq_some hget)
    have h : disconnect procs client (t, c) = (.ok (), t.queue client, ⟨c.slots, w⟩) := by
      simp only [disconnect, session, Attempt.bind_apply, Attempt.get_apply, hget,
        Attempt.orFail_some, Attempt.pure_apply, Attempt.on_apply, tablePart, Part.fst, hqueue,
        Attempt.tolerate_apply, worldPart, capsPart, Part.snd, Part.comp, CapSpace.worldPart,
        hunwatch]
    rw [h]
    exact .queued hget hunwatch

end Outcomes

/-! ## Confinement -/

open CapSpace (Terms)

variable {σ : Type} {P : ClientId → Bool} {T : Terms σ} {t₀ t : ClientTable}
  {c : CapSpace (World (Journaled σ))}

/-- The table is valid, only the sessions of chosen clients differ from those of an earlier table or
are queued, and what those sessions hold is all that is at disposal. -/
structure Confined (P : ClientId → Bool) (T : Terms σ) (t₀ : ClientTable)
    (s : Sessions (Journaled σ)) : Prop where
  valid : s.1.Valid
  same : ∀ id, P id = false → s.1.get? id = t₀.get? id
  badges : s.1.badgeBase = t₀.badgeBase ∧ s.1.badgeEnd = t₀.badgeEnd
  pending : ∀ id ∈ s.1.pending, P id = true
  accounts : s.2.Accounts T (s.1.holdingsOf P)

namespace Confined

/-- What leaves the journal alone leaves the sessions confined, and another property may be kept
from then on. -/
theorem withInv {I : World (Journaled σ) → Prop} (h : Confined P T t₀ (t, c))
    {w : World (Journaled σ)} (hw : w.journal = c.world.journal) (hI : I w) :
    Confined P ⟨T.since, T.kept, I⟩ t₀ (t, ⟨c.slots, w⟩) :=
  { h with accounts := h.accounts.withInv hw hI }

theorem of_journal_eq (h : Confined P T t₀ (t, c)) {w : World (Journaled σ)}
    (hw : w.journal = c.world.journal) (hinv : T.inv w) : Confined P T t₀ (t, ⟨c.slots, w⟩) :=
  h.withInv hw hinv

theorem queue (h : Confined P T t₀ (t, c)) {id : ClientId} (hid : (t.get? id).isSome = true)
    (hP : P id = true) : Confined P T t₀ (t.queue id, c) where
  valid := h.valid.queue hid
  same j hj := (t.get?_queue id j).trans (h.same j hj)
  badges := by
    have hbadges := h.badges
    rw [ClientTable.queue]
    split <;> exact hbadges
  pending j hj := by
    rcases ClientTable.mem_pending_queue.1 hj with hj | rfl
    · exact h.pending j hj
    · exact hP
  accounts := by
    rw [ClientTable.holdingsOf_queue]
    exact h.accounts

/-- A death notice queues the session that it is about. -/
theorem queueDeath (h : Confined P T t₀ (t, c)) {death : DeathId}
    (hP : ∀ id s, t.get? id = some s → s.deathId = some death → P id = true) :
    Confined P T t₀ ((ClientTable.queueDeath death t).2, c) := by
  rcases t.queueDeath_cases death with ⟨-, hnone⟩ | ⟨id, s, -, hget, hdeath, hqueue⟩
  · rw [hnone]
    exact h
  · rw [hqueue]
    exact h.queue (by rw [hget]; rfl) (hP id s hget hdeath)

/-- A new session is at disposal with what it holds. -/
theorem enter (h : Confined P T t₀ (t, c)) {pool : Pool} {s : Session}
    (htaken : t.table.pool.alloc = some (s.id, pool)) (hbadge : s.badge = s.id + t.badgeBase)
    (hP : P s.id = true) {c' : CapSpace (World (Journaled σ))}
    (hc' : c'.Accounts T (s.holdings ++ t.holdingsOf P)) :
    Confined P T t₀ (t.enter pool s, c') where
  valid := h.valid.enter htaken hbadge
  same j hj := by
    rw [ClientTable.get?_enter, if_neg]
    · exact h.same j hj
    · rintro rfl
      rw [hP] at hj
      cases hj
  badges := h.badges
  pending := h.pending
  accounts := hc'.perm
    (ClientTable.holdingsOf_enter (h.valid.get?_of_alloc htaken) pool hP).symm

section Kernels

variable {k : Kernel (World σ)} (hk : k.journaled.Keeps T.inv)

include hk

/-- The sweep ends sessions of chosen clients only. -/
theorem sweep (h : Confined P T t₀ (t, c)) :
    Confined P T t₀ (ClientTable.sweep k.journaled (t, c)).2 := by
  have hperm := ClientTable.holdingsOf_withoutAll (t := { t with pending := [] }) h.valid.nodup
    h.valid.live h.pending
  have hbadges := ClientTable.badges_withoutAll { t with pending := [] } t.pending
  rw [ClientTable.sweep_eq h.valid]
  refine ⟨h.valid.clearPending.withoutAll fun _ _ => List.not_mem_nil, fun j hj => ?_,
    ⟨hbadges.1.trans h.badges.1, hbadges.2.trans h.badges.2⟩, fun j hj => ?_,
    (h.accounts.perm hperm).discardAll hk⟩
  · rw [ClientTable.get?_withoutAll, if_neg]
    · exact h.same j hj
    · intro hmem
      rw [h.pending j hmem] at hj
      cases hj
  · rw [ClientTable.pending_withoutAll] at hj
    cases hj

theorem dropBuffer {s : Session} {owned : List Holding}
    (hc : c.Accounts T (Session.bufferHoldings s.paramBuffer ++ owned)) :
    (Sessions.dropBuffer k.journaled s c).Accounts T owned := by
  rw [Sessions.dropBuffer]
  rcases hbuffer : s.paramBuffer with _ | old
  · rw [hbuffer] at hc
    exact hc
  · rw [hbuffer] at hc
    exact hc.reclaim hk

/-- A chosen client's session gets another buffer, and the old one is dropped. -/
theorem swapBuffer (h : Confined P T t₀ (t, c)) {client : ClientId} {s : Session}
    (hget : t.get? client = some s) (hP : P client = true) (buffer : Option ParamBuffer)
    {c' : CapSpace (World (Journaled σ))}
    (hc' : c'.Accounts T (Session.bufferHoldings buffer ++ t.holdingsOf P)) :
    Confined P T t₀ (t.modify client fun s => { s with paramBuffer := buffer },
      Sessions.dropBuffer k.journaled s c') := by
  have hmodify := ClientTable.holdingsOf_modify hget (fun s => { s with paramBuffer := buffer }) hP
  have hperm : (Session.bufferHoldings buffer ++ t.holdingsOf P).Perm
      (Session.bufferHoldings s.paramBuffer ++
        (t.modify client fun s => { s with paramBuffer := buffer }).holdingsOf P) := by
    refine ((ClientTable.holdingsOf_perm hget hP).append_left _).trans
      (List.Perm.trans ?_ (hmodify.symm.append_left _))
    rw [Session.holdings, Session.holdings, List.append_assoc, List.append_assoc]
    exact ((List.perm_append_comm_assoc _ _ _).append_left _).trans
      ((List.perm_append_comm_assoc _ _ _).trans
        ((List.perm_append_comm_assoc _ _ _).append_left _))
  refine ⟨h.valid.modify client fun s => ⟨rfl, rfl⟩, fun j hj => ?_, h.badges, h.pending,
    dropBuffer hk (hc'.perm hperm)⟩
  rw [ClientTable.get?_modify, if_neg]
  · exact h.same j hj
  · rintro rfl
    rw [hP] at hj
    cases hj

/-- Setting a chosen client's buffer touches nothing but the buffers. -/
theorem setParamBuffer (h : Confined P T t₀ (t, c)) {client : ClientId} (hP : P client = true)
    {r : Except Failure Unit × Sessions (Journaled σ)}
    (hr : SetsBuffer k.journaled client t c r) : Confined P T t₀ r.2 := by
  cases hr with
  | refused => exact h
  | unaccepted accepted => exact { h with accounts := h.accounts.accept hk accepted }
  | cleared found => exact swapBuffer hk h found hP none h.accounts
  | @replaced s dataspace size c₁ found accepted =>
    exact swapBuffer hk h found hP (some ⟨dataspace, size, 0⟩) (h.accounts.accept hk accepted)

end Kernels

/-- Queueing a chosen client's session touches no slot. -/
theorem disconnect {procs : ProcessServer (World σ)} (hprocs : procs.journaled.Keeps T.inv)
    (h : Confined P T t₀ (t, c)) {client : ClientId} (hP : P client = true)
    {r : Except Failure Unit × Sessions (Journaled σ)}
    (hr : Disconnects procs.journaled client t c r) : Confined P T t₀ r.2 := by
  cases hr with
  | unknown found => exact h
  | @queued s a w found unwatched =>
    refine of_journal_eq (h.queue (by rw [found]; rfl) hP) ?_ ?_
    · exact Attempt.journal_on_plain unwatched
    · exact (hprocs.unwatch s.liveness).of_eq unwatched h.accounts.inv

/-- Opening a session touches no session that was there. -/
theorem connect {p : Platform (World σ)} (hp : p.journaled.Keeps T.inv)
    (h : Confined P T t₀ (t, c)) (hfresh : ∀ id, t.get? id = none → P id = true)
    {notifyEp : CapPtr} {r : Except Failure ClientId × Sessions (Journaled σ)}
    (hr : Connects p.journaled notifyEp t c r) : Confined P T t₀ r.2 := by
  cases hr with
  | unaccepted accepted => exact { h with accounts := h.accounts.accept hp.kernel accepted }
  | exhausted accepted taken =>
    exact { h with accounts := (h.accounts.accept hp.kernel accepted).discard hp.kernel }
  | unminted accepted taken minted =>
    have hc₂ := (h.accounts.accept hp.kernel accepted).mint hp.kernel minted
    exact { h with
      valid := h.valid.abandon taken
      accounts := hc₂.discard hp.kernel }
  | @unwatched liveness c₁ id pool endpoint c₂ e w accepted taken minted watched =>
    have hnone := h.valid.get?_of_alloc taken
    have hc₂ := (h.accounts.accept hp.kernel accepted).mint hp.kernel minted
    have hw := hc₂.of_journal_eq (Attempt.journal_on_plain watched)
      ((hp.procs.watch liveness notifyEp).of_eq watched hc₂.inv)
    refine sweep hp.kernel (queue (enter h taken rfl (hfresh id hnone) ?_) ?_ (hfresh id hnone))
    · exact hw.perm (List.Perm.swap _ _ _)
    · rw [ClientTable.get?_enter, if_pos rfl]
      rfl
  | @opened liveness c₁ id pool endpoint c₂ death w accepted taken minted watched =>
    have hnone := h.valid.get?_of_alloc taken
    have hc₂ := (h.accounts.accept hp.kernel accepted).mint hp.kernel minted
    have hw := hc₂.of_journal_eq (Attempt.journal_on_plain watched)
      ((hp.procs.watch liveness notifyEp).of_eq watched hc₂.inv)
    exact enter h taken rfl (hfresh id hnone) (hw.perm (List.Perm.swap _ _ _))

end Confined

end Sessions

end CapServer
