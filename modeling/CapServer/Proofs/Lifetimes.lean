import CapServer.Proofs.Sessions
import CapServer.Proofs.Sim.Watches

/-!
# How long sessions live

Two ways for a client table to go on. `ClientTable.Continues` says that no session has ended: each
is still there, as it was but for its buffer, and the queued ones are still queued.
`ClientTable.Swept` says that the queued ones have ended, and no others.

The sweep does the second. Requests do the first (`ClientTable.Continues.setParamBuffer`,
`ClientTable.Continues.disconnect`), with one exception: if a session is opened and its client
cannot be watched (`Sessions.Unwatched`), the queue is swept at once, with all that happens to be in
it (`ClientTable.Swept.connect`).
-/

namespace CapServer

namespace ClientTable

variable {σ : Type} {t₀ t t' : ClientTable} {c : CapSpace (World σ)}

/-! ## Ways to go on -/

/-- A valid table that gives out the badges of an earlier one. -/
structure InLine (t₀ t : ClientTable) : Prop where
  valid : t.Valid
  badges : t.badgeBase = t₀.badgeBase ∧ t.badgeEnd = t₀.badgeEnd

/-- No session has ended since an earlier table. -/
structure Continues (t₀ t : ClientTable) : Prop extends InLine t₀ t where
  live : ∀ id s₀, t₀.get? id = some s₀ → ∃ s, t.get? id = some s ∧ s.lasting = s₀.lasting
  queued : ∀ id ∈ t₀.pending, id ∈ t.pending

/-- The sessions queued in an earlier table have ended, and nothing else has changed. -/
structure Swept (t₀ t : ClientTable) : Prop extends InLine t₀ t where
  get?_eq : ∀ id, t.get? id = if id ∈ t₀.pending then none else t₀.get? id
  pending_eq : t.pending = []

theorem InLine.trans (h : InLine t₀ t) (h' : InLine t t') : InLine t₀ t' :=
  ⟨h'.valid, h'.badges.1.trans h.badges.1, h'.badges.2.trans h.badges.2⟩

namespace Continues

theorem refl (ht : t.Valid) : Continues t t :=
  ⟨⟨ht, rfl, rfl⟩, fun _ s hs => ⟨s, hs, rfl⟩, fun _ h => h⟩

theorem trans (h : Continues t₀ t) (h' : Continues t t') : Continues t₀ t' := by
  refine ⟨h.toInLine.trans h'.toInLine, fun id s₀ hs₀ => ?_,
    fun id hid => h'.queued id (h.queued id hid)⟩
  obtain ⟨s, hs, hlasting⟩ := h.live id s₀ hs₀
  obtain ⟨s', hs', hlasting'⟩ := h'.live id s hs
  exact ⟨s', hs', hlasting'.trans hlasting⟩

/-- No session that was there is touched. -/
theorem of_get?_eq (h : InLine t₀ t) (hget : ∀ id s, t₀.get? id = some s → t.get? id = some s)
    (hpending : ∀ id ∈ t₀.pending, id ∈ t.pending) : Continues t₀ t :=
  ⟨h, fun id s hs => ⟨s, hget id s hs, rfl⟩, hpending⟩

theorem queue (ht : t.Valid) {id : ClientId} (hid : (t.get? id).isSome = true) :
    Continues t (t.queue id) := by
  refine .of_get?_eq ⟨ht.queue hid, ?_⟩ (fun j s hs => (t.get?_queue id j).trans hs)
    fun j hj => mem_pending_queue.2 (.inl hj)
  rw [ClientTable.queue]
  split <;> exact ⟨rfl, rfl⟩

theorem enter (ht : t.Valid) {pool : Pool} {s : Session}
    (htaken : t.table.pool.alloc = some (s.id, pool)) (hbadge : s.badge = s.id + t.badgeBase) :
    Continues t (t.enter pool s) := by
  refine .of_get?_eq ⟨ht.enter htaken hbadge, rfl, rfl⟩ (fun j s' hs' => ?_) fun _ hj => hj
  rw [get?_enter, if_neg]
  · exact hs'
  · rintro rfl
    rw [ht.get?_of_alloc htaken] at hs'
    cases hs'

/-- Changing a session's buffer ends no session. -/
theorem modify (ht : t.Valid) (id : ClientId) {f : Session → Session}
    (hf : ∀ s, (f s).lasting = s.lasting) : Continues t (t.modify id f) := by
  have hid : ∀ s, (f s).id = s.id ∧ (f s).badge = s.badge := fun s =>
    ⟨show (f s).lasting.id = s.lasting.id from congrArg Session.id (hf s),
      show (f s).lasting.badge = s.lasting.badge from congrArg Session.badge (hf s)⟩
  refine ⟨⟨ht.modify id hid, rfl, rfl⟩, fun j s hs => ?_, fun _ hj => hj⟩
  rw [get?_modify]
  split
  · next hj =>
    rw [← hj, hs]
    exact ⟨f s, rfl, hf s⟩
  · exact ⟨s, hs, rfl⟩

/-! ## Requests -/

theorem setParamBuffer (ht : t.Valid) (k : Kernel (World σ)) (client : ClientId) (msg : Message)
    (size : Nat) : Continues t (Sessions.setParamBuffer k client msg size (t, c)).2.1 := by
  have hcase : Sessions.SetsBuffer k client t c (Sessions.setParamBuffer k client msg size (t, c)) :=
    Sessions.setsBuffer k client msg size
  generalize Sessions.setParamBuffer k client msg size (t, c) = r at hcase
  cases hcase with
  | refused => exact refl ht
  | unaccepted accepted => exact refl ht
  | cleared found => exact modify ht client fun _ => rfl
  | replaced found accepted => exact modify ht client fun _ => rfl

theorem disconnect (ht : t.Valid) (procs : ProcessServer (World σ)) (client : ClientId) :
    Continues t (Sessions.disconnect procs client (t, c)).2.1 := by
  have hcase : Sessions.Disconnects procs client t c (Sessions.disconnect procs client (t, c)) :=
    Sessions.disconnects procs client
  generalize Sessions.disconnect procs client (t, c) = r at hcase
  cases hcase with
  | unknown found => exact refl ht
  | queued found unwatched => exact queue ht (by rw [found]; rfl)

theorem queueDeath (ht : t.Valid) (death : DeathId) :
    Continues t (ClientTable.queueDeath death t).2 := by
  rcases t.queueDeath_cases death with ⟨-, hnone⟩ | ⟨id, s, -, hget, -, hqueue⟩
  · rw [hnone]
    exact refl ht
  · rw [hqueue]
    exact queue ht (by rw [hget]; rfl)

end Continues

/-- The sweep ends the queued sessions, and no others. -/
theorem Swept.sweep (ht : t.Valid) (k : Kernel (World σ)) :
    Swept t (ClientTable.sweep k (t, c)).2.1 := by
  rw [sweep_eq ht]
  exact ⟨⟨ht.clearPending.withoutAll fun _ _ => List.not_mem_nil,
    badges_withoutAll { t with pending := [] } t.pending⟩,
    get?_withoutAll { t with pending := [] } t.pending, pending_withoutAll _ _⟩

end ClientTable

namespace Sessions

variable {σ : Type} {p : Platform (World σ)} {notifyEp : CapPtr} {t : ClientTable}
  {c : CapSpace (World σ)}

/-- A session can be made, but the process server will not watch its client. -/
def Unwatched (p : Platform (World σ)) (notifyEp : CapPtr) (t : ClientTable)
    (c : CapSpace (World σ)) : Prop :=
  ∃ liveness c₁ id pool endpoint c₂ e w,
    CapSpace.accept p.kernel 0 c = (.ok liveness, c₁) ∧ t.table.pool.alloc = some (id, pool) ∧
      CapSpace.mint p.kernel t.source (id + t.badgeBase) c₁ = (.ok endpoint, c₂) ∧
      p.procs.watch liveness notifyEp c₂.world = (.error e, w)

end Sessions

namespace ClientTable

variable {σ : Type} {p : Platform (World σ)} {notifyEp : CapPtr} {t : ClientTable}
  {c : CapSpace (World σ)}

/-- Opening a session ends none, unless there is one to be ended at once. -/
theorem Continues.connect (ht : t.Valid) (h : ¬ Sessions.Unwatched p notifyEp t c) :
    Continues t (Sessions.connect p notifyEp (t, c)).2.1 := by
  have hcase : Sessions.Connects p notifyEp t c (Sessions.connect p notifyEp (t, c)) :=
    Sessions.connects ht p notifyEp
  generalize Sessions.connect p notifyEp (t, c) = r at hcase
  cases hcase with
  | unaccepted accepted => exact refl ht
  | exhausted accepted taken => exact refl ht
  | unminted accepted taken minted =>
    exact .of_get?_eq ⟨ht.abandon taken, rfl, rfl⟩ (fun _ _ hs => hs) fun _ hj => hj
  | unwatched accepted taken minted watched =>
    exact absurd ⟨_, _, _, _, _, _, _, _, accepted, taken, minted, watched⟩ h
  | opened accepted taken minted watched => exact enter ht taken rfl

/-- The new session is queued and the queue is swept: whatever was in it ends, too. -/
theorem Swept.connect (ht : t.Valid) (h : Sessions.Unwatched p notifyEp t c) :
    Swept t (Sessions.connect p notifyEp (t, c)).2.1 := by
  obtain ⟨liveness, c₁, id, pool, endpoint, c₂, e, w, haccept, htaken, hmint, hwatch⟩ := h
  have hcase : Sessions.Connects p notifyEp t c (Sessions.connect p notifyEp (t, c)) :=
    Sessions.connects ht p notifyEp
  generalize Sessions.connect p notifyEp (t, c) = r at hcase
  cases hcase with
  | unaccepted accepted => cases accepted.symm.trans haccept
  | exhausted accepted taken => cases taken.symm.trans htaken
  | unminted accepted taken minted =>
    cases accepted.symm.trans haccept
    cases taken.symm.trans htaken
    cases minted.symm.trans hmint
  | opened accepted taken minted watched =>
    cases accepted.symm.trans haccept
    cases taken.symm.trans htaken
    cases minted.symm.trans hmint
    cases watched.symm.trans hwatch
  | @unwatched liveness' c₁' id' pool' endpoint' c₂' e' w' accepted taken minted watched =>
    let s : Session := ⟨id', id' + t.badgeBase, liveness', endpoint', false, none, none⟩
    have henter : t.Continues (t.enter pool' s) := .enter ht taken rfl
    have hlive : ((t.enter pool' s).get? id').isSome = true := by
      rw [get?_enter, if_pos rfl]
      rfl
    have hqueue : (t.enter pool' s).Continues ((t.enter pool' s).queue id') :=
      .queue henter.valid hlive
    have hsweep : ((t.enter pool' s).queue id').Swept (ClientTable.sweep p.kernel
        ((t.enter pool' s).queue id', ⟨c₂'.slots, w'⟩)).2.1 := .sweep hqueue.valid p.kernel
    refine ⟨(henter.toInLine.trans hqueue.toInLine).trans hsweep.toInLine, fun j => ?_,
      hsweep.pending_eq⟩
    rw [hsweep.get?_eq, get?_queue, get?_enter]
    simp only [mem_pending_queue]
    by_cases hj : j = id'
    · rw [if_pos (.inr hj), hj, ht.get?_of_alloc taken, ite_self]
    · simp only [or_iff_left hj]
      rw [if_neg hj]
      rfl

end ClientTable

end CapServer
