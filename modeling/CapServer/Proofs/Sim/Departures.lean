import CapServer.Proofs.Ring.Room
import CapServer.Proofs.Sim.Watches

/-!
# How death watches go

The simulated process server is called in any order, while others work on the memory it shares with
them (`SimProcs.Call`). A watch leaves the list in three ways only: the client is not to be watched
any more, it is watched anew, or it is killed (`SimProcs.Departs`).

Killing takes the watch off the list before the death is posted. Where there is no ring, or one that
is full or damaged, the call fails and the watch is gone all the same (`SimProcs.Killed`); killing
once more finds nobody to kill. That these are all the ways, and that a death is lost in these cases
and in no other, is `SimProcs.watches_depart`.
-/

namespace CapServer

/-- The record that tells of the death of a watched client. -/
def Watch.obituary (w : Watch) : Record := (Notice.death (UInt64.ofNat w.deathId)).record

/-- A writer at its ring. -/
def Writer.outlet (w : Writer) (m : Memory) : Outlet := ⟨m.region w.region, w.cursor⟩

namespace SimProcs

/-! ## Calls -/

/-- What is asked of the process server, and what goes on around it. -/
inductive Call
  | newEndpoint (dest : CapPtr)
  | newAsyncEndpoint (dest : CapPtr)
  | watch (liveness notifyEp : CapPtr)
  | unwatch (liveness : CapPtr)
  | openDataspace (size : Nat) (dest : CapPtr)
  | registerNotices (dataspace : CapPtr)
  | registerParams (dataspace : CapPtr) (size : Nat)
  | kill (liveness : CapPtr)
  | post (n : Notice)
  | postRecord (record : Record)
  /-- The next watch fails. -/
  | watchFails
  /-- The next opening of a dataspace fails. -/
  | openFails
  /-- The other processes work on shared memory: a server drains its ring, say. -/
  | share (change : Memory → Memory)

namespace Call

/-- A reader takes the next record out of its ring. -/
def drain (reader : Reader) : Call :=
  share fun m => (Reader.readExact.settle ⟨reader, m, List.replicate Record.size 0⟩).memory

/-- Carry out a call, whether it succeeds or not. -/
def perform : Call → Run → Run
  | newEndpoint dest => (SimProcs.newEndpoint dest).settle
  | newAsyncEndpoint dest => (SimProcs.newAsyncEndpoint dest).settle
  | watch liveness notifyEp => (SimProcs.watch liveness notifyEp).settle
  | unwatch liveness => (SimProcs.unwatch liveness).settle
  | openDataspace size dest => (SimProcs.openDataspace size dest).settle
  | registerNotices dataspace => (SimProcs.registerNotices dataspace).settle
  | registerParams dataspace size => (SimProcs.registerParams dataspace size).settle
  | kill liveness => (SimProcs.kill liveness).settle
  | post n => (SimProcs.post n).settle
  | postRecord record => (SimProcs.postRecord record).settle
  | watchFails => fun r => (r.1, { r.2 with watchFails := true })
  | openFails => fun r => (r.1, { r.2 with openFails := true })
  | share change => fun r => (change r.1, r.2)

end Call

/-- The process server and its memory after one call after the other. -/
def after (r : Run) (calls : List Call) : Run := calls.foldl (fun r call => call.perform r) r

/-! ## Killing -/

/-- Why the death of a watched client cannot be told. -/
inductive Untold (r : Run) : Failure → Prop
  /-- There is no ring to tell it in. -/
  | unregistered (h : r.2.notices = none) : Untold r .unsupported
  /-- The ring has no room for one more record. -/
  | full {writer : Writer} (hring : r.2.notices = some writer) (hsound : ¬ writer.Astray r.1)
      (hfull : writer.room r.1 < Record.size) : Untold r .resourceExhausted
  /-- A cursor of the ring is damaged, or there is no payload. -/
  | damaged {writer : Writer} (hring : r.2.notices = some writer) (hastray : writer.Astray r.1) :
      Untold r .malformed

/-- All that killing the client of a watch may answer and leave. -/
inductive Killed (w : Watch) (r : Run) : Except Failure Watch × Run → Prop
  /-- The watch goes, and one record that tells of the death is appended to the ring. -/
  | told {writer : Writer} (hring : r.2.notices = some writer) (hsound : ¬ writer.Astray r.1)
      (hroom : Record.size ≤ writer.room r.1) {o : Outlet}
      (hwritten : (writer.outlet r.1).Written w.obituary.toBytes o) :
      Killed w r (.ok w, r.1.put writer.region o.region,
        { r.2.strike w.liveness with notices := some { writer with cursor := o.cursor } })
  /-- The watch goes, and nothing else happens. -/
  | lost {e : Failure} (h : Untold r e) : Killed w r (.error e, r.1, r.2.strike w.liveness)

variable {r : Run} {w : Watch} {liveness : CapPtr}

section Posting

variable {n : Notice} {writer : Writer}

theorem post_unregistered (h : r.2.notices = none) : post n r = (.error .unsupported, r) := by
  simp only [post, posting, h]

theorem post_registered (hring : r.2.notices = some writer) {a : Except Failure Unit} {o : Outlet}
    (h : Outlet.write n.record.toBytes (writer.outlet r.1) = (a, o)) :
    post n r = (a, r.1.put writer.region o.region,
      { r.2 with notices := some { writer with cursor := o.cursor } }) := by
  rw [Writer.outlet] at h
  simp only [post, posting, hring, Writer.post, Writer.postRecord, Writer.write, h]

/-- What the ring refuses changes nothing. -/
theorem post_refused (hring : r.2.notices = some writer) {e : Failure}
    (h : Outlet.write n.record.toBytes (writer.outlet r.1) = (.error e, writer.outlet r.1)) :
    post n r = (.error e, r) := by
  rw [post_registered hring h, Writer.outlet, Memory.put_region, ← hring]

end Posting

/-- Killing does what it may: the watch goes, and then posting answers as writing does. -/
theorem killed_kill (h : r.2.watch? liveness = some w) : Killed w r (kill liveness r) := by
  obtain rfl := liveness_of_watch? h
  rw [kill_of_watched h]
  rcases hring : r.2.notices with _ | writer
  · have hstruck : ((r.1, r.2.strike w.liveness) : Run).2.notices = none := hring
    rw [Attempt.bind_error (post_unregistered hstruck)]
    exact .lost (.unregistered hring)
  · have hstruck : ((r.1, r.2.strike w.liveness) : Run).2.notices = some writer := hring
    have hwrites := Outlet.writes_write (writer.outlet r.1) w.obituary.toBytes
    generalize hresult : Outlet.write w.obituary.toBytes (writer.outlet r.1) = result at hwrites
    cases hwrites with
    | malformed hastray =>
      rw [Attempt.bind_error (post_refused hstruck hresult)]
      exact .lost (.damaged hring hastray)
    | exhausted hsound hfull =>
      rw [Attempt.bind_error (post_refused hstruck hresult)]
      rw [Record.length_toBytes] at hfull
      exact .lost (.full hring hsound hfull)
    | written hsound hroom hwritten =>
      rw [Attempt.bind_ok (post_registered hstruck hresult)]
      rw [Record.length_toBytes] at hroom
      exact .told hring hsound hroom hwritten

theorem Killed.watches_eq {result : Except Failure Watch × Run} (h : Killed w r result) :
    result.2.2.watches = r.2.watches.eraseP fun v => v.liveness == w.liveness := by
  cases h <;> rfl

/-! ## How a watch goes -/

/-- The ways for a watch to be taken off the list. -/
inductive Departs (w : Watch) (r : Run) : Call → Prop
  /-- The client is not to be watched any more. -/
  | unwatched : Departs w r (.unwatch w.liveness)
  /-- The client is watched anew. -/
  | replaced (notifyEp : CapPtr) (h : r.2.watchFails = false) :
      Departs w r (.watch w.liveness notifyEp)
  /-- The client is killed, and its death told or lost. -/
  | killed (h : Killed w r (kill w.liveness r)) : Departs w r (.kill w.liveness)

theorem posting_watches (x : Attempt (Writer × Memory) Unit) (r : Run) :
    ((posting x).settle r).2.watches = r.2.watches := by
  obtain ⟨m, s⟩ := r
  simp only [Attempt.settle, posting]
  split <;> rfl

/-- All that a call may do to the watches. -/
theorem watches_perform (call : Call) (r : Run) :
    (call.perform r).2.watches = r.2.watches ∨
    (∃ liveness notifyEp, call = .watch liveness notifyEp ∧ r.2.watchFails = false ∧
      (call.perform r).2.watches = (r.2.watches.filter fun w => w.liveness != liveness) ++
        [⟨liveness, notifyEp, r.2.lastDeath + 1⟩]) ∨
    (∃ liveness, call = .unwatch liveness ∧
      (call.perform r).2.watches = r.2.watches.filter fun w => w.liveness != liveness) ∨
    ∃ liveness, call = .kill liveness ∧
      (call.perform r).2.watches = r.2.watches.eraseP fun w => w.liveness == liveness := by
  cases call with
  | newEndpoint dest => exact .inl rfl
  | newAsyncEndpoint dest => exact .inl rfl
  | watch liveness notifyEp =>
    by_cases hfails : r.2.watchFails = true
    · left
      simp only [Call.perform, Attempt.settle, SimProcs.watch, hfails, if_true]
    · rw [Bool.not_eq_true] at hfails
      refine .inr (.inl ⟨liveness, notifyEp, rfl, hfails, ?_⟩)
      simp only [Call.perform, Attempt.settle, SimProcs.watch, hfails, Bool.false_eq_true, if_false]
  | unwatch liveness =>
    by_cases hnone : (r.2.watch? liveness).isNone = true
    · left
      simp only [Call.perform, Attempt.settle, SimProcs.unwatch, hnone, if_true]
    · refine .inr (.inr (.inl ⟨liveness, rfl, ?_⟩))
      simp only [Call.perform, Attempt.settle, SimProcs.unwatch, hnone, Bool.false_eq_true,
        if_false]
  | openDataspace size dest =>
    left
    simp only [Call.perform, Attempt.settle, SimProcs.openDataspace]
    split <;> rfl
  | registerNotices dataspace =>
    left
    simp only [Call.perform, Attempt.settle, SimProcs.registerNotices]
    split <;> rfl
  | registerParams dataspace size =>
    left
    simp only [Call.perform, Attempt.settle, SimProcs.registerParams]
    split <;> rfl
  | kill liveness =>
    rcases hwatch : r.2.watch? liveness with _ | w
    · left
      simp only [Call.perform, Attempt.settle, kill_of_unwatched hwatch]
    · refine .inr (.inr (.inr ⟨liveness, rfl, ?_⟩))
      obtain rfl := liveness_of_watch? hwatch
      exact (killed_kill hwatch).watches_eq
  | post n => exact .inl (posting_watches _ r)
  | postRecord record => exact .inl (posting_watches _ r)
  | watchFails => exact .inl rfl
  | openFails => exact .inl rfl
  | share change => exact .inl rfl

theorem liveness_of_not_mem_filter {l : List Watch} (hthere : w ∈ l)
    (hgone : w ∉ l.filter fun v => v.liveness != liveness) : w.liveness = liveness := by
  rw [List.mem_filter, bne_iff_ne] at hgone
  exact Decidable.not_not.1 fun hne => hgone ⟨hthere, hne⟩

/-- What is not there any more once the first of a kind was erased was the first of its kind. -/
theorem find?_of_not_mem_eraseP {α : Type} {p : α → Bool} {a : α} {l : List α} (hthere : a ∈ l)
    (hgone : a ∉ l.eraseP p) : l.find? p = some a := by
  induction l with
  | nil => cases hthere
  | cons b l ih =>
    by_cases hb : p b = true
    · rw [List.eraseP_cons_of_pos hb] at hgone
      rw [List.find?_cons_of_pos hb, (List.mem_cons.1 hthere).resolve_right hgone]
    · rw [List.eraseP_cons_of_neg hb, List.mem_cons, not_or] at hgone
      rw [List.find?_cons_of_neg hb]
      exact ih ((List.mem_cons.1 hthere).resolve_left hgone.1) hgone.2

/-- A watch that a call takes off the list goes in one of three ways. -/
theorem departs_of_perform {call : Call} (hthere : w ∈ r.2.watches)
    (hgone : w ∉ (call.perform r).2.watches) : Departs w r call := by
  rcases watches_perform call r with hsame | ⟨liveness, notifyEp, rfl, hfails, hwatches⟩ |
    ⟨liveness, rfl, hwatches⟩ | ⟨liveness, rfl, hwatches⟩
  · exact absurd (hsame ▸ hthere) hgone
  · rw [hwatches, List.mem_append, not_or] at hgone
    obtain rfl := liveness_of_not_mem_filter hthere hgone.1
    exact .replaced notifyEp hfails
  · rw [hwatches] at hgone
    obtain rfl := liveness_of_not_mem_filter hthere hgone
    exact .unwatched
  · rw [hwatches] at hgone
    have hwatch : r.2.watch? liveness = some w := find?_of_not_mem_eraseP hthere hgone
    obtain rfl := liveness_of_watch? hwatch
    exact .killed (killed_kill hwatch)

/-- A watch that is gone after some calls went with one of them. -/
theorem departs_of_after {calls : List Call} (hthere : w ∈ r.2.watches)
    (hgone : w ∉ (after r calls).2.watches) :
    ∃ before call rest, calls = before ++ call :: rest ∧
      w ∈ (after r before).2.watches ∧ w ∉ (after r (before ++ [call])).2.watches ∧
      Departs w (after r before) call := by
  induction calls generalizing r with
  | nil => exact absurd hthere hgone
  | cons call calls ih =>
    by_cases hnext : w ∈ (call.perform r).2.watches
    · obtain ⟨before, last, rest, rfl, hin, hout, hdeparts⟩ := ih hnext hgone
      exact ⟨call :: before, last, rest, rfl, hin, hout, hdeparts⟩
    · exact ⟨[], call, calls, rfl, hthere, hnext, departs_of_perform hthere hnext⟩

/-! ## Killed twice -/

/-- No client is watched twice. -/
def Single (s : SimProcs) : Prop := s.watches.Pairwise fun v w => v.liveness ≠ w.liveness

theorem unwatched_iff {s : SimProcs} :
    s.watch? liveness = none ↔ ∀ w ∈ s.watches, w.liveness ≠ liveness := by
  simp only [watch?, List.find?_eq_none, beq_iff_eq, ne_eq]

theorem single_perform (h : r.2.Single) (call : Call) : (call.perform r).2.Single := by
  rcases watches_perform call r with hsame | ⟨liveness, notifyEp, -, -, hwatches⟩ |
    ⟨liveness, -, hwatches⟩ | ⟨liveness, -, hwatches⟩
  · rwa [Single, hsame]
  · rw [Single, hwatches, List.pairwise_append]
    refine ⟨h.filter _, List.pairwise_singleton _ _, fun v hv w hw => ?_⟩
    rw [List.mem_singleton.1 hw]
    exact bne_iff_ne.1 (List.mem_filter.1 hv).2
  · rw [Single, hwatches]
    exact h.filter _
  · rw [Single, hwatches]
    exact h.sublist List.eraseP_sublist

theorem single_after (h : r.2.Single) (calls : List Call) : (after r calls).2.Single := by
  induction calls generalizing r with
  | nil => exact h
  | cons call calls ih => exact ih (single_perform h call)

/-- A client stays without a watch until it is watched anew. -/
theorem unwatched_perform {call : Call} (h : r.2.watch? liveness = none)
    (hcall : ∀ notifyEp, call ≠ .watch liveness notifyEp) :
    (call.perform r).2.watch? liveness = none := by
  rw [unwatched_iff] at h ⊢
  intro w hw
  rcases watches_perform call r with hsame | ⟨other, notifyEp, rfl, -, hwatches⟩ |
    ⟨other, -, hwatches⟩ | ⟨other, -, hwatches⟩
  · exact h w (hsame ▸ hw)
  · rw [hwatches, List.mem_append, List.mem_singleton] at hw
    rcases hw with hw | rfl
    · exact h w (List.mem_filter.1 hw).1
    · rintro rfl
      exact hcall notifyEp rfl
  · exact h w (List.mem_filter.1 (hwatches ▸ hw)).1
  · exact h w (List.mem_of_mem_eraseP (hwatches ▸ hw))

theorem unwatched_after {calls : List Call} (h : r.2.watch? liveness = none)
    (hcalls : ∀ notifyEp, Call.watch liveness notifyEp ∉ calls) :
    (after r calls).2.watch? liveness = none := by
  induction calls generalizing r with
  | nil => exact h
  | cons call calls ih =>
    refine ih (unwatched_perform h fun notifyEp heq => hcalls notifyEp ?_) fun notifyEp hmem =>
      hcalls notifyEp (List.mem_cons_of_mem _ hmem)
    rw [heq]
    exact List.mem_cons_self

theorem unwatched_strike {s : SimProcs} (h : s.Single) (hwatch : s.watch? liveness = some w) :
    (s.strike liveness).watch? liveness = none := by
  obtain ⟨v, front, back, hfront, hv, hsplit, herase⟩ :=
    List.exists_of_eraseP (p := fun v : Watch => v.liveness == liveness)
      (List.mem_of_find?_eq_some hwatch) (beq_iff_eq.2 (liveness_of_watch? hwatch))
  rw [Single, hsplit] at h
  have hback : ∀ u ∈ back, v.liveness ≠ u.liveness :=
    (List.pairwise_cons.1 (List.pairwise_append.1 h).2.1).1
  rw [unwatched_iff, strike, herase]
  intro u hu
  rcases List.mem_append.1 hu with hu | hu
  · exact fun heq => hfront u hu (beq_iff_eq.2 heq)
  · exact fun heq => hback u hu ((beq_iff_eq.1 hv).trans heq.symm)

/-- Where no client is watched twice, one that was killed is watched no longer. -/
theorem unwatched_kill (h : r.2.Single) (liveness : CapPtr) :
    ((Call.kill liveness).perform r).2.watch? liveness = none := by
  rcases hwatch : r.2.watch? liveness with _ | w
  · simp only [Call.perform, Attempt.settle, kill_of_unwatched hwatch, hwatch]
  · have hliveness := liveness_of_watch? hwatch
    have hwatches := (killed_kill hwatch).watches_eq
    have hnone := unwatched_strike h hwatch
    rw [hliveness] at hwatches
    rw [watch?, Call.perform, Attempt.settle, hwatches]
    exact hnone

/-- **A watch goes because its client is not to be watched any more, is watched anew, or is killed;
and killing takes the watch whether the death was told or not.** The death of a watched client is
lost if there is no ring, if the ring has no room for a record or if it is damaged, and not
otherwise. Killing the client once more, for another try, then finds no watch until there is a new
one. -/
theorem watches_depart (start : Run) (calls : List Call) :
    (∀ w ∈ start.2.watches, w ∉ (after start calls).2.watches →
      ∃ before call rest, calls = before ++ call :: rest ∧
        w ∈ (after start before).2.watches ∧ w ∉ (after start (before ++ [call])).2.watches ∧
        Departs w (after start before) call) ∧
    (∀ liveness w, (after start calls).2.watch? liveness = some w →
      Killed w (after start calls) (kill liveness (after start calls))) ∧
    (∀ liveness, (after start calls).2.watch? liveness = none →
      kill liveness (after start calls) = (.error .notFound, after start calls)) ∧
    (start.2.Single → ∀ liveness before rest, calls = before ++ .kill liveness :: rest →
      (∀ notifyEp, .watch liveness notifyEp ∉ rest) →
        kill liveness (after start calls) = (.error .notFound, after start calls)) := by
  refine ⟨fun w => departs_of_after, fun liveness w => killed_kill,
    fun liveness => kill_of_unwatched, ?_⟩
  rintro hsingle liveness before rest rfl hrest
  refine kill_of_unwatched ?_
  rw [after, List.foldl_append, List.foldl_cons]
  exact unwatched_after (unwatched_kill (single_after hsingle before) liveness) hrest

/-- Two clients are watched, and the ring has room for the record of one death. -/
def twoWatched : Run :=
  after (.empty, .empty)
    [.openDataspace 160 7, .registerNotices 7, .watch 5 9, .watch 6 9]

/-- Both are killed: the second watch goes too, and trying again after a drain finds none. -/
theorem watches_depart_twoWatched :
    let calls := [.kill 5, .kill 6, .drain ⟨0, 0⟩]
    (∃ before call rest, calls = before ++ call :: rest ∧
      Departs ⟨6, 9, 2⟩ (after twoWatched before) call) ∧
    kill 6 (after twoWatched calls) = (.error .notFound, after twoWatched calls) := by
  intro calls
  obtain ⟨hdepart, -, -, hagain⟩ := watches_depart twoWatched calls
  have hwatches : (after twoWatched calls).2.watches = [] := rfl
  obtain ⟨before, call, rest, hsplit, -, -, hdeparts⟩ :=
    hdepart ⟨6, 9, 2⟩ (by decide) (hwatches ▸ List.not_mem_nil)
  have hsingle : twoWatched.2.Single := by
    rw [Single]
    decide
  refine ⟨⟨before, call, rest, hsplit, hdeparts⟩, ?_⟩
  exact hagain hsingle 6 [.kill 5] [.drain ⟨0, 0⟩] rfl (by simp [Call.drain])

/-- Killing fails without a ring, and in one that is full. Nothing is posted, and the watch is gone:
once the server has drained its ring, there is nobody left to kill. -/
theorem death_lost :
    (let r := after (.empty, .empty) [.watch 6 9];
      (kill 6 r).1 = .error .unsupported ∧ (kill 6 r).2.2.watches = []) ∧
    let r := after twoWatched [.kill 5]
    r.2.watches = [⟨6, 9, 2⟩] ∧ (kill 6 r).1 = .error .resourceExhausted ∧
      (kill 6 r).2.2.watches = [] ∧
      ((kill 6 r).2.1.region 0).readable = (r.1.region 0).readable ∧
      (kill 6 (after (kill 6 r).2 [.drain ⟨0, 0⟩])).1 = .error .notFound :=
  ⟨⟨rfl, rfl⟩, rfl, rfl, rfl, rfl, rfl⟩

end SimProcs

end CapServer
