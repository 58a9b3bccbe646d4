import CapServer.Proofs.Keeps
import CapServer.Proofs.Notice.Ring
import CapServer.Session
import CapServer.Sim.ProcessServer

/-!
# Death watches

The simulated process server gives every watch a death id that it never gave before.
`SimProcs.Watches` ties its watches to some live sessions and to the deaths that were posted and not
yet read: there is a watch for each of these sessions, unless its death was posted, and there is no
other watch (`Watches.filter_watches`).

It is kept when a client is watched (`Watches.watch`), is not watched any more (`Watches.unwatch`),
or is killed (`Watches.kill`), and when a posted death is read (`Watches.read`). Meanwhile a session
under a death id that was given out stays the session it was (`Lasts`).
-/

namespace CapServer

namespace Session

/-- The watch on the client of a session. -/
def watch (notifyEp : CapPtr) (s : Session) : Option Watch :=
  s.deathId.map fun death => ⟨s.liveness, notifyEp, death⟩

/-- A session but for its parameter buffer, which is all of it that can change. -/
def lasting (s : Session) : Session := { s with paramBuffer := none }

end Session

/-- Every session under a death id given out before some moment was there at that moment. -/
def Lasts (live live' : ClientId → Option Session) (given : DeathId) : Prop :=
  ∀ id s death, live' id = some s → s.deathId = some death → death ≤ given →
    (live id).map Session.lasting = some s.lasting

theorem Lasts.trans {live live' live'' : ClientId → Option Session} {given given' : DeathId}
    (h : Lasts live live' given) (h' : Lasts live' live'' given') (hle : given ≤ given') :
    Lasts live live'' given := by
  intro id s death hid hdeath hgiven
  obtain ⟨s', hs', hlasting⟩ :=
    Option.map_eq_some_iff.1 (h' id s death hid hdeath (Nat.le_trans hgiven hle))
  have hdeath' : s'.deathId = some death := (congrArg Session.deathId hlasting).trans hdeath
  rw [← hlasting]
  exact h id s' death hs' hdeath' hgiven

/-- Where sessions can only leave, those that are there were there. -/
theorem Lasts.of_le {live live' : ClientId → Option Session} {given : DeathId}
    (h : ∀ id s, live' id = some s → (live id).map Session.lasting = some s.lasting) :
    Lasts live live' given :=
  fun id s _ hid _ _ => h id s hid

/-- What is read off a session tells the live sessions apart. -/
def TellsApart {κ : Type} (key : Session → κ) (live : ClientId → Option Session) : Prop :=
  ∀ id id' session session', live id = some session → live id' = some session' →
    key session = key session' → id = id'

namespace TellsApart

variable {κ : Type} {key : Session → κ} {live live' : ClientId → Option Session}

/-- Parameter buffers do not matter to it. -/
theorem congr (h : TellsApart key live)
    (hkey : ∀ s s' : Session, s.lasting = s'.lasting → key s = key s')
    (hback : ∀ id s, live' id = some s → ∃ s₀, live id = some s₀ ∧ s₀.lasting = s.lasting) :
    TellsApart key live' := by
  intro id id' session session' hid hid' heq
  obtain ⟨session₀, hid₀, hsame⟩ := hback id session hid
  obtain ⟨session₁, hid₁, hsame'⟩ := hback id' session' hid'
  apply h id id' session₀ session₁ hid₀ hid₁
  rw [hkey _ _ hsame, hkey _ _ hsame', heq]

/-- A new session is told apart from the others, and so are they from each other. -/
theorem enter (h : TellsApart key live) {session : Session}
    (hnew : ∀ id other, live id = some other → key other ≠ key session)
    (hcases : ∀ id other, live' id = some other →
      id = session.id ∧ other = session ∨ live id = some other) : TellsApart key live' := by
  intro id id' other other' hid hid' heq
  rcases hcases id other hid with ⟨rfl, rfl⟩ | hid <;>
    rcases hcases id' other' hid' with ⟨rfl, rfl⟩ | hid'
  · rfl
  · exact absurd heq.symm (hnew id' other' hid')
  · exact absurd heq (hnew id other hid)
  · exact h id id' other other' hid hid' heq

end TellsApart

namespace SimProcs

/-- There is a watch for each live session whose death was not posted, and no other. -/
structure Watches (notifyEp : CapPtr) (deaths : List DeathId) (live : ClientId → Option Session)
    (s : SimProcs) : Prop where
  active : ∀ id session, live id = some session →
    session.active = true ∧ ∃ death, session.deathId = some death ∧ death ≤ s.lastDeath
  /-- Death ids tell the sessions apart. -/
  distinct : ∀ id id' session session', live id = some session → live id' = some session' →
    session.deathId = session'.deathId → id = id'
  /-- So do liveness capabilities. -/
  apart : ∀ id id' session session', live id = some session → live id' = some session' →
    session.liveness = session'.liveness → id = id'
  mem_watches : ∀ w, w ∈ s.watches ↔
    (∃ id session, live id = some session ∧ session.watch notifyEp = some w) ∧ w.deathId ∉ deaths
  nodup : s.watches.Nodup
  given : ∀ death ∈ deaths, death ≤ s.lastDeath

variable {notifyEp liveness : CapPtr} {deaths : List DeathId}
  {live live' : ClientId → Option Session}
  {s s' : SimProcs} {m m' : Memory} {ring : RegionId} {unread : List Notice}

/-- A client that is not watched is watched under the next death id. -/
theorem watch_eq_ok (hothers : ∀ w ∈ s.watches, w.liveness ≠ liveness) {death : DeathId}
    (hr : watch liveness notifyEp (m, s) = (.ok death, m', s')) :
    death = s.lastDeath + 1 ∧ m' = m ∧ s' = { s with
      watches := s.watches ++ [⟨liveness, notifyEp, s.lastDeath + 1⟩]
      lastDeath := s.lastDeath + 1 } := by
  have hfilter : (s.watches.filter fun w => w.liveness != liveness) = s.watches :=
    List.filter_eq_self.2 fun w hw => bne_iff_ne.2 (hothers w hw)
  rw [SimProcs.watch] at hr
  split at hr
  · cases hr
  · dsimp only at hr
    rw [hfilter] at hr
    cases hr
    exact ⟨rfl, rfl, rfl⟩

theorem watches_nil (hlive : ∀ id, live id = none) (hwatches : s.watches = []) :
    s.Watches notifyEp [] live where
  active id session h := by
    rw [hlive] at h
    cases h
  distinct id id' session session' h := by
    rw [hlive] at h
    cases h
  apart id id' session session' h := by
    rw [hlive] at h
    cases h
  mem_watches w := by
    rw [hwatches]
    refine ⟨(fun h => nomatch h), ?_⟩
    rintro ⟨⟨id, session, hid, -⟩, -⟩
    rw [hlive] at hid
    cases hid
  nodup := hwatches ▸ List.nodup_nil
  given _ h := nomatch h

namespace Watches

theorem watch_eq_some {session : Session} {w : Watch} :
    session.watch notifyEp = some w ↔
      session.deathId = some w.deathId ∧ session.liveness = w.liveness ∧ notifyEp = w.notifyEp := by
  rw [Session.watch, Option.map_eq_some_iff]
  constructor
  · rintro ⟨death, hdeath, rfl⟩
    exact ⟨hdeath, rfl, rfl⟩
  · rintro ⟨hdeath, hliveness, hep⟩
    exact ⟨_, hdeath, by rw [hliveness, hep]⟩

/-- A live session's watch is the only one on its liveness capability, and is there as long as its
death was not posted. -/
theorem filter_watches (h : s.Watches notifyEp deaths live) {id : ClientId} {session : Session}
    {death : DeathId} (hid : live id = some session) (hdeath : session.deathId = some death) :
    (s.watches.filter fun w => w.liveness == session.liveness) =
      if death ∈ deaths then [] else [⟨session.liveness, notifyEp, death⟩] := by
  have hwatch : session.watch notifyEp = some ⟨session.liveness, notifyEp, death⟩ :=
    watch_eq_some.2 ⟨hdeath, rfl, rfl⟩
  have honly : ∀ w ∈ s.watches, w.liveness = session.liveness →
      w = ⟨session.liveness, notifyEp, death⟩ ∧ death ∉ deaths := by
    intro w hw hliveness
    obtain ⟨⟨id', session', hid', hwatch'⟩, hposted⟩ := (h.mem_watches w).1 hw
    obtain ⟨-, hliveness', -⟩ := watch_eq_some.1 hwatch'
    have hsame := h.apart id' id session' session hid' hid (hliveness'.trans hliveness)
    subst hsame
    cases hid'.symm.trans hid
    cases hwatch.symm.trans hwatch'
    exact ⟨rfl, hposted⟩
  by_cases hposted : death ∈ deaths
  · rw [if_pos hposted, List.filter_eq_nil_iff]
    intro w hw hliveness
    exact (honly w hw (beq_iff_eq.1 hliveness)).2 hposted
  · rw [if_neg hposted]
    refine List.perm_singleton.1 ((List.perm_ext_iff_of_nodup (h.nodup.filter _)
      (List.pairwise_singleton _ _)).2 fun w => ?_)
    rw [List.mem_filter, List.mem_singleton, beq_iff_eq]
    constructor
    · rintro ⟨hw, hliveness⟩
      exact (honly w hw hliveness).1
    · rintro rfl
      exact ⟨(h.mem_watches _).2 ⟨⟨id, session, hid, hwatch⟩, hposted⟩, rfl⟩

/-- No two watches are on the same liveness capability. -/
theorem eq_of_liveness_eq (h : s.Watches notifyEp deaths live) {v w : Watch} (hv : v ∈ s.watches)
    (hw : w ∈ s.watches) (hliveness : v.liveness = w.liveness) : v = w := by
  obtain ⟨⟨id, session, hid, hsession⟩, -⟩ := (h.mem_watches v).1 hv
  obtain ⟨⟨id', session', hid', hsession'⟩, -⟩ := (h.mem_watches w).1 hw
  have hsame := h.apart id id' session session' hid hid' ((watch_eq_some.1 hsession).2.1.trans
    (hliveness.trans (watch_eq_some.1 hsession').2.1.symm))
  subst hsame
  cases hid.symm.trans hid'
  exact Option.some.inj (hsession.symm.trans hsession')

/-- What leaves the watches alone, and the sessions but for their buffers. -/
theorem congr (h : s.Watches notifyEp deaths live)
    (hlive : ∀ id, (live' id).map Session.lasting = (live id).map Session.lasting)
    (hwatches : s'.watches = s.watches) (hlast : s'.lastDeath = s.lastDeath) :
    s'.Watches notifyEp deaths live' := by
  have hback : ∀ id session, live' id = some session →
      ∃ session₀, live id = some session₀ ∧ session₀.lasting = session.lasting := by
    intro id session hid
    have hmap := hlive id
    rw [hid] at hmap
    exact Option.map_eq_some_iff.1 hmap.symm
  have hforth : ∀ id session, live id = some session →
      ∃ session', live' id = some session' ∧ session'.lasting = session.lasting := by
    intro id session hid
    have hmap := hlive id
    rw [hid] at hmap
    exact Option.map_eq_some_iff.1 hmap
  have hdistinct : TellsApart Session.deathId live := h.distinct
  have hapart : TellsApart Session.liveness live := h.apart
  refine ⟨fun id session hid => ?_, hdistinct.congr (fun _ _ => congrArg Session.deathId) hback,
    hapart.congr (fun _ _ => congrArg Session.liveness) hback, fun w => ?_, hwatches ▸ h.nodup,
    hlast ▸ h.given⟩
  · obtain ⟨session₀, hid₀, hsame⟩ := hback id session hid
    obtain ⟨hactive, death, hdeath, hle⟩ := h.active id session₀ hid₀
    refine ⟨(congrArg Session.active hsame).symm.trans hactive, death,
      (congrArg Session.deathId hsame).symm.trans hdeath, hlast ▸ hle⟩
  · rw [hwatches, h.mem_watches]
    refine and_congr_left fun _ => ⟨?_, ?_⟩
    · rintro ⟨id, session, hid, hwatch⟩
      obtain ⟨session', hid', hsame⟩ := hforth id session hid
      exact ⟨id, session', hid', (congrArg (Session.watch notifyEp) hsame).trans hwatch⟩
    · rintro ⟨id, session, hid, hwatch⟩
      obtain ⟨session₀, hid₀, hsame⟩ := hback id session hid
      exact ⟨id, session₀, hid₀, (congrArg (Session.watch notifyEp) hsame).trans hwatch⟩

/-- Sessions leave, and with them the watches and the posted deaths that were theirs. -/
theorem leave (h : s.Watches notifyEp deaths live) {deaths' : List DeathId}
    (hlive : ∀ id session, live' id = some session → live id = some session)
    (hdeaths : ∀ death ∈ deaths', death ∈ deaths) (hlast : s'.lastDeath = s.lastDeath)
    (hnodup : s'.watches.Nodup)
    (hwatches : ∀ w, w ∈ s'.watches ↔
      (∃ id session, live' id = some session ∧ session.watch notifyEp = some w) ∧
        w.deathId ∉ deaths') :
    s'.Watches notifyEp deaths' live' where
  active id session hid := hlast ▸ h.active id session (hlive id session hid)
  distinct id id' session session' hid hid' :=
    h.distinct id id' session session' (hlive id session hid) (hlive id' session' hid')
  apart id id' session session' hid hid' :=
    h.apart id id' session session' (hlive id session hid) (hlive id' session' hid')
  mem_watches := hwatches
  nodup := hnodup
  given death hdeath := hlast ▸ h.given death (hdeaths death hdeath)

/-- A posted death is read, and the session that it is about leaves. -/
theorem read {death : DeathId} (h : s.Watches notifyEp (death :: deaths) live)
    (hlive : ∀ id, live' id = (live id).filter fun session => session.deathId != some death) :
    s.Watches notifyEp deaths live' := by
  have hback : ∀ id session, live' id = some session ↔
      live id = some session ∧ session.deathId ≠ some death := by
    intro id session
    rw [hlive, Option.filter_eq_some_iff, bne_iff_ne]
  refine h.leave (fun id session hid => ((hback id session).1 hid).1)
    (fun d hd => List.mem_cons_of_mem _ hd) rfl h.nodup fun w => ?_
  rw [h.mem_watches]
  constructor
  · rintro ⟨⟨id, session, hid, hwatch⟩, hposted⟩
    rw [List.mem_cons, not_or] at hposted
    obtain ⟨hne, hposted⟩ := hposted
    refine ⟨⟨id, session, (hback id session).2 ⟨hid, fun hdeath => hne ?_⟩, hwatch⟩, hposted⟩
    rw [(watch_eq_some.1 hwatch).1] at hdeath
    exact Option.some.inj hdeath
  · rintro ⟨⟨id, session, hid, hwatch⟩, hposted⟩
    obtain ⟨hid, hne⟩ := (hback id session).1 hid
    refine ⟨⟨id, session, hid, hwatch⟩, ?_⟩
    rw [List.mem_cons, not_or]
    refine ⟨fun heq => hne ?_, hposted⟩
    rw [(watch_eq_some.1 hwatch).1, heq]

/-- A session leaves, and its client is not watched any more. -/
theorem unwatch (h : s.Watches notifyEp deaths live) {id : ClientId} {session : Session}
    (hid : live id = some session) (hlive : ∀ j, live' j = if j = id then none else live j)
    {a : Except Failure Unit} (hr : SimProcs.unwatch session.liveness (m, s) = (a, m', s')) :
    m' = m ∧ s'.notices = s.notices ∧ s'.lastDeath = s.lastDeath ∧
      s'.Watches notifyEp deaths live' := by
  have hfilter : m' = m ∧ s'.notices = s.notices ∧ s'.lastDeath = s.lastDeath ∧
      s'.watches = s.watches.filter fun w => w.liveness != session.liveness := by
    rw [SimProcs.unwatch] at hr
    split at hr
    · next hnone =>
      cases hr
      refine ⟨rfl, rfl, rfl, (List.filter_eq_self.2 fun w hw => ?_).symm⟩
      rw [watch?, Option.isNone_iff_eq_none, List.find?_eq_none] at hnone
      exact Bool.not_eq_true' _ ▸ Bool.eq_false_iff.2 (hnone w hw)
    · cases hr
      exact ⟨rfl, rfl, rfl, rfl⟩
  obtain ⟨hm, hnotices, hlast, hwatches⟩ := hfilter
  refine ⟨hm, hnotices, hlast, h.leave (fun j other hj => ?_) (fun _ hd => hd) hlast ?_ fun w => ?_⟩
  · rw [hlive] at hj
    split at hj
    · cases hj
    · exact hj
  · rw [hwatches]
    exact h.nodup.filter _
  · rw [hwatches, List.mem_filter, h.mem_watches, bne_iff_ne]
    constructor
    · rintro ⟨⟨⟨j, other, hj, hwatch⟩, hposted⟩, hne⟩
      refine ⟨⟨j, other, ?_, hwatch⟩, hposted⟩
      rw [hlive, if_neg]
      · exact hj
      · rintro rfl
        cases hj.symm.trans hid
        exact hne (watch_eq_some.1 hwatch).2.1.symm
    · rintro ⟨⟨j, other, hj, hwatch⟩, hposted⟩
      rw [hlive] at hj
      split at hj
      · cases hj
      · next hne =>
        refine ⟨⟨⟨j, other, hj, hwatch⟩, hposted⟩, fun hliveness => hne ?_⟩
        exact h.apart j id other session hj hid ((watch_eq_some.1 hwatch).2.1.trans hliveness)

/-- A client gets a session, and is watched under an id not given out before. -/
theorem watch (h : s.Watches notifyEp deaths live) (session : Session) {death : DeathId}
    (hr : SimProcs.watch session.liveness notifyEp (m, s) = (.ok death, m', s'))
    (hactive : session.active = true) (hdeath : session.deathId = some death)
    (hnone : live session.id = none)
    (hfresh : ∀ id other, live id = some other → other.liveness ≠ session.liveness)
    (hlive : ∀ id, live' id = if id = session.id then some session else live id) :
    m' = m ∧ s'.notices = s.notices ∧ s'.lastDeath = s.lastDeath + 1 ∧
      s'.Watches notifyEp deaths live' ∧ Lasts live live' s.lastDeath := by
  have hothers : ∀ w ∈ s.watches, w.liveness ≠ session.liveness := by
    intro w hw
    obtain ⟨⟨id, other, hid, hwatch⟩, -⟩ := (h.mem_watches w).1 hw
    rw [← (watch_eq_some.1 hwatch).2.1]
    exact hfresh id other hid
  obtain ⟨rfl, rfl, rfl⟩ := watch_eq_ok hothers hr
  have hcases : ∀ id other, live' id = some other →
      id = session.id ∧ other = session ∨ live id = some other := by
    intro id other hid
    rw [hlive] at hid
    split at hid
    · next heq => exact .inl ⟨heq, (Option.some.inj hid).symm⟩
    · exact .inr hid
  have hnew : session.watch notifyEp = some ⟨session.liveness, notifyEp, s.lastDeath + 1⟩ :=
    watch_eq_some.2 ⟨hdeath, rfl, rfl⟩
  have hold : ∀ id other, live id = some other → other.deathId ≠ session.deathId := by
    intro id other hid heq
    obtain ⟨-, death, hother, hle⟩ := h.active id other hid
    rw [hother, hdeath] at heq
    exact Nat.not_succ_le_self _ (Option.some.inj heq ▸ hle)
  have hdistinct : TellsApart Session.deathId live := h.distinct
  have hapart : TellsApart Session.liveness live := h.apart
  refine ⟨rfl, rfl, rfl, ⟨fun id other hid => ?_, hdistinct.enter hold hcases,
    hapart.enter hfresh hcases, fun w => ?_, ?_, fun d hd => Nat.le_succ_of_le (h.given d hd)⟩,
    fun id other d hid hd hle => ?_⟩
  · rcases hcases id other hid with ⟨-, rfl⟩ | hid
    · exact ⟨hactive, _, hdeath, Nat.le_refl _⟩
    · obtain ⟨hother, d, hd, hle⟩ := h.active id other hid
      exact ⟨hother, d, hd, Nat.le_succ_of_le hle⟩
  · rw [List.mem_append, h.mem_watches, List.mem_singleton]
    constructor
    · rintro (⟨⟨id, other, hid, hwatch⟩, hposted⟩ | rfl)
      · refine ⟨⟨id, other, ?_, hwatch⟩, hposted⟩
        rw [hlive, if_neg]
        · exact hid
        · rintro rfl
          rw [hnone] at hid
          cases hid
      · refine ⟨⟨session.id, session, by rw [hlive, if_pos rfl], hnew⟩, fun hposted => ?_⟩
        exact Nat.not_succ_le_self _ (h.given _ hposted)
    · rintro ⟨⟨id, other, hid, hwatch⟩, hposted⟩
      rcases hcases id other hid with ⟨-, rfl⟩ | hid
      · exact .inr (Option.some.inj (hwatch.symm.trans hnew))
      · exact .inl ⟨⟨id, other, hid, hwatch⟩, hposted⟩
  · refine List.nodup_append.2 ⟨h.nodup, List.pairwise_singleton _ _, fun w hw v hv heq => ?_⟩
    obtain ⟨⟨id, other, hid, hwatch⟩, -⟩ := (h.mem_watches w).1 hw
    rw [List.mem_singleton.1 hv] at heq
    refine hfresh id other hid ((watch_eq_some.1 hwatch).2.1.trans ?_)
    rw [heq]
  · rcases hcases id other hid with ⟨-, rfl⟩ | hid
    · rw [hdeath] at hd
      exact absurd (Option.some.inj hd ▸ hle) (Nat.not_succ_le_self _)
    · rw [hid]
      rfl

/-- A client is killed: its watch goes, and its death is posted. -/
theorem kill (h : s.Watches notifyEp deaths live) {w : Watch}
    (hwatch : s.watch? liveness = some w)
    (hwatches : s'.watches = s.watches.eraseP fun v => v.liveness == liveness)
    (hlast : s'.lastDeath = s.lastDeath) :
    s'.Watches notifyEp (deaths ++ [w.deathId]) live := by
  rw [watch?] at hwatch
  have hmem := List.mem_of_find?_eq_some hwatch
  have hliveness := List.find?_some hwatch
  obtain ⟨⟨id, session, hid, hsession⟩, hposted⟩ := (h.mem_watches w).1 hmem
  obtain ⟨hdeath, -, -⟩ := watch_eq_some.1 hsession
  obtain ⟨v, front, back, -, hv, hsplit, herase⟩ :=
    List.exists_of_eraseP (p := fun v : Watch => v.liveness == liveness) hmem hliveness
  have hvw : v = w := by
    refine h.eq_of_liveness_eq ?_ hmem ((beq_iff_eq.1 hv).trans (beq_iff_eq.1 hliveness).symm)
    rw [hsplit]
    exact List.mem_append_right _ List.mem_cons_self
  have hperm : s.watches.Perm (w :: s'.watches) := by
    rw [hwatches, herase, hsplit, hvw]
    exact List.perm_middle
  obtain ⟨hnot, hnodup⟩ := List.nodup_cons.1 (hperm.nodup_iff.1 h.nodup)
  have hrest : ∀ x, x ∈ s'.watches ↔ x ∈ s.watches ∧ x ≠ w := by
    intro x
    rw [hperm.mem_iff, List.mem_cons]
    constructor
    · intro hx
      exact ⟨.inr hx, fun e => hnot (e ▸ hx)⟩
    · rintro ⟨rfl | hx, hne⟩
      · exact absurd rfl hne
      · exact hx
  refine ⟨fun j other hj => hlast ▸ h.active j other hj, h.distinct, h.apart, fun x => ?_, hnodup,
    fun d hd => ?_⟩
  · rw [hrest, h.mem_watches, List.mem_append, List.mem_singleton, not_or, and_assoc]
    refine and_congr_right fun hlive => and_congr_right fun _ => not_congr ?_
    obtain ⟨j, other, hj, hother⟩ := hlive
    refine ⟨fun e => congrArg Watch.deathId e, fun heq => ?_⟩
    -- a death id belongs to one session, and a session has one watch
    have hsame := h.distinct j id other session hj hid
      ((watch_eq_some.1 hother).1.trans (heq ▸ hdeath.symm))
    subst hsame
    cases hj.symm.trans hid
    exact Option.some.inj (hother.symm.trans hsession)
  · rw [hlast]
    rcases List.mem_append.1 hd with hd | hd
    · exact h.given d hd
    · obtain ⟨-, death, hdeath', hle⟩ := h.active id session hid
      rw [List.mem_singleton.1 hd]
      cases hdeath.symm.trans hdeath'
      exact hle

end Watches

/-! ## Posting and killing -/

variable {n : Notice}

/-- A notice is posted into the registered ring, or nothing changes. -/
theorem post_spec (hwriter : s.notices = some (.attach m ring)) (h : m.Bears ring unread)
    (n : Notice) : ∃ a m', post n (m, s) = (a, m', { s with notices := some (.attach m' ring) }) ∧
      m'.Bears ring (if a.toBool then unread ++ [n] else unread) ∧
      Reader.attach m' ring = .attach m ring := by
  obtain ⟨a, m', hpost, hbears, hreader⟩ := Writer.post_attach h n
  refine ⟨a, m', ?_, hbears, hreader⟩
  rw [post, posting]
  dsimp only
  rw [hwriter]
  dsimp only
  rw [hpost]

/-- The process server without the watch that is found on a client. -/
def strike (liveness : CapPtr) (s : SimProcs) : SimProcs :=
  { s with watches := s.watches.eraseP fun w => w.liveness == liveness }

variable {r : Run} {w : Watch}

theorem liveness_of_watch? {s : SimProcs} (h : s.watch? liveness = some w) :
    w.liveness = liveness := by
  rw [watch?] at h
  exact beq_iff_eq.1 (List.find?_some (p := fun v : Watch => v.liveness == liveness) h)

theorem kill_of_unwatched (h : r.2.watch? liveness = none) :
    kill liveness r = (.error .notFound, r) := by
  simp only [kill, Attempt.bind_apply, Attempt.get_apply, h, Attempt.throw_apply]

/-- The watch on a client that is killed is struck off before its death is posted. -/
theorem kill_of_watched (h : r.2.watch? liveness = some w) :
    kill liveness r =
      (post (.death (UInt64.ofNat w.deathId)) >>= fun _ => pure w) (r.1, r.2.strike liveness) := by
  simp only [kill, Attempt.bind_apply, Attempt.get_apply, h, Attempt.set_apply, strike]

/-- Killing a client takes its watch off the list and posts its death. -/
theorem kill_eq_ok (hwriter : s.notices = some (.attach m ring)) (h : m.Bears ring unread)
    (hr : kill liveness (m, s) = (.ok w, m', s')) :
    s.watch? liveness = some w ∧
      s' = { s with
        watches := s.watches.eraseP fun v => v.liveness == liveness
        notices := some (.attach m' ring) } ∧
      m'.Bears ring (unread ++ [.death (UInt64.ofNat w.deathId)]) ∧
      Reader.attach m' ring = .attach m ring := by
  rcases hwatch : s.watch? liveness with _ | v
  · rw [kill_of_unwatched (r := (m, s)) hwatch] at hr
    cases hr
  · rw [kill_of_watched (r := (m, s)) hwatch] at hr
    obtain ⟨⟨⟩, ⟨m₁, s₁⟩, hpost, hr⟩ := Attempt.bind_eq_ok hr
    cases hr
    obtain ⟨a, m₂, hpost', hbears, hreader⟩ := post_spec (s := s.strike liveness) hwriter h
      (.death (UInt64.ofNat w.deathId))
    cases hpost.symm.trans hpost'
    exact ⟨rfl, rfl, hbears, hreader⟩

end SimProcs

end CapServer
