import CapServer.Proofs.Server.Guards
import CapServer.Proofs.Server.Isolation
import CapServer.Proofs.Server.Mirrors

/-!
# Death watches and stale notices

A server with a notification ring runs on a machine. Between its rounds messages arrive, calls are
made to fail, notices are posted and clients are killed (`Stimulus`), in any order (`Server.goOn`).

Between two rounds, each live session is watched or its death is in the ring, and there is no other
watch (`Server.Watched`); and a session that has a death id now had it when it was given out, so a
notice that is read late ends no other session (`Server.deaths_watched`).
-/

namespace CapServer

variable {ν : Type}

/-! ## What happens around a server -/

/-- Something that happens to the machine. -/
inductive Stimulus
  /-- A message arrives. -/
  | message (msg : Message)
  /-- The next kernel calls of a kind go by plan. -/
  | kernelFaults (call : KernelCall) (entries : List (Option Failure))
  /-- The same for the process server. A watch can be taken back at any time. -/
  | procFaults (call : ProcCall) (entries : List (Option Failure)) (hcall : call ≠ .unwatch)
  | mintFails
  | revokeFails
  | watchFails
  | openFails
  | fault (notice : FaultNotice)
  | content (notice : ContentNotice)
  /-- The client with a liveness capability is killed. -/
  | kill (liveness : CapPtr)

namespace Stimulus

/-- What a stimulus does to the machine. -/
def change : Stimulus → World (Machine ν) → World (Machine ν)
  | message msg, w => { w with rest := { w.rest with kernel := w.rest.kernel.enqueue msg } }
  | kernelFaults call entries, w =>
    { w with rest := { w.rest with kernelFaults := w.rest.kernelFaults.extend call entries } }
  | procFaults call entries _, w =>
    { w with rest := { w.rest with procFaults := w.rest.procFaults.extend call entries } }
  | mintFails, w =>
    { w with rest := { w.rest with kernel := { w.rest.kernel with mintFails := true } } }
  | revokeFails, w =>
    { w with rest := { w.rest with kernel := { w.rest.kernel with revokeFails := true } } }
  | watchFails, w =>
    { w with rest := { w.rest with procs := { w.rest.procs with watchFails := true } } }
  | openFails, w =>
    { w with rest := { w.rest with procs := { w.rest.procs with openFails := true } } }
  | fault notice, w => ((SimProcs.post (.fault notice)).on Machine.procsPart).settle w
  | content notice, w => ((SimProcs.post (.content notice)).on Machine.procsPart).settle w
  | kill liveness, w => ((SimProcs.kill liveness).on Machine.procsPart).settle w

/-- A client is killed only with success, under a death id that fits a word. -/
def Succeeds : Stimulus → World (Machine ν) → Prop
  | kill liveness, w => ∃ watch, ((SimProcs.kill liveness).on Machine.procsPart w).1 = .ok watch ∧
      watch.deathId < wordSize
  | _, _ => True

/-- No stimulus fills or empties a slot. -/
def interlude (x : Stimulus) : Interlude ν where
  change := x.change
  slots_eq w := by cases x <;> rfl

end Stimulus

/-- Something happens, or the server goes through a round. -/
inductive Event
  | happens (x : Stimulus)
  | serve

namespace Event

/-- The server after an event. -/
def after (s : Server (Journaled (Machine ν))) : Event → Server (Journaled (Machine ν))
  | happens x => s.afterInterlude x.interlude
  | serve => s.round

/-- The call that an event is. -/
def call : Event → Server.Call (Machine ν)
  | happens x => .outside x.change
  | serve => .serve

/-- An event is as it should be. -/
def Succeeds (s : Server (Journaled (Machine ν))) : Event → Prop
  | happens x => x.Succeeds (World.plainPart.get s.caps.world)
  | serve => True

end Event

namespace Server

/-- The server after one event after the other. -/
def goOn (s : Server (Journaled (Machine ν))) (events : List Event) :
    Server (Journaled (Machine ν)) :=
  events.foldl Event.after s

/-- Each event is as it should be when it comes. -/
def Succeed (s : Server (Journaled (Machine ν))) : List Event → Prop
  | [] => True
  | e :: events => e.Succeeds s ∧ Succeed (e.after s) events

/-- Events have the same effect whether a journal is kept or not. -/
theorem goOn_plain (s : Server (Journaled (Machine ν))) (events : List Event) :
    (s.goOn events).plain = s.plain.run Machine.platform (events.map Event.call) := by
  rw [← run_plain, goOn, run, List.map_map, List.foldl_map]
  congr 2
  funext s e
  cases e <;> rfl

/-! ## One event -/

variable {s s₀ : Server (Journaled (Machine ν))} {unread : List Notice}
  {T : CapSpace.Terms (Machine ν)}

namespace Guards

/-- An interlude leaves the sessions alone. -/
theorem of_interlude {unread' : List Notice} (x : Interlude ν)
    (hwatches : (s.afterInterlude x).procs.Watches s.notifyEp (deathsOf unread') s.standing)
    (hlast : (s.afterInterlude x).procs.lastDeath = s.procs.lastDeath)
    (hbears : (s.afterInterlude x).Bears unread')
    (hunwatching : Machine.Unwatching (s.afterInterlude x).caps.world) :
    Follows unread' s (s.afterInterlude x) :=
  ⟨⟨hwatches, hbears, hunwatching⟩, Nat.le_of_eq hlast.symm,
    Lasts.of_le fun _ _ hid => congrArg (Option.map Session.lasting) hid⟩

/-- An interlude may also leave the watches and the ring alone. -/
theorem of_quiet (h : s.Guards unread) (x : Interlude ν)
    (hmemory : (s.afterInterlude x).caps.world.memory = s.caps.world.memory)
    (hnotices : (s.afterInterlude x).procs.notices = s.procs.notices)
    (hwatches : (s.afterInterlude x).procs.watches = s.procs.watches)
    (hlast : (s.afterInterlude x).procs.lastDeath = s.procs.lastDeath)
    (hunwatching : Machine.Unwatching (s.afterInterlude x).caps.world) :
    Follows unread s (s.afterInterlude x) := by
  refine of_interlude x (h.watches.congr (fun _ => rfl) hwatches hlast) hlast ?_ hunwatching
  obtain ⟨buffer, hbuffer, hreader, hwriter, hbears⟩ := h.bears
  refine ⟨buffer, hbuffer, ?_, hnotices.trans ?_, ?_⟩ <;> rw [hmemory] <;> assumption

/-- Or it is the work of the process server, on the ring and on its own. -/
theorem of_procs (h : s.Guards unread) (x : Interlude ν) {unread' : List Notice}
    {buffer : NoticeBuffer} (hbuffer : s.notices = some buffer)
    (hreader : buffer.reader = .attach s.caps.world.memory buffer.reader.region) {m : Memory}
    {p : SimProcs} (hx : x.change (World.plainPart.get s.caps.world) =
      Machine.procsPart.set (m, p) (World.plainPart.get s.caps.world))
    (hwriter : p.notices = some (.attach m buffer.reader.region))
    (hbears : m.Bears buffer.reader.region unread')
    (hattach : Reader.attach m buffer.reader.region =
      .attach s.caps.world.memory buffer.reader.region)
    (hwatches : p.Watches s.notifyEp (deathsOf unread') s.standing)
    (hlast : p.lastDeath = s.procs.lastDeath) : Follows unread' s (s.afterInterlude x) := by
  have hafter : s.afterInterlude x = worldPart.set (World.plainPart.set
      (Machine.procsPart.set (m, p) (World.plainPart.get s.caps.world)) s.caps.world) s := by
    rw [← hx]
    rfl
  refine of_interlude x ?_ ?_ ?_ ?_ <;> rw [hafter]
  · exact hwatches
  · exact hlast
  · exact ⟨buffer, hbuffer, hreader.trans hattach.symm, hwriter, hbears⟩
  · exact h.unwatching

/-- A notice that announces no death is posted, if there is room. -/
theorem of_post (h : s.Guards unread) (x : Interlude ν) {n : Notice} (hn : announced n = none)
    (hx : x.change = ((SimProcs.post n).on Machine.procsPart).settle) :
    ∃ unread', Follows unread' s (s.afterInterlude x) := by
  obtain ⟨buffer, hbuffer, hreader, hwriter, hbears⟩ := h.bears
  obtain ⟨a, m, hpost, hbears', hattach⟩ := SimProcs.post_spec hwriter hbears n
  have hdeaths : deathsOf (if a.toBool then unread ++ [n] else unread) = deathsOf unread := by
    split
    · rw [deathsOf, List.filterMap_append, List.filterMap_cons, hn, List.filterMap_nil,
        List.append_nil]
      rfl
    · rfl
  have hchange : x.change (World.plainPart.get s.caps.world) = Machine.procsPart.set
      (m, { s.procs with notices := some (.attach m buffer.reader.region) })
        (World.plainPart.get s.caps.world) := by
    rw [hx]
    exact congrArg (fun r => Machine.procsPart.set r.2 (World.plainPart.get s.caps.world)) hpost
  refine ⟨_, h.of_procs x hbuffer hreader hchange rfl hbears' hattach ?_ rfl⟩
  rw [hdeaths]
  exact h.watches.congr (fun _ => rfl) rfl rfl

/-- A client is killed, and its death is in the ring. -/
theorem of_kill (h : s.Guards unread) (liveness : CapPtr)
    (hx : (Stimulus.kill liveness).Succeeds (World.plainPart.get s.caps.world)) :
    ∃ unread', Follows unread' s (s.afterInterlude (Stimulus.kill liveness).interlude) := by
  obtain ⟨buffer, hbuffer, hreader, hwriter, hbears⟩ := h.bears
  obtain ⟨watch, hkill, hfits⟩ := hx
  rcases hr : SimProcs.kill liveness (s.caps.world.memory, s.procs) with ⟨a, m, p⟩
  have ha : a = .ok watch := (congrArg Prod.fst hr).symm.trans hkill
  rw [ha] at hr
  obtain ⟨hwatch, hp, hbears', hattach⟩ := SimProcs.kill_eq_ok hwriter hbears hr
  have hchange : (Stimulus.kill liveness).interlude.change (World.plainPart.get s.caps.world) =
      Machine.procsPart.set (m, p) (World.plainPart.get s.caps.world) :=
    congrArg (fun r : Except Failure Watch × SimProcs.Run =>
      Machine.procsPart.set r.2 (World.plainPart.get s.caps.world)) hr
  have hdeaths : deathsOf (unread ++ [.death (UInt64.ofNat watch.deathId)]) =
      deathsOf unread ++ [watch.deathId] := by
    rw [deathsOf, List.filterMap_append, deathsOf]
    refine congrArg (_ ++ ·) ?_
    show [(UInt64.ofNat watch.deathId).toNat] = [watch.deathId]
    rw [UInt64.toNat_ofNat_of_lt' hfits]
  refine ⟨_, h.of_procs _ hbuffer hreader hchange (by rw [hp]) hbears' hattach ?_ (by rw [hp])⟩
  rw [hdeaths, hp]
  exact h.watches.kill hwatch rfl rfl

theorem happens (h : s.Guards unread) {x : Stimulus}
    (hx : x.Succeeds (World.plainPart.get s.caps.world)) :
    ∃ unread', Follows unread' s (s.afterInterlude x.interlude) := by
  cases x with
  | message msg => exact ⟨unread, h.of_quiet _ rfl rfl rfl rfl h.unwatching⟩
  | kernelFaults call entries => exact ⟨unread, h.of_quiet _ rfl rfl rfl rfl h.unwatching⟩
  | procFaults call entries hcall =>
    refine ⟨unread, h.of_quiet _ rfl rfl rfl rfl ?_⟩
    exact (if_neg hcall.symm).trans h.unwatching
  | mintFails => exact ⟨unread, h.of_quiet _ rfl rfl rfl rfl h.unwatching⟩
  | revokeFails => exact ⟨unread, h.of_quiet _ rfl rfl rfl rfl h.unwatching⟩
  | watchFails => exact ⟨unread, h.of_quiet _ rfl rfl rfl rfl h.unwatching⟩
  | openFails => exact ⟨unread, h.of_quiet _ rfl rfl rfl rfl h.unwatching⟩
  | fault notice => exact h.of_post _ rfl rfl
  | content notice => exact h.of_post _ rfl rfl
  | kill liveness => exact h.of_kill liveness hx

theorem round (h : s.Guards unread) (hinv : T.inv = Machine.Faithful) (hsettled : Settled T s₀ s) :
    (∃ unread', Follows unread' s s.round) ∧ ∀ msg received, s.receive = (.ok msg, received) →
      msg.badge = s.config.noticeBadge →
        ∀ id, s.round.session? id = (s.session? id).filter (spared (deathsOf unread)) := by
  have hp : Respects (Machine.platform : Platform (World (Machine ν))) T.inv :=
    hinv ▸ Machine.respects_faithful
  have hreceive : Follows unread s (Server.receive s).2 :=
    h.on_world ((Machine.keeps_undisturbed _).receive s.anonEp)
  have hsettled₁ := hsettled.receive hinv
  have hsettledRound := hsettled.round hinv
  rcases s.round_cases with ⟨e, hr⟩ | ⟨msg, s₁, hr, hround⟩
  · refine ⟨⟨unread, ?_⟩, fun msg received hmsg => ?_⟩
    · rw [hr] at hreceive
      exact hreceive
    · rw [hr] at hmsg
      cases hmsg
  · have hconfig : (Server.receive s).2.config = s.config := rfl
    have hsession : ∀ id, (Server.receive s).2.session? id = s.session? id := fun _ => rfl
    rw [hr] at hreceive hsettled₁ hconfig hsession
    have hconfined : Confined anyone T s₀ (handle Machine.platform.journaled.kernel
        (.basic Machine.platform.journaled) msg s₁).2 := hsettled₁.confined.handle hp fun _ _ => rfl
    rw [session?_eq_standing hsettledRound.pending]
    by_cases hmsg : msg.badge = s₁.config.noticeBadge
    · obtain ⟨hfollows, hspared⟩ := hreceive.guards.handle_notice hsettled₁.pending hmsg
      have hsweep := hfollows.guards.sweep hconfined
      rw [hround]
      refine ⟨⟨[], hreceive.trans (hfollows.trans hsweep)⟩, fun _ _ _ _ id => ?_⟩
      rw [standing_sweep (fun t => hconfined.valid), hspared, ← hsession,
        session?_eq_standing hsettled₁.pending]
    · have hfollows := hreceive.guards.handle_request hsettled₁.confined hsettled₁.pending hmsg
      have hsweep := hfollows.guards.sweep hconfined
      rw [hround]
      refine ⟨⟨unread, hreceive.trans (hfollows.trans hsweep)⟩,
        fun other received hother hbadge => ?_⟩
      cases hr.symm.trans hother
      rw [hconfig] at hmsg
      exact absurd hbadge hmsg

end Guards

end Server

/-! ## Bringing a server up -/

namespace Machine

/-- Nobody is watched, and every watch could be taken back. -/
def Idle (w : World (Machine ν)) : Prop :=
  w.rest.procs.watches = [] ∧ w.rest.procFaults.queue .unwatch = []

theorem Idle.procCall {w w' : World (Machine ν)} {α : Type} {call : ProcCall}
    {x : Attempt SimProcs.Run α} {a : Except Failure α} (h : Idle w) (hcall : call ≠ .unwatch)
    (hx : ∀ r, (x r).2.2.watches = r.2.watches) (hr : Machine.procCall call x w = (a, w')) :
    Idle w' := by
  obtain ⟨hplan, hcases⟩ := procCall_spec hr
  refine ⟨?_, ?_⟩
  · rcases hcases with ⟨e, -, -, -, hprocs⟩ | ⟨-, hthere⟩
    · rw [hprocs]
      exact h.1
    · have hwatches := hx (w.memory, w.rest.procs)
      rw [hthere] at hwatches
      exact hwatches.trans h.1
  · rw [hplan, next_queue_of_ne _ hcall.symm]
    exact h.2

theorem Idle.of_undisturbed {w w' : World (Machine ν)} (h : Idle w) (hw : Undisturbed w w') :
    Idle w' := by
  obtain ⟨-, hprocs, hplan⟩ := hw
  rw [Idle, hprocs, hplan]
  exact h

variable {w w' : World (Machine ν)}

/-- An open dataspace is the newest region of the memory. -/
theorem openDataspace_eq_ok {size : Nat} {dest : CapPtr} {id : RegionId} (h : Idle w)
    (hr : platform.procs.openDataspace size dest w = (.ok id, w')) :
    Idle w' ∧ w'.memory = ⟨w.memory.regions ++ [.zeroed size]⟩ ∧ id = w.memory.regions.length ∧
      w'.rest.procs =
        { w.rest.procs with dataspaces := w.rest.procs.dataspaces.insert dest id } := by
  have hidle : Idle w' := h.procCall (x := SimProcs.openDataspace size dest)
    (show ProcCall.openDataspace ≠ .unwatch from nofun)
    (fun ⟨m, p⟩ => by rw [SimProcs.openDataspace]; split <;> rfl) hr
  obtain ⟨-, ⟨e, -, he, -⟩ | ⟨-, hopen⟩⟩ :=
    procCall_spec (x := SimProcs.openDataspace size dest) hr
  · cases he
  · rw [SimProcs.openDataspace] at hopen
    split at hopen
    · cases hopen
    · obtain ⟨hid, hopen⟩ := Prod.mk.inj hopen
      obtain ⟨hmemory, hprocs⟩ := Prod.mk.inj hopen
      cases hid
      exact ⟨hidle, hmemory.symm, rfl, hprocs.symm⟩

/-- An open dataspace is registered as the notification ring. -/
theorem registerNotices_eq_ok {dataspace : CapPtr} {id : RegionId} (h : Idle w)
    (hopen : w.rest.procs.dataspaces.get? dataspace = some id)
    (hr : platform.procs.registerNotices dataspace w = (.ok (), w')) :
    Idle w' ∧ w'.memory = w.memory ∧ w'.rest.procs.notices = some (.attach w.memory id) := by
  have hidle : Idle w' := h.procCall (x := SimProcs.registerNotices dataspace)
    (show ProcCall.registerNotices ≠ .unwatch from nofun)
    (fun ⟨m, p⟩ => by rw [SimProcs.registerNotices]; split <;> rfl) hr
  obtain ⟨-, ⟨e, -, he, -⟩ | ⟨-, hregister⟩⟩ :=
    procCall_spec (x := SimProcs.registerNotices dataspace) hr
  · cases he
  · rw [SimProcs.registerNotices, hopen] at hregister
    obtain ⟨-, hregister⟩ := Prod.mk.inj hregister
    obtain ⟨hmemory, hprocs⟩ := Prod.mk.inj hregister
    exact ⟨hidle, hmemory.symm, by rw [← hprocs]⟩

theorem registerParams_eq_ok {dataspace : CapPtr} {size : Nat} (h : Idle w)
    (hr : platform.procs.registerParams dataspace size w = (.ok (), w')) :
    Idle w' ∧ w'.memory = w.memory ∧ w'.rest.procs.notices = w.rest.procs.notices := by
  have hidle : Idle w' := h.procCall (x := SimProcs.registerParams dataspace size)
    (show ProcCall.registerParams ≠ .unwatch from nofun)
    (fun ⟨m, p⟩ => by rw [SimProcs.registerParams]; split <;> rfl) hr
  obtain ⟨-, ⟨e, -, he, -⟩ | ⟨-, hregister⟩⟩ :=
    procCall_spec (x := SimProcs.registerParams dataspace size) hr
  · cases he
  · rw [SimProcs.registerParams] at hregister
    split at hregister
    · obtain ⟨-, hregister⟩ := Prod.mk.inj hregister
      obtain ⟨hmemory, hprocs⟩ := Prod.mk.inj hregister
      exact ⟨hidle, hmemory.symm, by rw [← hprocs]⟩
    · cases hregister

end Machine

namespace Server

variable {c c' : CapSpace (World (Journaled (Machine ν)))}

/-- The ring is registered and empty, and a reader is where its records begin. -/
def Empty (w : World (Machine ν)) (reader : Reader) (size : Nat) : Prop :=
  reader = .attach w.memory reader.region ∧
    w.rest.procs.notices = some (.attach w.memory reader.region) ∧
    w.memory.region reader.region = .zeroed size ∧ reader.region < w.memory.regions.length

/-- A notification ring is open, registered and empty. -/
theorem openNotices_spec (h : Machine.Idle (World.plainPart.get c.world)) {size : Nat}
    (hsize : size ≠ 0) {notices : Option NoticeBuffer}
    (hr : openNotices Machine.platform.journaled.procs size c = (.ok notices, c')) :
    Machine.Idle (World.plainPart.get c'.world) ∧ ∃ buffer, notices = some buffer ∧
      Empty (World.plainPart.get c'.world) buffer.reader size := by
  rw [openNotices, if_neg hsize] at hr
  obtain ⟨buffer, c₁, hcreate, hr⟩ := Attempt.bind_eq_ok hr
  obtain ⟨⟨⟩, c₂, hregister, hr⟩ := Attempt.bind_eq_ok hr
  cases hr
  obtain ⟨slots, w, -, rfl, hopen⟩ := MappedBuffer.create_eq_ok hcreate
  have hopened : (Machine.platform.procs.openDataspace size buffer.dataspace).filling
      buffer.dataspace none c.world = (.ok buffer.region, w) := hopen
  obtain ⟨hidle, hmemory, hid, hprocs⟩ :=
    Machine.openDataspace_eq_ok h (Attempt.plain_recorded hopened)
  have hthere : (World.plainPart.get w).rest.procs.dataspaces.get? buffer.dataspace =
      some buffer.region := by
    rw [hprocs, IdMap.get?_insert, if_pos rfl]
  obtain ⟨hidle', hmemory', hnotices⟩ := Machine.registerNotices_eq_ok hidle hthere
    (Attempt.plain_on_plain (CapSpace.world_of_on hregister))
  have hmemory'' : c'.world.memory = ⟨c.world.memory.regions ++ [.zeroed size]⟩ :=
    hmemory'.trans hmemory
  refine ⟨hidle', _, rfl, rfl, ?_, ?_, ?_⟩
  · rw [hmemory']
    exact hnotices
  · show c'.world.memory.region buffer.region = .zeroed size
    rw [hmemory'', hid, Memory.region, List.getD_eq_getElem?_getD]
    exact congrArg (Option.getD · default) List.getElem?_concat_length
  · show buffer.region < c'.world.memory.regions.length
    rw [hmemory'', hid, List.length_append]
    exact Nat.lt_succ_self _

theorem Empty.of_region_eq {w w' : World (Machine ν)} {reader : Reader} {size : Nat}
    (h : Empty w reader size)
    (hregion : w'.memory.region reader.region = w.memory.region reader.region)
    (hlength : w.memory.regions.length ≤ w'.memory.regions.length)
    (hnotices : w'.rest.procs.notices = w.rest.procs.notices) : Empty w' reader size := by
  obtain ⟨hreader, hwriter, hzeroed, hlt⟩ := h
  refine ⟨?_, hnotices.trans ?_, hregion.trans hzeroed, Nat.lt_of_lt_of_le hlt hlength⟩
  · rw [Reader.attach, hregion]
    exact hreader
  · rw [Writer.attach, hregion]
    exact hwriter

/-- A parameter buffer that is opened later has nothing to do with the ring. -/
theorem openParams_spec {reader : Reader} {ringSize : Nat}
    (h : Machine.Idle (World.plainPart.get c.world))
    (hempty : Empty (World.plainPart.get c.world) reader ringSize) {size : Nat}
    {buffer : Option MappedBuffer}
    (hr : openParams Machine.platform.journaled.procs size c = (.ok buffer, c')) :
    Machine.Idle (World.plainPart.get c'.world) ∧
      Empty (World.plainPart.get c'.world) reader ringSize := by
  rw [openParams] at hr
  split at hr
  · cases hr
    exact ⟨h, hempty⟩
  · obtain ⟨buffer, c₁, hcreate, hr⟩ := Attempt.bind_eq_ok hr
    obtain ⟨⟨⟩, c₂, hregister, hr⟩ := Attempt.bind_eq_ok hr
    cases hr
    obtain ⟨slots, w, -, rfl, hopen⟩ := MappedBuffer.create_eq_ok hcreate
    have hopened : (Machine.platform.procs.openDataspace size buffer.dataspace).filling
        buffer.dataspace none c.world = (.ok buffer.region, w) := hopen
    obtain ⟨hidle, hmemory, -, hprocs⟩ :=
      Machine.openDataspace_eq_ok h (Attempt.plain_recorded hopened)
    obtain ⟨hidle', hmemory', hnotices⟩ := Machine.registerParams_eq_ok hidle
      (Attempt.plain_on_plain (CapSpace.world_of_on hregister))
    have hgrown := hmemory'.trans hmemory
    refine ⟨hidle', hempty.of_region_eq ?_ ?_ (hnotices.trans (by rw [hprocs]))⟩
    · rw [hgrown, Memory.region, Memory.region, List.getD_eq_getElem?_getD,
        List.getD_eq_getElem?_getD, List.getElem?_append_left hempty.2.2.2]
    · rw [hgrown, List.length_append]
      exact Nat.le_add_right _ _

/-- While a server comes up, nobody is watched until its ring is opened. -/
theorem Steps.idle {names : Option (NameResolver Directory)} {config : Config}
    {s : Server (Journaled (Machine ν))}
    {c c₁ c₂ c₃ c₄ c₅ c₆ : CapSpace (World (Journaled (Machine ν)))}
    (steps : Steps Machine.platform.journaled
      ((names.map directoryNames).map NameResolver.journaled) config s c c₁ c₂ c₃ c₄ c₅ c₆)
    (h : Machine.Idle (World.plainPart.get c.world)) :
    Machine.Idle (World.plainPart.get c₅.world) := by
  have hkernel : ∀ {α : Type} {x : Attempt (World (Journaled (Machine ν))) α},
      (∀ w₀ : World (Machine ν), x.Keeps fun w => Machine.Undisturbed w₀ (World.plainPart.get w)) →
        x.Keeps fun w => Machine.Idle (World.plainPart.get w) :=
    fun hx w hw => hw.of_undisturbed (hx _ w ⟨rfl, rfl, rfl⟩)
  have h₁ := (CapSpace.allocFilled_keeps (I := fun w => Machine.Idle (World.plainPart.get w))
    (fun dest w hw => Machine.Idle.procCall (x := SimProcs.newEndpoint dest) hw
      (show ProcCall.newEndpoint ≠ .unwatch from nofun) (fun _ => rfl) (Prod.eta _).symm)).of_eq
    steps.anonEp h
  have h₂ := (CapSpace.allocFilled_keeps (I := fun w => Machine.Idle (World.plainPart.get w))
    (fun dest w hw => Machine.Idle.procCall (x := SimProcs.newAsyncEndpoint dest) hw
      (show ProcCall.newAsyncEndpoint ≠ .unwatch from nofun) (fun _ => rfl)
      (Prod.eta _).symm)).of_eq steps.asyncEp h₁
  have h₃ := (CapSpace.allocFilled_keeps (I := fun w => Machine.Idle (World.plainPart.get w))
    (fun dest => hkernel fun w₀ => (Machine.keeps_undisturbed w₀).mint dest s.notifyAsyncEp
      config.noticeBadge)).of_eq steps.notifyEp h₂
  have h₄ : Machine.Idle (World.plainPart.get c₄.world) :=
    (hkernel fun w₀ => (Machine.keeps_undisturbed w₀).bindNotification s.notifyAsyncEp).of_eq
      (CapSpace.world_of_on steps.bound) h₃
  rcases publish_eq_ok steps.published with rfl | ⟨n, path, hn, hregister⟩
  · exact h₄
  · obtain ⟨n, hn', rfl⟩ := Option.map_eq_some_iff.1 hn
    obtain ⟨m, -, rfl⟩ := Option.map_eq_some_iff.1 hn'
    have hworld := congrArg Prod.snd (CapSpace.world_of_on hregister)
    dsimp only at hworld
    rw [← hworld]
    exact h₄

/-- A new server with a ring has an empty one, and watches nobody. -/
theorem start_guards {names : Option (NameResolver Directory)} {config : Config}
    {c : CapSpace (World (Machine ν))} (h : Machine.Idle c.world)
    (hring : config.notificationBufferSize ≠ 0) {s₀ : Server (Journaled (Machine ν))}
    (hr : start Machine.platform.journaled ((names.map directoryNames).map NameResolver.journaled)
      config c.withJournal = (.ok s₀, c')) : s₀.Guards [] := by
  obtain ⟨c₁, c₂, c₃, c₄, c₅, c₆, steps⟩ := start_eq_ok hr
  obtain ⟨h₆, buffer, hbuffer, hempty⟩ := openNotices_spec (steps.idle h) hring steps.notices
  obtain ⟨hidle, hreader, hwriter, hzeroed, -⟩ := openParams_spec h₆ hempty steps.params
  have hstanding : ∀ id, s₀.standing id = none := by
    intro id
    rw [standing]
    rcases ht : s₀.clients with _ | t
    · rfl
    · have hclients := steps.clients
      rw [ht] at hclients
      obtain ⟨-, hnone, hpending, -⟩ :=
        ClientTable.create_spec (create_of_openClients hclients).2
      rw [Option.bind_some, ClientTable.standing_eq_get? hpending]
      exact hnone id
  exact ⟨SimProcs.watches_nil hstanding hidle.1,
    ⟨buffer, hbuffer, hreader, hwriter, Memory.bears_nil hzeroed⟩, hidle.2⟩

/-! ## Runs -/

variable {s s₀ : Server (Journaled (Machine ν))} {unread : List Notice}
  {T : CapSpace.Terms (Machine ν)}

/-- The watches are kept by everything that happens and in every round. -/
theorem Guards.goOn (h : s.Guards unread) (hinv : T.inv = Machine.Faithful)
    (hsettled : Settled T s₀ s) {events : List Event} (hsucceed : s.Succeed events) :
    Settled T s₀ (s.goOn events) ∧ ∃ unread', Follows unread' s (s.goOn events) := by
  induction events generalizing s unread with
  | nil => exact ⟨hsettled, unread, h.refl⟩
  | cons e events ih =>
    obtain ⟨hfirst, hrest⟩ := hsucceed
    have hstep : Settled T s₀ (e.after s) ∧ ∃ unread', Follows unread' s (e.after s) := by
      cases e with
      | happens x => exact ⟨hsettled.interlude hinv x.interlude, h.happens hfirst⟩
      | serve => exact ⟨hsettled.round hinv, (h.round hinv hsettled).1⟩
    obtain ⟨hsettled', unread₁, hfollows⟩ := hstep
    obtain ⟨hsettled'', unread₂, hfollows'⟩ := ih hfollows.guards hsettled' hrest
    exact ⟨hsettled'', unread₂, hfollows.trans hfollows'⟩

/-- All live sessions are connected, and each of them is watched or its death is unread. -/
structure Watched (s : Server (Journaled (Machine ν))) (deaths : List DeathId) : Prop where
  pending : ∀ t, s.clients = some t → t.pending = []
  active : ∀ id session, s.session? id = some session → s.state? id = some .active ∧
    ∃ death, session.deathId = some death ∧ death ≤ s.procs.lastDeath
  differ : s.DeathsDiffer
  /-- The watches on a session's liveness capability: one, or none if its death is unread. -/
  watched : ∀ id session death, s.session? id = some session → session.deathId = some death →
    (s.procs.watches.filter fun w => w.liveness == session.liveness) =
      if death ∈ deaths then [] else [⟨session.liveness, s.notifyEp, death⟩]
  /-- Every watch is on a live session. -/
  live : ∀ w ∈ s.procs.watches, ∃ id session, s.session? id = some session ∧
    session.liveness = w.liveness
  given : ∀ death ∈ deaths, death ≤ s.procs.lastDeath

theorem Guards.watched (h : s.Guards unread) (hpending : ∀ t, s.clients = some t → t.pending = []) :
    s.Watched (deathsOf unread) := by
  have hstanding := session?_eq_standing hpending
  refine ⟨hpending, fun id session hid => ?_, h.differ hpending,
    fun id session death hid hdeath => ?_, fun w hw => ?_, h.watches.given⟩
  · obtain ⟨hactive, hdeath⟩ := h.watches.active id session (by rw [← hstanding]; exact hid)
    refine ⟨?_, hdeath⟩
    rw [state?_of_pending hpending, hid, Option.map_some, if_pos hactive]
  · rw [hstanding] at hid
    exact h.watches.filter_watches hid hdeath
  · obtain ⟨⟨id, session, hid, hwatch⟩, -⟩ := (h.watches.mem_watches w).1 hw
    rw [hstanding]
    exact ⟨id, session, hid, (SimProcs.Watches.watch_eq_some.1 hwatch).2.1⟩

/-- **Every client is watched, and a late notice ends no other session.** Bring a server with a
notification ring up on a machine where nobody is watched, and let anything happen and rounds be
gone through. Then each live session is connected and has either one watch or an unread notice of
its death, never both, and there are no other watches. A session that has a death id given out
before some moment is the session that had it at that moment. So when the ring is drained, it is for
its own death that a session ends. -/
theorem deaths_watched (names : Option (NameResolver Directory)) (config : Config)
    (c : CapSpace (World (Machine ν))) (hroomy : c.slots.pool.Roomy) (hidle : Machine.Idle c.world)
    (hring : config.notificationBufferSize ≠ 0) {s₀ : Server (Journaled (Machine ν))}
    {c' : CapSpace (World (Journaled (Machine ν)))}
    (hstart : start Machine.platform.journaled
      ((names.map directoryNames).map NameResolver.journaled) config c.withJournal = (.ok s₀, c'))
    (earlier later : List Event)
    (hearlier : s₀.Succeed earlier) (hlater : (s₀.goOn earlier).Succeed later) :
    let s := s₀.goOn earlier
    let s' := s.goOn later
    Lasts s.session? s'.session? s.procs.lastDeath ∧
      ∃ unread, s'.Bears unread ∧ s'.Watched (deathsOf unread) ∧
        ∀ msg received, s'.receive = (.ok msg, received) → msg.badge = s'.config.noticeBadge →
          ∀ id, s'.round.session? id = (s'.session? id).filter (spared (deathsOf unread)) := by
  intro s s'
  obtain ⟨hsettled₀, -, -, -⟩ := start_settled hroomy hstart
  obtain ⟨hsettled, unread₁, hfollows⟩ :=
    (start_guards hidle hring hstart).goOn rfl hsettled₀ hearlier
  obtain ⟨hsettled', unread₂, hfollows'⟩ := hfollows.guards.goOn rfl hsettled hlater
  refine ⟨?_, unread₂, hfollows'.guards.bears, hfollows'.guards.watched hsettled'.pending,
    (hfollows'.guards.round rfl hsettled').2⟩
  rw [session?_eq_standing hsettled.pending, session?_eq_standing hsettled'.pending]
  exact hfollows'.lasts

/-- A client connects and is killed, and its session is closed before its death was read. -/
def sampleEarlier : List Event :=
  [.happens (.message ((Request.encode .connect).withCap 0x500)), .serve, .happens (.kill 0x105),
    .happens (.message { Request.encode .disconnect with badge := 0x1001 }), .serve]

/-- Another client connects and gets the id of the first one; then notifications are signalled. -/
def sampleLater : List Event :=
  [.happens (.message ((Request.encode .connect).withCap 0x501)), .serve,
    .happens (.message { Request.encode .ping with badge := 0x10 })]

/-- The same for an id that is used again before the death of its first client is read. -/
theorem deaths_watched_with_recycled_id :
    let s' := (sampleServer.goOn sampleEarlier).goOn sampleLater
    (∃ unread, s'.Bears unread ∧ s'.Watched (deathsOf unread)) ∧ s'.deathsAhead = [1] ∧
      (s'.session? 1).bind Session.deathId = some 2 ∧ s'.round.session? 1 = s'.session? 1 := by
  have hearlier : sampleServer.Succeed sampleEarlier :=
    ⟨trivial, trivial, ⟨⟨0x105, 0x102, 1⟩, rfl, by decide⟩, trivial, trivial, trivial⟩
  have hlater : (sampleServer.goOn sampleEarlier).Succeed sampleLater :=
    ⟨trivial, trivial, trivial, trivial⟩
  obtain ⟨-, unread, hbears, hwatched, -⟩ := deaths_watched none sampleConfig sampleCaps
    (Pool.roomy_ofRange _ _) ⟨rfl, rfl⟩ (by decide) sampleStart_eq sampleEarlier sampleLater
    hearlier hlater
  exact ⟨⟨unread, hbears, hwatched⟩, by decide +kernel, by decide +kernel, by decide +kernel⟩

end Server

end CapServer
