import CapServer.Proofs.Server.Confined
import CapServer.Sim.Machine

/-!
# Who owns which slot

A server that was brought up (`Server.start`) owns its endpoints and buffers. Whatever is done with
it afterwards (`Server.Call`), the slots that its allocator counts as handed out are its own, those
of its live sessions, and those the kernel refused to empty (`slots_accounted`); and bringing it
down leaves only the last (`shutdown_accounts`).
-/

namespace CapServer

open CapSpace (Terms)

variable {σ : Type}

/-! ## Bringing a server up -/

/-- A buffer is mapped once its dataspace is open in a slot taken for it. -/
theorem MappedBuffer.create_eq_ok {procs : ProcessServer (World σ)} {c c' : CapSpace (World σ)}
    {size : Nat} {buffer : MappedBuffer} (hr : create procs size c = (.ok buffer, c')) :
    ∃ slots w, c.slots.alloc = some (buffer.dataspace, slots) ∧ c' = ⟨slots, w⟩ ∧
      procs.openDataspace size buffer.dataspace c.world = (.ok buffer.region, w) := by
  obtain ⟨dataspace, c₁, halloc, hr⟩ := Attempt.bind_eq_ok hr
  rw [CapSpace.alloc] at halloc
  split at halloc
  · next slot slots hslots =>
    cases halloc
    rw [Attempt.bind_apply, Attempt.catching_apply] at hr
    rcases hopen : procs.openDataspace size dataspace c.world with ⟨e | region, w⟩
    · simp only [Attempt.on_apply, CapSpace.worldPart, hopen] at hr
      cases hr
    · simp only [Attempt.on_apply, CapSpace.worldPart, hopen] at hr
      cases hr
      exact ⟨slots, w, hslots, rfl, hopen⟩
  · cases halloc

namespace CapSpace.Accounts

variable {c c' : CapSpace (World (Journaled σ))} {T : Terms σ} {owned : List Holding}

/-- What leaves the journal alone, done on the world of a capability space. -/
theorem on_world {α : Type} {x : Attempt (World (Journaled σ)) α} {a : Except Failure α}
    (h : c.Accounts T owned) (hr : x.on worldPart c = (a, c'))
    (hjournal : ∀ w, (x w).2.journal = w.journal) (hinv : x.Keeps T.inv) : c'.Accounts T owned := by
  cases hr
  exact h.of_journal_eq (hjournal c.world) (hinv c.world h.inv)

variable {procs : ProcessServer (World σ)} (hprocs : procs.journaled.Keeps T.inv)

include hprocs

/-- A mapped buffer is held by the slot of its dataspace. -/
theorem create (h : c.Accounts T owned) {size : Nat} {buffer : MappedBuffer}
    (hr : MappedBuffer.create procs.journaled size c = (.ok buffer, c')) :
    c'.Accounts T (Server.Station.bufferHoldings (some buffer) ++ owned) := by
  obtain ⟨slots, w, hslots, rfl, hopen⟩ := MappedBuffer.create_eq_ok hr
  have hfilled : (procs.openDataspace size buffer.dataspace).filling buffer.dataspace none c.world =
      (.ok buffer.region, w) := hopen
  exact h.filled hslots (Attempt.journal_recorded hfilled)
    ((hprocs.openDataspace size buffer.dataspace).of_eq hopen h.inv)

end CapSpace.Accounts

namespace Server

/-- Publishing an endpoint asks a name service, if there is anything to publish. -/
theorem publish_eq_ok {names : Option (NameResolver (World σ))} {config : Config}
    {endpoint : CapPtr} {c c' : CapSpace (World σ)}
    (hr : publish names config endpoint c = (.ok (), c')) :
    c' = c ∨ ∃ n path, names = some n ∧
      (n.register config.nameServer path endpoint).on CapSpace.worldPart c = (.ok (), c') := by
  rw [publish] at hr
  rcases hmount : config.mountPoint with _ | path
  · rw [hmount] at hr
    cases hr
    exact .inl rfl
  · rw [hmount] at hr
    rcases names with _ | n
    · cases hr
    · exact .inr ⟨n, path, rfl, hr⟩

/-- The steps in which a server comes up, and the capability space after each of them. -/
structure Steps (p : Platform (World σ)) (names : Option (NameResolver (World σ))) (config : Config)
    (s : Server σ) (c c₁ c₂ c₃ c₄ c₅ c₆ : CapSpace (World σ)) : Prop where
  badges : config.checkBadges = .ok ()
  anonEp : CapSpace.allocFilled p.procs.newEndpoint c = (.ok s.anonEp, c₁)
  asyncEp : CapSpace.allocFilled p.procs.newAsyncEndpoint c₁ = (.ok s.notifyAsyncEp, c₂)
  notifyEp : CapSpace.mint p.kernel s.notifyAsyncEp config.noticeBadge c₂ = (.ok s.notifyEp, c₃)
  bound : (p.kernel.bindNotification s.notifyAsyncEp).on CapSpace.worldPart c₃ = (.ok (), c₄)
  published : publish names config s.anonEp c₄ = (.ok (), c₅)
  clients : openClients config s.anonEp = .ok s.clients
  notices : openNotices p.procs config.notificationBufferSize c₅ = (.ok s.notices, c₆)
  params : openParams p.procs config.paramBufferSize c₆ = (.ok s.paramBuffer, s.caps)
  config_eq : s.config = config

/-- A server that came up went through all the steps. -/
theorem start_eq_ok {p : Platform (World σ)} {names : Option (NameResolver (World σ))}
    {config : Config} {c c' : CapSpace (World σ)} {s : Server σ}
    (hr : start p names config c = (.ok s, c')) :
    ∃ c₁ c₂ c₃ c₄ c₅ c₆, Steps p names config s c c₁ c₂ c₃ c₄ c₅ c₆ := by
  obtain ⟨⟨⟩, c₁, hbadges, hr⟩ := Attempt.bind_eq_ok hr
  obtain ⟨anonEp, c₂, hanon, hr⟩ := Attempt.bind_eq_ok hr
  obtain ⟨notifyAsyncEp, c₃, hasync, hr⟩ := Attempt.bind_eq_ok hr
  obtain ⟨notifyEp, c₄, hnotify, hr⟩ := Attempt.bind_eq_ok hr
  obtain ⟨⟨⟩, c₅, hbind, hr⟩ := Attempt.bind_eq_ok hr
  obtain ⟨⟨⟩, c₆, hpublish, hr⟩ := Attempt.bind_eq_ok hr
  obtain ⟨clients, c₇, hclients, hr⟩ := Attempt.bind_eq_ok hr
  obtain ⟨notices, c₈, hnotices, hr⟩ := Attempt.bind_eq_ok hr
  obtain ⟨paramBuffer, c₉, hparams, hr⟩ := Attempt.bind_eq_ok hr
  cases hr
  rw [Attempt.ofExcept_apply, Prod.mk.injEq] at hbadges hclients
  obtain ⟨hbadges, rfl⟩ := hbadges
  obtain ⟨hclients, rfl⟩ := hclients
  exact ⟨_, _, _, _, _, _, hbadges, hanon, hasync, hnotify, hbind, hpublish, hclients, hnotices,
    hparams, rfl⟩

variable {p : Platform (World σ)} {names : Option (NameResolver (World σ))} {config : Config}
  {T : Terms σ} {owned : List Holding} {c c' : CapSpace (World (Journaled σ))}

theorem openNotices_accounts (hp : Respects p T.inv) (h : c.Accounts T owned) {size : Nat}
    {notices : Option NoticeBuffer}
    (hr : openNotices p.journaled.procs size c = (.ok notices, c')) :
    c'.Accounts T (Station.bufferHoldings (notices.map fun b => ⟨b.dataspace, b.reader.region⟩) ++
      owned) := by
  rw [openNotices] at hr
  split at hr
  · cases hr
    exact h
  · obtain ⟨buffer, c₁, hcreate, hr⟩ := Attempt.bind_eq_ok hr
    obtain ⟨⟨⟩, c₂, hregister, hr⟩ := Attempt.bind_eq_ok hr
    cases hr
    exact (h.create hp.calls.procs hcreate).on_world hregister (fun _ => rfl)
      (hp.calls.procs.registerNotices _)

theorem openParams_accounts (hp : Respects p T.inv) (h : c.Accounts T owned) {size : Nat}
    {buffer : Option MappedBuffer}
    (hr : openParams p.journaled.procs size c = (.ok buffer, c')) :
    c'.Accounts T (Station.bufferHoldings buffer ++ owned) := by
  rw [openParams] at hr
  split at hr
  · cases hr
    exact h
  · obtain ⟨buffer, c₁, hcreate, hr⟩ := Attempt.bind_eq_ok hr
    obtain ⟨⟨⟩, c₂, hregister, hr⟩ := Attempt.bind_eq_ok hr
    cases hr
    exact (h.create hp.calls.procs hcreate).on_world hregister (fun _ => rfl)
      (hp.calls.procs.registerParams _ _)

theorem publish_accounts (hnames : ∀ n, names = some n → n.journaled.Keeps T.inv)
    (h : c.Accounts T owned) {endpoint : CapPtr}
    (hr : publish (names.map NameResolver.journaled) config endpoint c = (.ok (), c')) :
    c'.Accounts T owned := by
  rcases publish_eq_ok hr with rfl | ⟨n, path, hn, hregister⟩
  · exact h
  · obtain ⟨m, hm, rfl⟩ := Option.map_eq_some_iff.1 hn
    exact h.on_world hregister (fun _ => rfl) ((hnames m hm).register _ _ _)

/-- A server that was brought up owns what it holds for itself, and its clients are as its
configuration asks for. -/
theorem start_accounts (hp : Respects p T.inv)
    (hnames : ∀ n, names = some n → n.journaled.Keeps T.inv) (h : c.Accounts T owned)
    {s : Server (Journaled σ)}
    (hr : start p.journaled (names.map NameResolver.journaled) config c = (.ok s, c')) :
    s.caps.Accounts T (s.station.holdings ++ owned) ∧ config.checkBadges = .ok () ∧
      s.config = config ∧ openClients config s.anonEp = .ok s.clients := by
  obtain ⟨c₁, c₂, c₃, c₄, c₅, c₆, steps⟩ := start_eq_ok hr
  have h₁ := h.allocFilled (fun dest => hp.calls.procs.newEndpoint dest) steps.anonEp
  have h₂ := h₁.allocFilled (fun dest => hp.calls.procs.newAsyncEndpoint dest) steps.asyncEp
  have h₃ := h₂.mint hp.calls.kernel steps.notifyEp
  have h₄ := h₃.on_world steps.bound (fun _ => rfl) (hp.calls.kernel.bindNotification _)
  have h₅ := publish_accounts hnames h₄ steps.published
  have h₆ := openNotices_accounts hp h₅ steps.notices
  have hs := openParams_accounts hp h₆ steps.params
  refine ⟨hs.perm ?_, steps.badges, steps.config_eq, steps.clients⟩
  rw [Station.holdings, List.append_assoc, List.append_assoc, station, steps.config_eq]
  exact List.perm_append_comm_assoc _ _ _

/-- A server with clients has a new table for them. -/
theorem create_of_openClients {source : CapPtr} {t : ClientTable}
    (h : openClients config source = .ok (some t)) : config.maxClients ≠ 0 ∧
      ClientTable.create config.maxClients config.clientBadgeBase source = .ok t := by
  rw [openClients] at h
  split at h
  · cases h
  · next hclients =>
    rcases hcreate : ClientTable.create config.maxClients config.clientBadgeBase source with e | u
    · rw [hcreate] at h
      cases h
    · rw [hcreate] at h
      cases Option.some.inj (Except.ok.inj h)
      exact ⟨hclients, rfl⟩

/-- What a new server has of its own is set aside from now on, besides what was set aside before. -/
theorem start_confined (hp : Respects p T.inv)
    (hnames : ∀ n, names = some n → n.journaled.Keeps T.inv) (h : c.Accounts T [])
    {s : Server (Journaled σ)}
    (hr : start p.journaled (names.map NameResolver.journaled) config c = (.ok s, c'))
    (P : ClientId → Bool) :
    Confined P ⟨s.caps.world.journal, T.kept ++ s.station.holdings, T.inv⟩ s s := by
  obtain ⟨haccounts, -, -, hclients⟩ := start_accounts hp hnames h hr
  have hset : s.caps.Accounts ⟨_, T.kept ++ s.station.holdings, T.inv⟩ [] :=
    haccounts.rebase (List.Perm.of_eq (by rw [List.append_nil, List.append_nil]))
  refine ⟨rfl, ?_⟩
  rcases ht : s.clients with _ | t
  · exact .inl ⟨rfl, rfl, hset⟩
  · rw [ht] at hclients
    obtain ⟨hvalid, hnone, hpending, -, -⟩ :=
      ClientTable.create_spec (create_of_openClients hclients).2
    refine .inr ⟨t, t, rfl, rfl, hvalid, fun _ _ => rfl, ⟨rfl, rfl⟩, fun id hid => ?_, ?_⟩
    · rw [hpending] at hid
      cases hid
    · rw [ClientTable.holdingsOf_eq_nil hnone]
      exact hset

/-! ## Using it -/

/-- What can be done with a server between its beginning and its end, and what can happen to its
surroundings meanwhile. -/
inductive Call (τ : Type)
  /-- One round of the server. -/
  | serve
  | handle (msg : Message)
  | sweep
  | connect (msg : Message)
  | setParamBuffer (client : ClientId) (msg : Message) (size : Nat)
  | disconnect (client : ClientId)
  /-- The world changes by itself. -/
  | outside (change : World τ → World τ)

namespace Call

/-- The server after a call, whether it succeeded or not. -/
def perform {τ : Type} (p : Platform (World τ)) (s : Server τ) : Call τ → Server τ
  | serve => (Server.serve p.kernel (.basic p)).settle s
  | handle msg => (Server.handle p.kernel (.basic p) msg s).2
  | sweep => (Server.sweep p.kernel s).2
  | connect msg => (Server.connect p msg).settle s
  | setParamBuffer client msg size => (Server.setParamBuffer p.kernel client msg size).settle s
  | disconnect client => (Server.disconnect p.procs client).settle s
  | outside change => worldPart.set (change (worldPart.get s)) s

/-- The same call where a journal is kept. -/
def journaled : Call σ → Call (Journaled σ)
  | serve => serve
  | handle msg => handle msg
  | sweep => sweep
  | connect msg => connect msg
  | setParamBuffer client msg size => setParamBuffer client msg size
  | disconnect client => disconnect client
  | outside change => outside fun w => World.plainPart.set (change (World.plainPart.get w)) w

/-- A call from outside keeps a property; the others do so if the platform does. -/
def Respects (I : World (Journaled σ) → Prop) : Call σ → Prop
  | outside change => ∀ w, I w → I (World.plainPart.set (change (World.plainPart.get w)) w)
  | _ => True

theorem respects_trivial (call : Call σ) : call.Respects fun _ => True := by
  cases call with
  | outside change => exact fun _ _ => trivial
  | _ => trivial

end Call

/-- The server after one call after the other. -/
def run {τ : Type} (p : Platform (World τ)) (s : Server τ) (calls : List (Call τ)) : Server τ :=
  calls.foldl (fun s call => call.perform p s) s

/-- A round: there is no message, or one is received and handled, and the sweep follows. -/
theorem serve_cases {τ : Type} (k : Kernel (World τ)) (svc : Service τ) (s : Server τ) :
    (∃ e s', (k.receive s.anonEp).on worldPart s = (.error e, s') ∧
        serve k svc s = (.error e, s')) ∨
      ∃ msg s', (k.receive s.anonEp).on worldPart s = (.ok msg, s') ∧
        serve k svc s =
          (.ok (handle k svc msg s').1, (Server.sweep k (handle k svc msg s').2).2) := by
  rcases hreceive : (k.receive s.anonEp).on worldPart s with ⟨e | msg, s'⟩
  · refine .inl ⟨e, s', rfl, ?_⟩
    rw [serve, Attempt.bind_ok (Attempt.get_apply s), Attempt.bind_error hreceive]
  · refine .inr ⟨msg, s', rfl, ?_⟩
    rw [serve, Attempt.bind_ok (Attempt.get_apply s), Attempt.bind_ok hreceive]
    rfl

/-- Every client is chosen. -/
def anyone : ClientId → Bool := fun _ => true

variable {s₀ s : Server (Journaled σ)}

/-- No call touches what a server has of its own, and each of them keeps account of the rest. -/
theorem Confined.call (hp : Respects p T.inv) (h : Confined anyone T s₀ s) {call : Call σ}
    (hcall : call.Respects T.inv) :
    Confined anyone T s₀ (call.journaled.perform p.journaled s) := by
  cases call with
  | serve =>
    have hreceive := h.on_world (x := p.journaled.kernel.receive s.anonEp) (fun _ => rfl)
      (hp.calls.kernel.receive s.anonEp)
    show Confined anyone T s₀ (Server.serve p.journaled.kernel (.basic p.journaled) s).2
    rcases serve_cases p.journaled.kernel (.basic p.journaled) s with
      ⟨e, s', hr, hserve⟩ | ⟨msg, s', hr, hserve⟩
    · rw [hr] at hreceive
      rw [hserve]
      exact hreceive
    · rw [hr] at hreceive
      rw [hserve]
      exact (hreceive.handle hp fun _ _ => rfl).sweep hp
  | handle msg => exact h.handle hp fun _ _ => rfl
  | sweep => exact h.sweep hp
  | connect msg => exact h.connect hp (fun _ _ => rfl) msg
  | setParamBuffer client msg size => exact h.setParamBuffer hp rfl msg size
  | disconnect client => exact h.disconnect hp rfl
  | outside change => exact h.of_journal_eq rfl rfl rfl rfl (hcall s.caps.world h.inv)

/-! ## The slots in use -/

/-- The slots that a server owns, those of its sessions included. -/
def ownedSlots {τ : Type} (s : Server τ) : List CapPtr :=
  s.ownSlots ++ s.clients.elim [] fun t => t.sessions.flatMap Session.slots

/-- What a server and its sessions hold. -/
def holdings {τ : Type} (s : Server τ) : List Holding :=
  s.station.holdings ++ s.clients.elim [] fun t => t.holdingsOf anyone

theorem slots_holdings {τ : Type} (s : Server τ) : Holding.slots s.holdings = s.ownedSlots := by
  rw [holdings, Holding.slots_append, Station.slots_holdings, ownedSlots]
  rcases s.clients with _ | t
  · rfl
  · exact congrArg (s.ownSlots ++ ·) t.slots_holdingsOf

/-- All that a server owns can be put at disposal, beside what was set aside before it came up. -/
theorem Confined.accounts_append (h : Confined anyone T s₀ s) {kept : List Holding}
    (hkept : T.kept = kept ++ s₀.station.holdings) :
    s.caps.Accounts ⟨s.caps.world.journal, kept, T.inv⟩ s.holdings := by
  rw [← h.station] at hkept
  rcases h.clients with ⟨-, hnone, accounts⟩ | ⟨t₀, t, -, ht, confined⟩
  · rw [holdings, hnone]
    apply accounts.rebase
    rw [hkept, List.append_assoc]
    rfl
  · rw [holdings, ht]
    apply confined.accounts.rebase
    rw [hkept, List.append_assoc]
    rfl

theorem Confined.accounts (h : Confined anyone T s₀ s) (hkept : T.kept = s₀.station.holdings) :
    s.caps.Accounts ⟨s.caps.world.journal, [], T.inv⟩ s.holdings :=
  h.accounts_append hkept

/-- Bringing a server down gives up all that it owns. -/
theorem shutdown_accounts (hp : Respects p T.inv)
    (hnames : ∀ n, names = some n → n.journaled.Keeps T.inv)
    (h : s.caps.Accounts T s.holdings) :
    (s.shutdown p.journaled.kernel (names.map NameResolver.journaled)).Accounts T [] := by
  have hwithdraw : (s.withdraw (names.map NameResolver.journaled)).Accounts T s.holdings := by
    rcases hmount : s.config.mountPoint with _ | path
    · simp only [withdraw, hmount]
      exact h
    · rcases names with _ | n
      · simp only [withdraw, hmount, Option.map_none]
        exact h
      · simp only [withdraw, hmount, Option.map_some]
        refine h.on_world (x := n.journaled.unregister s.config.nameServer path) (Prod.eta _).symm
          (fun _ => rfl) ((hnames n rfl).unregister _ _)
  rw [holdings] at hwithdraw
  rw [shutdown, ← Station.slots_holdings]
  rcases hclients : s.clients with _ | t
  · rw [hclients] at hwithdraw
    exact hwithdraw.discardAll hp.calls.kernel
  · rw [hclients] at hwithdraw
    dsimp only
    rw [ClientTable.release_eq]
    have hrest := (hwithdraw.perm List.perm_append_comm).discardAll hp.calls.kernel
    exact (hrest.perm (List.Perm.of_eq (List.append_nil _).symm)).discardAll hp.calls.kernel

theorem Confined.run (hp : Respects p T.inv) (h : Confined anyone T s₀ s) {calls : List (Call σ)}
    (hcalls : ∀ call ∈ calls, call.Respects T.inv) :
    Confined anyone T s₀ (s.run p.journaled (calls.map Call.journaled)) := by
  induction calls generalizing s with
  | nil => exact h
  | cons call calls ih =>
    exact ih (h.call hp (hcalls call List.mem_cons_self))
      fun other hother => hcalls other (List.mem_cons_of_mem _ hother)

/-- Whatever was done with a server since it came up, all that it owns is accounted for, beside the
slots that were in use before. -/
theorem accounts_run {c : CapSpace (World σ)} (hroomy : c.slots.pool.Roomy)
    {c' : CapSpace (World (Journaled σ))}
    (hstart : start p.journaled (names.map NameResolver.journaled) config c.withJournal =
      (.ok s₀, c')) (calls : List (Call σ)) :
    let s := s₀.run p.journaled (calls.map Call.journaled)
    s.caps.Accounts ⟨s.caps.world.journal, c.slots.pool.takenIds.map fun slot => ⟨slot, none⟩,
      fun _ => True⟩ s.holdings := by
  have hp : Respects p fun _ => True := ⟨p.journaled.keeps_trivial, fun _ _ _ => trivial⟩
  have hbegin := CapSpace.Accounts.withJournal hroomy (I := fun _ => True) trivial
  have hconfined := start_confined hp (fun n _ => n.journaled.keeps_trivial) hbegin hstart anyone
  exact (hconfined.run hp fun call (_ : call ∈ calls) => call.respects_trivial).accounts_append rfl

/-- **The slots in use are accounted for.** Start a server on a capability space without a slot in
use, on any platform, and do with it whatever can be done. Then the slots handed out are those owned
by the server and its live sessions, no slot twice, and those that the kernel refused to empty;
the kernel was never asked to empty a slot that nobody owned. Bringing the server down, then, leaves
only the refused ones in use. -/
theorem slots_accounted (p : Platform (World σ)) (names names' : Option (NameResolver (World σ)))
    (config : Config) (c : CapSpace (World σ)) (hroomy : c.slots.pool.Roomy)
    (hempty : c.slots.inUse = 0) {s₀ : Server (Journaled σ)} {c' : CapSpace (World (Journaled σ))}
    (hstart : start p.journaled (names.map NameResolver.journaled) config c.withJournal =
      (.ok s₀, c')) (calls : List (Call σ)) :
    let s := s₀.run p.journaled (calls.map Call.journaled)
    let journal := s.caps.world.journal
    let left := s.shutdown p.journaled.kernel (names'.map NameResolver.journaled)
    (∀ slot, s.caps.slots.pool.isTaken slot = true ↔ slot ∈ s.ownedSlots ++ journal.refused) ∧
      (s.ownedSlots ++ journal.refused).Nodup ∧
      s.caps.slots.inUse = s.ownedSlots.length + journal.refused.length ∧
      journal.Lawful ∧ journal.slots.Perm s.ownedSlots ∧
      left.world.journal.Lawful ∧ left.slots.inUse = left.world.journal.refused.length := by
  intro s journal left
  have hp : Respects p fun _ => True := ⟨p.journaled.keeps_trivial, fun _ _ _ => trivial⟩
  have hbegin := CapSpace.Accounts.withJournal hroomy (I := fun _ => True) trivial
  rw [Pool.takenIds_eq_nil hempty] at hbegin
  have hrun := (start_confined hp (fun n _ => n.journaled.keeps_trivial) hbegin hstart anyone).run
    hp fun call (_ : call ∈ calls) => call.respects_trivial
  have haccounts : s.caps.Accounts _ s.holdings := hrun.accounts rfl
  have hleft : left.Accounts _ [] :=
    shutdown_accounts hp (fun n _ => n.journaled.keeps_trivial) haccounts
  have htaken := haccounts.isTaken_iff
  have hnodup := haccounts.nodup
  have hinUse := haccounts.inUse_eq
  have hheld := Holding.perm_slots haccounts.held
  rw [List.nil_append, slots_holdings] at hnodup hinUse hheld
  refine ⟨fun slot => ?_, hnodup, ?_, haccounts.lawful, hheld, hleft.lawful, hleft.inUse_eq⟩
  · rw [htaken slot, List.nil_append, slots_holdings]
  · rw [hinUse, List.length_append]

/-- A small server. -/
def sampleConfig : Config :=
  { maxClients := 4, notificationBufferSize := 0x100, paramBufferSize := 0x40 }

/-- Thirty-two free slots on a fresh machine. -/
def sampleCaps : CapSpace (World (Machine Unit)) := ⟨⟨.ofRange 0x100 0x120⟩, ⟨.empty, .fresh ()⟩⟩

/-- Bringing the small server up. -/
def sampleStart :
    Except Failure (Server (Journaled (Machine Unit))) ×
      CapSpace (World (Journaled (Machine Unit))) :=
  start Machine.platform.journaled none sampleConfig sampleCaps.withJournal

/-- The small server, just brought up. -/
def sampleServer : Server (Journaled (Machine Unit)) :=
  sampleStart.1.toOption.get (by decide +kernel)

theorem sampleStart_eq : sampleStart = (.ok sampleServer, sampleStart.2) := rfl

/-- A message is sent, and later deletions go by plan. -/
def sampleSend (msg : Message) (deletions : List (Option Failure)) : Call (Machine Unit) :=
  .outside fun w => { w with rest := { w.rest with
    kernel := w.rest.kernel.enqueue msg
    kernelFaults := w.rest.kernelFaults.extend .delete deletions } }

/-- A client connects, and leaves while its liveness capability cannot be deleted. -/
def sampleCalls : List (Call (Machine Unit)) :=
  [sampleSend ((Request.encode .connect).withCap 0x500) [], .serve,
    sampleSend { Request.encode .disconnect with badge := 0x1001 } [some (.kernel (-1))], .serve]

/-- The same for a client that leaves one slot behind. -/
theorem slots_accounted_after_refusal :
    let s := sampleServer.run Machine.platform.journaled (sampleCalls.map Call.journaled)
    let left := s.shutdown Machine.platform.journaled.kernel
      ((none : Option (NameResolver (World (Machine Unit)))).map NameResolver.journaled)
    s.caps.slots.inUse = s.ownedSlots.length + s.caps.world.journal.refused.length ∧
      s.ownedSlots.length = 5 ∧ left.slots.inUse = left.world.journal.refused.length ∧
      left.world.journal.refused = [0x105] := by
  obtain ⟨-, -, hinUse, -, -, -, hleft⟩ := slots_accounted Machine.platform none none sampleConfig
    sampleCaps (Pool.roomy_ofRange _ _) rfl sampleStart_eq sampleCalls
  exact ⟨hinUse, by decide +kernel, hleft, by decide +kernel⟩

end Server

end CapServer
