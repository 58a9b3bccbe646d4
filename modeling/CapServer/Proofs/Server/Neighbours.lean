import CapServer.Proofs.Names.Reachable
import CapServer.Proofs.Server.Lifetimes

/-!
# Servers that share a name service

Any number of servers come up and go down again, each in a world of its own, and publish their
mount points in one directory (`Neighbours`). Meanwhile they are used, and others call the
directory.

A server that goes down takes its mount point back by name. So it removes what stands there and
nothing else (`Config.Withdraws`), and that is its own endpoint as long as nobody registered or
removed the name since (`Neighbours.Spare`). If another server mounted itself there meanwhile, its
registration is the one that goes (`Neighbours.successor_withdrawn`).
-/

namespace CapServer

/-! ## Taking a mount point back -/

namespace Config

variable {config : Config} {d d' : Directory} {ns : CapPtr} {name path : Path}

/-- Whether a server is published under a name at a name server. -/
def MountsAt (config : Config) (ns : CapPtr) (name : Path) : Prop :=
  config.nameServer = ns ∧ config.mountPoint.map Path.dropSlash = some name

/-- The endpoint that stands under the mount point. -/
def mounted (config : Config) (d : Directory) : Option CapPtr :=
  config.mountPoint.bind fun path => d.lookup config.nameServer path.dropSlash

/-- The directory once the mount point is taken back. -/
def withdrawn (config : Config) (d : Directory) : Directory :=
  match config.mountPoint with
  | none => d
  | some path => (Directory.unregister config.nameServer path).settle d

/-- Nothing was done to a directory but to register the mount point, if anything. -/
def Publishes (config : Config) (d d' : Directory) : Prop :=
  ∃ calls : List Directory.Call,
    (∀ call ∈ calls, ∃ path endpoint, config.mountPoint = some path ∧
      call = .register config.nameServer path endpoint) ∧ d' = d.settle calls

/-- Of all registrations at most the one under the mount point goes, and at most its endpoint is
handed back. -/
structure Withdraws (config : Config) (d d' : Directory) : Prop where
  others : ∀ ns name, ¬ config.MountsAt ns name → d'.lookup ns name = d.lookup ns name
  mount : ∀ ns name, config.MountsAt ns name → d'.lookup ns name = none
  released : d'.released = d.released ++ (config.mounted d).toList

theorem mountsAt_iff (h : config.mountPoint = some path) :
    config.MountsAt ns name ↔ ns = config.nameServer ∧ name = path.dropSlash := by
  rw [MountsAt, h, Option.map_some, Option.some.injEq, eq_comm, @eq_comm _ path.dropSlash]

theorem not_mountsAt (h : config.mountPoint = none) : ¬ config.MountsAt ns name := by
  rw [MountsAt, h]
  exact fun hmount => nomatch hmount.2

theorem withdraws_withdrawn (hd : d.Valid) : config.Withdraws d (config.withdrawn d) := by
  rcases hmount : config.mountPoint with _ | path
  · have hwithdrawn : config.withdrawn d = d := by rw [withdrawn, hmount]
    have hmounted : config.mounted d = none := by rw [mounted, hmount, Option.bind_none]
    rw [hwithdrawn]
    refine ⟨fun _ _ _ => rfl, fun _ _ h => absurd h (not_mountsAt hmount), ?_⟩
    rw [hmounted, Option.toList_none, List.append_nil]
  · have hwithdrawn : config.withdrawn d =
        (Directory.unregister config.nameServer path).settle d := by rw [withdrawn, hmount]
    have hmounted : config.mounted d = d.lookup config.nameServer path.dropSlash := by
      rw [mounted, hmount, Option.bind_some]
    rw [hwithdrawn]
    refine ⟨fun ns name h => ?_, fun ns name h => ?_, ?_⟩
    · rw [Directory.lookup_unregister hd, if_neg (mt (mountsAt_iff hmount).2 h)]
    · rw [Directory.lookup_unregister hd, if_pos ((mountsAt_iff hmount).1 h)]
    · rw [hmounted, Directory.released_unregister]

theorem mounted_eq (h : config.MountsAt ns name) : config.mounted d = d.lookup ns name := by
  obtain ⟨rfl, hname⟩ := h
  obtain ⟨path, hmount, rfl⟩ := Option.map_eq_some_iff.1 hname
  rw [mounted, hmount, Option.bind_some]

theorem Publishes.valid (h : config.Publishes d d') (hd : d.Valid) : d'.Valid := by
  obtain ⟨calls, -, rfl⟩ := h
  exact hd.settle calls

/-- Publishing leaves every other name alone. -/
theorem Publishes.lookup_eq (h : config.Publishes d d') (hd : d.Valid)
    (hname : ¬ config.MountsAt ns name) : d'.lookup ns name = d.lookup ns name := by
  obtain ⟨calls, hcalls, rfl⟩ := h
  refine Directory.lookup_settle hd fun call hcall => ?_
  obtain ⟨path, endpoint, hmount, rfl⟩ := hcalls call hcall
  exact fun hns hpath => absurd ((mountsAt_iff hmount).2 ⟨hns.symm, hpath.symm⟩) hname

theorem valid_withdrawn (hd : d.Valid) (config : Config) : (config.withdrawn d).Valid := by
  rw [withdrawn]
  split
  · exact hd
  · next path _ => exact hd.call (.unregister config.nameServer path)

end Config

/-! ## Coming up and going down -/

namespace Server

variable {σ : Type} {p : Platform (World σ)} {dir : Part (World σ) Directory}

/-- What a server does to a directory when it comes up is to register its mount point. -/
theorem directory_start (hp : ∀ J : Directory → Prop, p.Keeps fun w => J (dir.get w))
    (config : Config) (c : CapSpace (World σ)) :
    config.Publishes (dir.get c.world)
      (dir.get ((start p (some (Directory.resolver.lift dir)) config).settle c).world) := by
  refine start_keeps ?_ (hp (config.Publishes (dir.get c.world))) c ⟨[], nofun, rfl⟩
  rintro n path endpoint ⟨⟩ hmount w ⟨calls, hcalls, hw⟩
  refine ⟨calls ++ [.register config.nameServer path endpoint], fun call hcall => ?_, ?_⟩
  · rcases List.mem_append.1 hcall with hcall | hcall
    · exact hcalls call hcall
    · exact ⟨path, endpoint, hmount, List.mem_singleton.1 hcall⟩
  · have hregister : dir.get ((Directory.resolver.lift dir).register config.nameServer path
        endpoint w).2 = (Directory.register config.nameServer path endpoint).settle (dir.get w) :=
      dir.get_set _ _
    rw [hregister, hw, Directory.settle, Directory.settle, List.foldl_append]
    rfl

/-- What a server does to a directory when it goes down is to take its mount point back. -/
theorem directory_shutdown (hk : ∀ J : Directory → Prop, p.kernel.Keeps fun w => J (dir.get w))
    (s : Server σ) :
    dir.get (s.shutdown p.kernel (some (Directory.resolver.lift dir))).world =
      s.config.withdrawn (dir.get s.caps.world) := by
  refine shutdown_keeps (hk fun d => d = s.config.withdrawn (dir.get s.caps.world)) ?_
  rcases hmount : s.config.mountPoint with _ | path
  · simp only [withdraw, Config.withdrawn, hmount]
  · simp only [withdraw, Config.withdrawn, hmount]
    exact dir.get_set _ _

end Server

/-! ## Servers among others -/

/-- A directory, and the servers that are up. -/
structure Neighbours (σ : Type) where
  directory : Directory
  servers : IdMap (Server σ)

namespace Neighbours

variable {σ : Type}

/-- Something that happens. -/
inductive Event (σ : Type)
  /-- A server is to come up, on slots and in a world of its own. -/
  | start (id : Nat) (config : Config) (caps : CapSpace (World σ))
  /-- A server is used. It has no name service then. -/
  | use (id : Nat) (call : Server.Call σ)
  /-- A server goes down. -/
  | shutdown (id : Nat)
  /-- Somebody calls the directory. -/
  | call (call : Directory.Call)

/-- A directory before any server is up. -/
def around (d : Directory) : Neighbours σ := ⟨d, .empty⟩

variable (p : Platform (World σ)) (dir : Part (World σ) Directory) (n : Neighbours σ)

/-- Bring a server up that finds the directory in its world. -/
def bringUp (config : Config) (caps : CapSpace (World σ)) :
    Except Failure (Server σ) × CapSpace (World σ) :=
  Server.start p (some (Directory.resolver.lift dir)) config
    ((CapSpace.worldPart.comp dir).set n.directory caps)

/-- Bring a server down that finds the directory in its world. -/
def bringDown (s : Server σ) : CapSpace (World σ) :=
  ((Server.worldPart.comp dir).set n.directory s).shutdown p.kernel
    (some (Directory.resolver.lift dir))

/-- What an event leaves. A server that comes up under an id in use takes the place of the one that
was there. -/
def step : Event σ → Neighbours σ
  | .start id config caps =>
    { directory := dir.get (n.bringUp p dir config caps).2.world
      servers := match (n.bringUp p dir config caps).1 with
        | .ok s => n.servers.insert id s
        | .error _ => n.servers }
  | .use id call => { n with servers := n.servers.modify id fun s => call.perform p s }
  | .shutdown id =>
    match n.servers.get? id with
    | none => n
    | some s =>
      { directory := dir.get (n.bringDown p dir s).world, servers := n.servers.erase id }
  | .call call => { n with directory := call.attempt.settle n.directory }

/-- One event after the other. -/
def run (events : List (Event σ)) : Neighbours σ :=
  events.foldl (fun n event => n.step p dir event) n

/-- Whether an event leaves a server alone, and a name too. -/
def Event.Spares (n : Neighbours σ) (id : Nat) (ns : CapPtr) (name : Path) : Event σ → Prop
  | .start other config _ => other ≠ id ∧ ¬ config.MountsAt ns name
  | .use _ _ => True
  | .shutdown other =>
    other ≠ id ∧ ∀ s, n.servers.get? other = some s → ¬ s.config.MountsAt ns name
  | .call c => c.Spares ns name

/-- Each event leaves them alone when it comes. -/
def Spare (id : Nat) (ns : CapPtr) (name : Path) (n : Neighbours σ) : List (Event σ) → Prop
  | [] => True
  | event :: events => event.Spares n id ns name ∧ Spare id ns name (n.step p dir event) events

/-! ## Runs -/

variable {p dir n}

/-- The directory is valid, and so is every server. -/
structure Sound (n : Neighbours σ) : Prop where
  directory : n.directory.Valid
  servers : ∀ id s, n.servers.get? id = some s → s.Valid

variable {id : Nat} {config : Config} {caps : CapSpace (World σ)} {s s₀ : Server σ}
  {event : Event σ} {ns : CapPtr} {name : Path}

/-- A server that is brought up finds the directory. -/
theorem directory_found (dir : Part (World σ) Directory) (d : Directory)
    (caps : CapSpace (World σ)) : dir.get ((CapSpace.worldPart.comp dir).set d caps).world = d :=
  (CapSpace.worldPart.comp dir).get_set d caps

/-- A server that is left alone is used at most, and keeps what it has of its own. -/
theorem station_step (hn : n.Sound) (hs : n.servers.get? id = some s)
    (hspares : event.Spares n id ns name) :
    ∃ s', (n.step p dir event).servers.get? id = some s' ∧ s'.station = s.station := by
  cases event with
  | start other config caps =>
    refine ⟨s, ?_, rfl⟩
    rcases hup : (n.bringUp p dir config caps).1 with e | new
    · simp only [step, hup, hs]
    · simp only [step, hup, IdMap.get?_insert, if_neg hspares.1.symm, hs]
  | use other call =>
    by_cases hid : id = other
    · refine ⟨call.perform p s, ?_, (Server.Goes.call (hn.servers id s hs) call).station⟩
      simp only [step, IdMap.get?_modify, ← hid, if_true, hs, Option.map_some]
    · refine ⟨s, ?_, rfl⟩
      simp only [step, IdMap.get?_modify, if_neg hid, hs]
  | shutdown other =>
    refine ⟨s, ?_, rfl⟩
    rcases hother : n.servers.get? other with _ | t
    · simp only [step, hother, hs]
    · simp only [step, hother, IdMap.get?_erase, if_neg hspares.1.symm, hs]
  | call c => exact ⟨s, hs, rfl⟩

section Apart

variable (hp : ∀ J : Directory → Prop, p.Keeps fun w => J (dir.get w))

include hp

theorem publishes_bringUp (n : Neighbours σ) (config : Config) (caps : CapSpace (World σ)) :
    config.Publishes n.directory (dir.get (n.bringUp p dir config caps).2.world) := by
  have h := Server.directory_start hp config ((CapSpace.worldPart.comp dir).set n.directory caps)
  rwa [directory_found] at h

theorem step_shutdown (hs : n.servers.get? id = some s) : n.step p dir (.shutdown id) =
    ⟨s.config.withdrawn n.directory, n.servers.erase id⟩ := by
  have h := Server.directory_shutdown (fun J => (hp J).kernel)
    ((Server.worldPart.comp dir).set n.directory s)
  have hfound : dir.get ((Server.worldPart.comp dir).set n.directory s).caps.world =
      n.directory := (Server.worldPart.comp dir).get_set _ _
  rw [hfound] at h
  simp only [step, hs, bringDown, h]
  rfl

/-- The endpoint of a server that came up stands under its mount point. -/
theorem lookup_bringUp (hn : n.Sound) (hup : (n.bringUp p dir config caps).1 = .ok s)
    (hmount : config.MountsAt ns name) :
    (dir.get (n.bringUp p dir config caps).2.world).lookup ns name = some s.anonEp := by
  obtain ⟨rfl, hname⟩ := hmount
  obtain ⟨path, hpath, rfl⟩ := Option.map_eq_some_iff.1 hname
  have hstart : n.bringUp p dir config caps = (.ok s, (n.bringUp p dir config caps).2) :=
    Prod.ext hup rfl
  have hvalid : (dir.get ((CapSpace.worldPart.comp dir).set n.directory caps).world).Valid := by
    rw [directory_found]
    exact hn.directory
  obtain ⟨-, -, hlookup⟩ := Server.lookup_mount (fun d => hp _) hvalid hpath hstart
  rw [← Server.caps_of_start hstart]
  exact hlookup

theorem Sound.step (hn : n.Sound) (event : Event σ) : (n.step p dir event).Sound := by
  cases event with
  | start id config caps =>
    refine ⟨(publishes_bringUp hp n config caps).valid hn.directory, fun other s hs => ?_⟩
    rcases hup : (n.bringUp p dir config caps).1 with e | new
    · simp only [Neighbours.step, hup] at hs
      exact hn.servers other s hs
    · simp only [Neighbours.step, hup, IdMap.get?_insert] at hs
      split at hs
      · cases hs
        exact Server.start_valid (Prod.ext hup rfl)
      · exact hn.servers other s hs
  | use id call =>
    refine ⟨hn.directory, fun other s hs => ?_⟩
    rw [Neighbours.step, IdMap.get?_modify] at hs
    split at hs
    · obtain ⟨s', hs', rfl⟩ := Option.map_eq_some_iff.1 hs
      exact (Server.Goes.call (hn.servers id s' hs') call).valid ClientTable.way_inLine
    · exact hn.servers other s hs
  | shutdown id =>
    rcases hs : n.servers.get? id with _ | s
    · simpa only [Neighbours.step, hs] using hn
    · rw [step_shutdown hp hs]
      refine ⟨Config.valid_withdrawn hn.directory s.config, fun other s' hs' => ?_⟩
      rw [IdMap.get?_erase] at hs'
      split at hs'
      · cases hs'
      · exact hn.servers other s' hs'
  | call call => exact ⟨hn.directory.call call, hn.servers⟩

theorem Sound.run (hn : n.Sound) (events : List (Event σ)) : (n.run p dir events).Sound := by
  induction events generalizing n with
  | nil => exact hn
  | cons event events ih => exact ih (hn.step hp event)

/-- A name that is left alone stays as it is registered. -/
theorem lookup_step (hn : n.Sound) (hspares : event.Spares n id ns name) :
    (n.step p dir event).directory.lookup ns name = n.directory.lookup ns name := by
  cases event with
  | start other config caps =>
    exact (publishes_bringUp hp n config caps).lookup_eq hn.directory hspares.2
  | use other call => rfl
  | shutdown other =>
    rcases hs : n.servers.get? other with _ | s
    · simp only [step, hs]
    · rw [step_shutdown hp hs]
      exact (Config.withdraws_withdrawn hn.directory).others ns name (hspares.2 s hs)
  | call c => exact Directory.lookup_call hn.directory hspares

/-- So a server that is left alone, and its mount point with it, stands where it stood. -/
theorem stands_run {events : List (Event σ)} (hn : n.Sound) (hs : n.servers.get? id = some s)
    (hspare : Spare p dir id ns name n events) :
    ∃ s', (n.run p dir events).servers.get? id = some s' ∧ s'.station = s.station ∧
      (n.run p dir events).directory.lookup ns name = n.directory.lookup ns name := by
  induction events generalizing n s with
  | nil => exact ⟨s, hs, rfl, rfl⟩
  | cons event events ih =>
    obtain ⟨hspares, hrest⟩ := hspare
    obtain ⟨s₁, hs₁, hstation⟩ := station_step hn hs hspares
    obtain ⟨s', hs', hstation', hlookup⟩ := ih (hn.step hp event) hs₁ hrest
    exact ⟨s', hs', hstation'.trans hstation, hlookup.trans (lookup_step hp hn hspares)⟩

/-- A server that came up stands under its mount point as long as both are left alone. -/
theorem mounted_run {later : List (Event σ)} (hn : n.Sound)
    (hup : (n.bringUp p dir config caps).1 = .ok s₀) (hmount : config.MountsAt ns name)
    (hspare : Spare p dir id ns name (n.step p dir (.start id config caps)) later) :
    ∃ s, ((n.step p dir (.start id config caps)).run p dir later).servers.get? id = some s ∧
      s.config = config ∧ s.anonEp = s₀.anonEp ∧
      config.mounted ((n.step p dir (.start id config caps)).run p dir later).directory =
        some s.anonEp := by
  have hs₀ : (n.step p dir (.start id config caps)).servers.get? id = some s₀ := by
    simp only [step, hup, IdMap.get?_insert, if_true]
  obtain ⟨s, hs, hstation, hlookup⟩ := stands_run hp (hn.step hp _) hs₀ hspare
  obtain ⟨_, _, _, _, _, _, steps⟩ := Server.start_eq_ok (Prod.ext hup rfl)
  have hanon : s.anonEp = s₀.anonEp := congrArg Server.Station.anonEp hstation
  refine ⟨s, hs, (congrArg Server.Station.config hstation).trans steps.config_eq, hanon, ?_⟩
  rw [Config.mounted_eq hmount, hlookup, hanon]
  exact lookup_bringUp hp hn hup hmount

/-- **A server that goes down withdraws what stands under its mount point, and nothing else.** Among
any servers that come up, are used and go down around one directory, every other registration
stays, and no endpoint is handed back but the one that stood there. That one is the server's own if
nobody has registered or removed the name since the server came up. -/
theorem shutdown_withdraws {d : Directory} (hd : d.Made) (events : List (Event σ)) :
    let n := (around d).run p dir events
    (∀ id s, n.servers.get? id = some s →
      s.config.Withdraws n.directory (n.step p dir (.shutdown id)).directory ∧
        (n.step p dir (.shutdown id)).servers = n.servers.erase id) ∧
    ∀ before id config caps later s₀ ns name,
      events = before ++ .start id config caps :: later →
      (((around d).run p dir before).bringUp p dir config caps).1 = .ok s₀ →
      config.MountsAt ns name →
      Spare p dir id ns name (((around d).run p dir before).step p dir (.start id config caps))
        later →
      ∃ s, n.servers.get? id = some s ∧ s.config = config ∧ s.anonEp = s₀.anonEp ∧
        config.mounted n.directory = some s.anonEp := by
  intro n
  have haround : (around d : Neighbours σ).Sound := ⟨hd.valid, nofun⟩
  constructor
  · intro id s hs
    rw [step_shutdown hp hs]
    exact ⟨Config.withdraws_withdrawn (haround.run hp events).directory, rfl⟩
  · rintro before id config caps later s₀ ns name rfl hup hmount hspare
    have hn : n = (((around d).run p dir before).step p dir (.start id config caps)).run p dir
        later := by simp only [n, run, List.foldl_append, List.foldl_cons]
    rw [hn]
    exact mounted_run hp (haround.run hp before) hup hmount hspare

end Apart

/-! ## Two servers -/

/-- A directory with one name server. -/
def sampleNames : Directory := .settle .empty [.addServer 3]

/-- The directory of a machine. -/
def machineNames : Part (World (Machine Unit)) Directory :=
  World.restPart.comp Machine.directoryPart

/-- Slots of their own for a second server. -/
def sampleCaps : CapSpace (World (Machine Unit)) := ⟨⟨.ofRange 0x200 0x220⟩, ⟨.empty, .fresh ()⟩⟩

/-- Another mount point at the same name server. -/
def sampleMount : Config := { Directory.sampleMount with mountPoint := some ['t', 't', 'y'] }

/-- Bringing a server up. -/
def sampleStart : Except Failure (Server (Machine Unit)) × CapSpace (World (Machine Unit)) :=
  (around sampleNames).bringUp Machine.platform machineNames Directory.sampleMount Server.sampleCaps

/-- The server that came up. -/
def sampleServer : Server (Machine Unit) := sampleStart.1.toOption.get (by decide +kernel)

/-- Another one comes up and goes down under a mount point of its own, and others go on. -/
def sampleEvents : List (Event (Machine Unit)) :=
  [.start 1 sampleMount sampleCaps, .call (.register 3 ['i', 'o'] 41), .use 0 .serve, .shutdown 1]

/-- Going down after that, the first one takes its own endpoint back. -/
theorem shutdown_withdraws_sample :
    let n := (around sampleNames).run Machine.platform machineNames
      (.start 0 Directory.sampleMount Server.sampleCaps :: sampleEvents)
    ∃ s, n.servers.get? 0 = some s ∧ s.config.mounted n.directory = some s.anonEp ∧
      s.config.Withdraws n.directory
        (n.step Machine.platform machineNames (.shutdown 0)).directory := by
  intro n
  have hp : ∀ J : Directory → Prop,
      Machine.platform.Keeps fun w : World (Machine Unit) => J (machineNames.get w) :=
    Machine.keeps_directory
  have hother : ¬ sampleMount.MountsAt 3 ['f', 's'] := fun h => by cases h.2
  have hspare : Spare Machine.platform machineNames 0 3 ['f', 's']
      ((around sampleNames).step Machine.platform machineNames
        (.start 0 Directory.sampleMount Server.sampleCaps)) sampleEvents := by
    refine ⟨⟨by decide, hother⟩, fun _ hname => absurd hname (by decide), trivial,
      ⟨by decide, fun s hs => ?_⟩, trivial⟩
    have hconfig : some sampleMount = some s.config := congrArg (Option.map Server.config) hs
    rwa [← Option.some.inj hconfig]
  obtain ⟨hwithdraws, hmounted⟩ := shutdown_withdraws hp (d := sampleNames) ⟨_, rfl⟩
    (.start 0 Directory.sampleMount Server.sampleCaps :: sampleEvents)
  obtain ⟨s, hs, hconfig, -, hown⟩ := hmounted [] 0 Directory.sampleMount Server.sampleCaps
    sampleEvents sampleServer 3 ['f', 's'] rfl rfl ⟨rfl, rfl⟩ hspare
  refine ⟨s, hs, ?_, (hwithdraws 0 s hs).1⟩
  rw [hconfig]
  exact hown

/-- Two servers have the same mount point, and the second one takes it over. When the first one goes
down, the endpoint of the second is withdrawn and handed back, while it is still up. -/
theorem successor_withdrawn :
    let n := (around sampleNames).run Machine.platform machineNames
      [.start 0 Directory.sampleMount Server.sampleCaps, .start 1 Directory.sampleMount sampleCaps]
    let n' := n.step Machine.platform machineNames (.shutdown 0)
    (n.servers.get? 1).map Server.anonEp = some 0x200 ∧
      n.directory.lookup 3 ['f', 's'] = some 0x200 ∧ n.directory.released = [0x100] ∧
      (n'.servers.get? 1).map Server.anonEp = some 0x200 ∧
      n'.directory.lookup 3 ['f', 's'] = none ∧ n'.directory.released = [0x100, 0x200] := by
  decide +kernel

end Neighbours

end CapServer
