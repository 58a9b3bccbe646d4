import CapServer.Proofs.Names.MountPoint
import CapServer.Proofs.Names.Directory
import CapServer.Proofs.Server.Keeps
import CapServer.Proofs.Sim.Machine

/-!
# Reaching what is registered

A name server is asked about the first segment of a path, so an endpoint is found there if the name
it was registered under is one segment, and only then. Registration takes any name: what stands
under a name with a slash inside is never found (`Directory.registered_resolves`,
`Directory.inner_slash_unreachable`). The same goes for the mount point of a server.
-/

namespace CapServer

namespace Directory

variable {d d' : Directory} {ns root endpoint : CapPtr} {name path rest leaf : Path}

/-! ## While a name is left alone -/

/-- What may have become of a directory while nobody touched a name at a name server. -/
def Spared (ns : CapPtr) (name : Path) (d d' : Directory) : Prop :=
  ∃ calls : List Call, (∀ call ∈ calls, call.Spares ns name) ∧ d' = d.settle calls

theorem Spared.refl (ns : CapPtr) (name : Path) (d : Directory) : Spared ns name d d :=
  ⟨[], nofun, rfl⟩

theorem Spared.lookup_eq (h : Spared ns name d d') (hd : d.Valid) :
    d'.lookup ns name = d.lookup ns name := by
  obtain ⟨calls, hcalls, rfl⟩ := h
  exact lookup_settle hd hcalls

theorem Spared.valid (h : Spared ns name d d') (hd : d.Valid) : d'.Valid := by
  obtain ⟨calls, -, rfl⟩ := h
  exact hd.settle calls

/-! ## Names of one segment -/

theorem cutSlash_mount (hname : path.dropSlash ≠ []) (hslash : '/' ∉ path.dropSlash)
    (rest : Path) : (path ++ '/' :: rest).dropSlash.cutSlash = some (path.dropSlash, rest) := by
  rw [Path.dropSlash_append (Path.ne_nil_of_dropSlash hname), Path.cutSlash_append hslash]

theorem frontSlash_mount (hname : path.dropSlash ≠ []) (rest : Path) :
    (path ++ '/' :: rest).frontSlash ++ path.dropSlash = path := by
  rw [Path.frontSlash_append (Path.ne_nil_of_dropSlash hname), Path.frontSlash_append_dropSlash]

theorem resolve_of_lookup (hname : path.dropSlash ≠ []) (hslash : '/' ∉ path.dropSlash)
    (hlookup : d.lookup ns path.dropSlash = some endpoint) (rest : Path) :
    resolve ns (path ++ '/' :: rest) d = (.ok (.forward endpoint path.byteLength), d) := by
  rw [resolve_of_cutSlash (cutSlash_mount hname hslash rest), hlookup, frontSlash_mount hname]
  rfl

/-- The path below a name leads to the endpoint registered under it. -/
theorem walk_of_lookup (hname : path.dropSlash ≠ []) (hslash : '/' ∉ path.dropSlash)
    (hlookup : d.lookup root path.dropSlash = some endpoint) (hleaf : leaf.isLeaf = true) :
    MountPoint.resolve resolver root (path ++ '/' :: leaf) d =
      (.ok ⟨endpoint, root, path ++ ['/'], leaf⟩, d) := by
  have hcut := cutSlash_mount hname hslash leaf
  have hfront := frontSlash_mount hname leaf
  have hnotLeaf := Path.not_isLeaf_iff.2 ⟨_, _, hcut⟩
  have hanswer : resolver.resolve root (path ++ '/' :: leaf) d =
      (.ok (.forward endpoint
        ((path ++ '/' :: leaf).frontSlash ++ path.dropSlash).byteLength), d) := by
    rw [hfront]
    exact resolve_of_lookup hname hslash hlookup leaf
  calc MountPoint.resolve resolver root (path ++ '/' :: leaf) d
      = MountPoint.heed resolver root root [] (path ++ '/' :: leaf)
          (.forward endpoint
            ((path ++ '/' :: leaf).frontSlash ++ path.dropSlash).byteLength) d := by
        rw [MountPoint.resolve, MountPoint.walk_of_not_isLeaf hnotLeaf, Attempt.bind_ok hanswer]
    _ = MountPoint.walk resolver root endpoint (path ++ ['/']) leaf d := by
        rw [MountPoint.heed_forward hcut hname, hfront, List.nil_append]
    _ = (.ok ⟨endpoint, root, path ++ ['/'], leaf⟩, d) := by
        rw [MountPoint.walk_of_isLeaf hleaf]
        rfl

/-! ## Names with a slash inside -/

/-- A path is cut at its first slash, so whatever is found ends before the name does. -/
theorem resolve_ne_of_slash (hslash : '/' ∈ path.dropSlash) (rest : Path) :
    (resolve ns (path ++ '/' :: rest) d).1 ≠ .ok (.forward endpoint path.byteLength) := by
  obtain ⟨⟨front, back⟩, hcut⟩ : ∃ cut, path.dropSlash.cutSlash = some cut :=
    Option.ne_none_iff_exists'.1 fun hnone => Path.cutSlash_eq_none_iff.1 hnone hslash
  have hpath : path ≠ [] := Path.ne_nil_of_dropSlash (List.ne_nil_of_mem hslash)
  obtain ⟨hname, hfront⟩ := Path.cutSlash_eq_some_iff.1 hcut
  have hlong : (path ++ '/' :: rest).dropSlash.cutSlash = some (front, back ++ '/' :: rest) := by
    rw [Path.dropSlash_append hpath, hname, List.append_assoc]
    exact Path.cutSlash_append hfront _
  have hlength : path.byteLength =
      (path.frontSlash ++ front).byteLength + ('/'.utf8Size + back.byteLength) := by
    rw [← Path.byteLength_cons, ← Path.byteLength_append, ← Path.eq_of_cutSlash hcut]
  have hpos := Char.utf8Size_pos '/'
  rw [resolve_of_cutSlash hlong, Path.frontSlash_append hpath]
  intro h
  rcases hlookup : d.lookup ns front with _ | found
  · rw [hlookup] at h
    cases h
  · rw [hlookup] at h
    obtain ⟨-, hconsumed⟩ := Resolution.forward.inj (Except.ok.inj h)
    omega

end Directory

/-! ## The mount point of a server -/

namespace Server

variable {σ : Type} {p : Platform (World σ)} {config : Config} {s : Server σ}
  {c c' : CapSpace (World σ)} {dir : Part (World σ) Directory} {path : Path} {endpoint : CapPtr}

theorem publish_mount (hmount : config.mountPoint = some path)
    (hr : publish (some (Directory.resolver.lift dir)) config endpoint c = (.ok (), c')) :
    (Directory.register config.nameServer path endpoint (dir.get c.world)).1 = .ok () ∧
      dir.get c'.world =
        (Directory.register config.nameServer path endpoint).settle (dir.get c.world) := by
  rw [publish, hmount] at hr
  have hregister := CapSpace.world_of_on hr
  have hget := congrArg (fun r => dir.get r.2) hregister
  refine ⟨congrArg Prod.fst hregister, ?_⟩
  rw [← hget]
  exact dir.get_set _ _

/-- A server that came up stands in the directory under its mount point. -/
theorem lookup_mount
    (hp : ∀ d, p.Keeps fun w => Directory.Spared config.nameServer path.dropSlash d (dir.get w))
    (hd : (dir.get c.world).Valid) (hmount : config.mountPoint = some path)
    (hr : start p (some (Directory.resolver.lift dir)) config c = (.ok s, c')) :
    (dir.get s.caps.world).Valid ∧ path.dropSlash ≠ [] ∧
      (dir.get s.caps.world).lookup config.nameServer path.dropSlash = some s.anonEp := by
  obtain ⟨c₁, c₂, c₃, c₄, c₅, c₆, steps⟩ := start_eq_ok hr
  obtain ⟨hok, hpublished⟩ := publish_mount hmount steps.published
  have hbefore := steps.keeps_before (hp _) (.refl _ _ (dir.get c.world))
  have hafter := steps.keeps_after (hp _) (.refl _ _ (dir.get c₅.world))
  have h₄ : (dir.get c₄.world).Valid := hbefore.valid hd
  have h₅ : (dir.get c₅.world).Valid := by
    rw [hpublished]
    exact h₄.call (.register config.nameServer path s.anonEp)
  refine ⟨hafter.valid h₅, (Directory.register_eq_ok hok).1, ?_⟩
  rw [hafter.lookup_eq h₅, hpublished, Directory.lookup_register h₄ hok, if_pos ⟨rfl, rfl⟩]

end Server

namespace Directory

/-- An endpoint registered under a path is found below it, until the name is registered again or
removed or its name server stopped, if and only if the path has no slash but in front. So a server
that comes up is reached below its mount point if that has none. -/
theorem registered_resolves (ns : CapPtr) (path : Path) :
    (∀ (d d' : Directory) (endpoint : CapPtr), d.Made →
      (register ns path endpoint d).1 = .ok () →
      Spared ns path.dropSlash ((register ns path endpoint).settle d) d' →
      ∀ rest : Path, (resolve ns (path ++ '/' :: rest) d').1 =
        .ok (.forward endpoint path.byteLength) ↔ '/' ∉ path.dropSlash) ∧
    ∀ (σ : Type) (p : Platform (World σ)) (dir : Part (World σ) Directory) (config : Config)
      (c c' : CapSpace (World σ)) (s : Server σ), (dir.get c.world).Made →
      (∀ d, p.Keeps fun w => Spared ns path.dropSlash d (dir.get w)) →
      config.nameServer = ns → config.mountPoint = some path → '/' ∉ path.dropSlash →
      Server.start p (some (resolver.lift dir)) config c = (.ok s, c') →
      ∀ d', Spared ns path.dropSlash (dir.get s.caps.world) d' →
      ∀ leaf : Path, leaf.isLeaf = true →
        (MountPoint.resolve resolver ns (path ++ '/' :: leaf) d').1 =
          .ok ⟨s.anonEp, ns, path ++ ['/'], leaf⟩ := by
  constructor
  · intro d d' endpoint hmade hok hspared rest
    have hvalid : ((register ns path endpoint).settle d).Valid :=
      hmade.valid.call (.register ns path endpoint)
    have hlookup : d'.lookup ns path.dropSlash = some endpoint := by
      rw [hspared.lookup_eq hvalid, lookup_register hmade.valid hok, if_pos ⟨rfl, rfl⟩]
    constructor
    · intro hresolve hslash
      exact resolve_ne_of_slash hslash rest hresolve
    · intro hslash
      rw [resolve_of_lookup (register_eq_ok hok).1 hslash hlookup]
  · rintro σ p dir config c c' s hmade hp rfl hmount hslash hstart d' hspared leaf hleaf
    obtain ⟨hvalid, hname, hlookup⟩ := Server.lookup_mount hp hmade.valid hmount hstart
    rw [walk_of_lookup hname hslash ((hspared.lookup_eq hvalid).trans hlookup) hleaf]

/-- What registers a name with a slash inside succeeds, and nothing is found under it. -/
theorem inner_slash_unreachable :
    let d := empty.settle [.addServer 3]
    d.Made ∧ (register 3 ['a', '/', 'b'] 40 d).1 = .ok () ∧
      (resolve 3 (['a', '/', 'b'] ++ '/' :: ['x']) ((register 3 ['a', '/', 'b'] 40).settle d)).1 =
        .error .notFound :=
  ⟨⟨_, rfl⟩, rfl, rfl⟩

/-- A machine with one name server, and thirty-two free slots on it. -/
def sampleNamed : CapSpace (World (Machine Unit)) :=
  ⟨⟨.ofRange 0x100 0x120⟩,
    ⟨.empty, { Machine.fresh () with directory := empty.settle [.addServer 3] }⟩⟩

/-- A server that mounts itself there. -/
def sampleMount : Config :=
  { Server.sampleConfig with mountPoint := some ['/', 'f', 's'], nameServer := 3 }

/-- Bringing it up. -/
def sampleMounting : Except Failure (Server (Machine Unit)) × CapSpace (World (Machine Unit)) :=
  Server.start Machine.platform (some Machine.names) sampleMount sampleNamed

/-- The server that is mounted. -/
def sampleMounted : Server (Machine Unit) := sampleMounting.1.toOption.get (by decide +kernel)

/-- What is found below a name and a mount point of one segment, after other names came and went. -/
theorem registered_resolves_below_fs :
    let d := (register 3 ['/', 'f', 's'] 40).settle (empty.settle [.addServer 3])
    let others : List Call :=
      [.register 3 ['t', 't', 'y'] 41, .addServer 4, .register 4 ['f', 's'] 42,
        .unregister 3 ['t', 't', 'y'], .removeServer 4]
    (resolve 3 ['/', 'f', 's', '/', 'a'] (d.settle others)).1 = .ok (.forward 40 3) ∧
      sampleMounting.1 = .ok sampleMounted ∧
      (MountPoint.resolve resolver 3 ['/', 'f', 's', '/', 'a']
        ((sampleMounted.caps.world.rest.directory).settle others)).1 =
          .ok ⟨sampleMounted.anonEp, 3, ['/', 'f', 's', '/'], ['a']⟩ := by
  intro d others
  have hspared : ∀ e, Spared 3 ['f', 's'] e (e.settle others) := by
    intro e
    refine ⟨others, ?_, rfl⟩
    simp [others, Call.Spares, Path.dropSlash]
  have hstart : sampleMounting = (.ok sampleMounted, sampleMounting.2) := rfl
  refine ⟨?_, rfl, ?_⟩
  · exact ((registered_resolves 3 ['/', 'f', 's']).1 (empty.settle [.addServer 3]) _ 40 ⟨_, rfl⟩
      rfl (hspared d) ['a']).2 (by decide)
  · have hkept : ∀ d, (Machine.platform : Platform (World (Machine Unit))).Keeps fun w =>
        Spared 3 ['f', 's'] d ((World.restPart.comp Machine.directoryPart).get w) :=
      fun d => Machine.keeps_directory fun e => Spared 3 ['f', 's'] d e
    exact (registered_resolves 3 ['/', 'f', 's']).2 (Machine Unit) Machine.platform
      (World.restPart.comp Machine.directoryPart) sampleMount sampleNamed sampleMounting.2
      sampleMounted ⟨_, rfl⟩ hkept rfl rfl (by decide) hstart _
      (hspared sampleMounted.caps.world.rest.directory) ['a'] rfl

end Directory

end CapServer
