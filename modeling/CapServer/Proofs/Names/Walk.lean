import CapServer.Proofs.Names.Directory
import CapServer.Proofs.Names.MountPoint

/-!
# Resolving a path in a directory

`Directory.follow` is how a path is meant to be resolved: at each name server one segment is cut off
and looked up, and what is left of the path goes to the endpoint found. `MountPoint.resolve` counts
bytes instead and relies on answers; on a directory it comes to the same
(`Directory.resolve_follows`), whatever the slashes in the path and whatever graph the name servers
form. It fails exactly where the path leads to a name server that is not there or to a name that is
not registered (`Directory.Strays`).
-/

namespace CapServer

namespace Directory

variable {d : Directory} {root server endpoint : CapPtr} {resolved rest segment after : Path}
  {log : List Asked}

/-- The server a path leads to from `server` on, and the leaf that is left for it. -/
def follow (d : Directory) (server : CapPtr) (rest : Path) : Except Failure (CapPtr × Path) :=
  match _cut : rest.dropSlash.cutSlash with
  | none => .ok (server, rest)
  | some (segment, after) =>
    match d.lookup server segment with
    | some endpoint => d.follow endpoint after
    | none => .error .notFound
termination_by rest.length
decreasing_by exact Path.length_of_cutSlash _cut

/-- Following a path from a server on, a name server has to be asked that is not there or does not
know the segment in front. -/
inductive Strays (d : Directory) : CapPtr → Path → Prop
  | lost {server : CapPtr} {rest segment after : Path} :
    rest.dropSlash.cutSlash = some (segment, after) → d.servers.get? server = none →
      Strays d server rest
  | unknown {server : CapPtr} {rest segment after : Path} {s : NameServer} :
    rest.dropSlash.cutSlash = some (segment, after) → d.servers.get? server = some s →
      s.lookup segment = none → Strays d server rest
  | onward {server endpoint : CapPtr} {rest segment after : Path} :
    rest.dropSlash.cutSlash = some (segment, after) → d.lookup server segment = some endpoint →
      Strays d endpoint after → Strays d server rest

/-! ## The walk that is meant -/

theorem follow_stop (h : rest.dropSlash.cutSlash = none) :
    d.follow server rest = .ok (server, rest) := by
  rw [follow]
  split
  · rfl
  · next h' => cases h.symm.trans h'

theorem follow_onward (h : rest.dropSlash.cutSlash = some (segment, after))
    (hlookup : d.lookup server segment = some endpoint) :
    d.follow server rest = d.follow endpoint after := by
  rw [follow]
  split
  · next h' => cases h.symm.trans h'
  · next h' =>
    cases h.symm.trans h'
    rw [hlookup]

theorem follow_lost (h : rest.dropSlash.cutSlash = some (segment, after))
    (hlookup : d.lookup server segment = none) :
    d.follow server rest = .error .notFound := by
  rw [follow]
  split
  · next h' => cases h.symm.trans h'
  · next h' =>
    cases h.symm.trans h'
    rw [hlookup]

/-- The walk takes one of three steps. -/
theorem follow_induction {motive : CapPtr → Path → Prop}
    (stop : ∀ server rest, rest.dropSlash.cutSlash = none → motive server rest)
    (lost : ∀ server rest segment after, rest.dropSlash.cutSlash = some (segment, after) →
      d.lookup server segment = none → motive server rest)
    (onward : ∀ server rest segment after endpoint,
      rest.dropSlash.cutSlash = some (segment, after) →
      d.lookup server segment = some endpoint → motive endpoint after → motive server rest)
    (server : CapPtr) (rest : Path) : motive server rest := by
  induction server, rest using follow.induct d with
  | case1 server rest hcut => exact stop server rest hcut
  | case2 server rest segment after hcut endpoint hlookup ih =>
    exact onward server rest segment after endpoint hcut hlookup ih
  | case3 server rest segment after hcut hlookup =>
    exact lost server rest segment after hcut hlookup

theorem eq_notFound_of_follow {e : Failure} (h : d.follow server rest = .error e) :
    e = .notFound := by
  induction server, rest using d.follow_induction with
  | stop server rest hcut =>
    rw [follow_stop hcut] at h
    cases h
  | lost server rest segment after hcut hlookup =>
    rw [follow_lost hcut hlookup] at h
    cases h
    rfl
  | onward server rest segment after endpoint hcut hlookup ih =>
    rw [follow_onward hcut hlookup] at h
    exact ih h

theorem follow_eq_notFound_iff :
    d.follow server rest = .error .notFound ↔ d.Strays server rest := by
  constructor
  · intro h
    induction server, rest using d.follow_induction with
    | stop server rest hcut =>
      rw [follow_stop hcut] at h
      cases h
    | lost server rest segment after hcut hlookup =>
      rcases lookup_eq_none_iff.1 hlookup with hget | ⟨s, hget, hnone⟩
      · exact .lost hcut hget
      · exact .unknown hcut hget hnone
    | onward server rest segment after endpoint hcut hlookup ih =>
      rw [follow_onward hcut hlookup] at h
      exact .onward hcut hlookup (ih h)
  · intro h
    induction h with
    | lost hcut hget => exact follow_lost hcut (lookup_eq_none_iff.2 (.inl hget))
    | unknown hcut hget hnone =>
      exact follow_lost hcut (lookup_eq_none_iff.2 (.inr ⟨_, hget, hnone⟩))
    | onward hcut hlookup _ ih => rw [follow_onward hcut hlookup, ih]

/-! ## The walk that is made -/

/-- What was found of a path from `server` on, and what was asked on the way. -/
structure Found (d : Directory) (root server : CapPtr) (resolved rest : Path)
    (answer : Except Failure MountPoint) (asked : List Asked) : Prop where
  follows : (answer.map fun m => (m.server, m.leaf)) = d.follow server rest
  root_eq : ∀ m, answer = .ok m → m.root = root
  whole : ∀ m, answer = .ok m → m.resolved ++ m.leaf = resolved ++ rest
  slash : ∀ m, answer = .ok m → m.resolved = resolved ∨ ∃ front, m.resolved = front ++ ['/']
  /-- Whoever was asked did not own the path. -/
  elsewhere : ∀ q ∈ asked, q.answer ≠ .ok .here

namespace Found

theorem stop (h : rest.dropSlash.cutSlash = none) :
    d.Found root server resolved rest (.ok ⟨server, root, resolved, rest⟩) [] where
  follows := (follow_stop h).symm
  root_eq := by
    rintro m ⟨⟩
    rfl
  whole := by
    rintro m ⟨⟩
    rfl
  slash := by
    rintro m ⟨⟩
    exact .inl rfl
  elsewhere := by
    intro q hq
    cases hq

theorem lost (h : rest.dropSlash.cutSlash = some (segment, after))
    (hlookup : d.lookup server segment = none) :
    d.Found root server resolved rest (.error .notFound) [⟨server, rest, .error .notFound⟩] where
  follows := (follow_lost h hlookup).symm
  root_eq := nofun
  whole := nofun
  slash := nofun
  elsewhere := by
    intro q hq
    rw [List.mem_singleton.1 hq]
    exact nofun

theorem onward {answer : Except Failure MountPoint} {asked : List Asked} {n : Nat}
    (h : rest.dropSlash.cutSlash = some (segment, after))
    (hlookup : d.lookup server segment = some endpoint)
    (hfound : d.Found root endpoint (resolved ++ (rest.frontSlash ++ segment) ++ ['/']) after
      answer asked) :
    d.Found root server resolved rest answer
      (⟨server, rest, .ok (.forward endpoint n)⟩ :: asked) where
  follows := hfound.follows.trans (follow_onward h hlookup).symm
  root_eq := hfound.root_eq
  whole := by
    intro m hm
    calc m.resolved ++ m.leaf
        = resolved ++ (rest.frontSlash ++ segment) ++ ['/'] ++ after := hfound.whole m hm
      _ = resolved ++ (rest.frontSlash ++ segment ++ '/' :: after) := by
        simp only [List.append_assoc, List.cons_append, List.nil_append]
      _ = resolved ++ rest := by rw [← Path.eq_of_cutSlash h]
  slash := by
    intro m hm
    rcases hfound.slash m hm with heq | hslash
    · exact .inr ⟨_, heq⟩
    · exact .inr hslash
  elsewhere := by
    intro q hq
    rcases List.mem_cons.1 hq with rfl | hq
    · exact nofun
    · exact hfound.elsewhere q hq

end Found

theorem logged_resolve (h : rest.dropSlash.cutSlash = some (segment, after))
    {found : Option CapPtr} (hlookup : d.lookup server segment = found) (log : List Asked) :
    resolver.logged.resolve server rest (d, log) =
      (Resolution.ofLookup found (rest.frontSlash ++ segment).byteLength, d, log ++
        [⟨server, rest, Resolution.ofLookup found (rest.frontSlash ++ segment).byteLength⟩]) := by
  subst hlookup
  exact NameResolver.logged_resolve (resolve_of_cutSlash h) log

theorem walk_found (hd : d.Valid) (root server : CapPtr) (rest resolved : Path)
    (log : List Asked) :
    ∃ answer asked, MountPoint.walk resolver.logged root server resolved rest (d, log) =
      (answer, d, log ++ asked) ∧ d.Found root server resolved rest answer asked := by
  induction server, rest using d.follow_induction generalizing resolved log with
  | stop server rest hcut =>
    rw [MountPoint.walk_of_isLeaf (Path.isLeaf_iff.2 hcut)]
    exact ⟨_, [], by rw [List.append_nil]; rfl, .stop hcut⟩
  | lost server rest segment after hcut hlookup =>
    have hleaf := Path.not_isLeaf_iff.2 ⟨_, _, hcut⟩
    rw [MountPoint.walk_of_not_isLeaf hleaf,
      Attempt.bind_error (logged_resolve hcut hlookup log)]
    exact ⟨_, _, rfl, .lost hcut hlookup⟩
  | onward server rest segment after endpoint hcut hlookup ih =>
    have hleaf := Path.not_isLeaf_iff.2 ⟨_, _, hcut⟩
    -- The empty segment is never found, so the walk moves on.
    have hsegment : segment ≠ [] := by
      rintro rfl
      cases (hd.lookup_nil server).symm.trans hlookup
    rw [MountPoint.walk_of_not_isLeaf hleaf,
      Attempt.bind_ok (logged_resolve hcut hlookup log), MountPoint.heed_forward hcut hsegment]
    obtain ⟨answer, asked, hwalk, hfound⟩ :=
      ih (resolved ++ (rest.frontSlash ++ segment) ++ ['/']) _
    exact ⟨answer, _, by rw [hwalk, List.append_assoc]; rfl, hfound.onward hcut hlookup⟩

/-- On a directory, resolving a path is following it. It fails only where the path strays; whoever
is asked sends the walk on; and what was resolved is nothing or ends at a slash. -/
theorem resolve_follows (hd : d.Made) (root : CapPtr) (path : Path) :
    ∃ answer asked,
      MountPoint.resolve resolver root path d = (answer, d) ∧
      MountPoint.resolve resolver.logged root path (d, []) = (answer, d, asked) ∧
      (answer.map fun m => (m.server, m.leaf)) = d.follow root path ∧
      (answer = .error .notFound ↔ d.Strays root path) ∧
      (∀ e, answer = .error e → e = .notFound) ∧
      (∀ q ∈ asked, q.answer ≠ .ok .here) ∧
      (∀ m, answer = .ok m → m.root = root ∧ m.resolved ++ m.leaf = path ∧
        (m.resolved = [] ∨ ∃ front, m.resolved = front ++ ['/'])) ∧
      ∀ ns, d.lookup ns [] = none := by
  obtain ⟨answer, asked, hlogged, hfound⟩ := walk_found hd.valid root root path [] []
  have hplain := (MountPoint.mirrors_walk (NameResolver.mirrors_logged resolver) root root []
    path).eq (d, [])
  rw [hlogged] at hplain
  have hfailed : ∀ e, answer = .error e ↔ d.follow root path = .error e := by
    intro e
    rw [← hfound.follows]
    cases answer <;> simp [Except.map]
  refine ⟨answer, asked, hplain, hlogged, hfound.follows, ?_, ?_, hfound.elsewhere, ?_,
    hd.valid.lookup_nil⟩
  · rw [hfailed, follow_eq_notFound_iff]
  · intro e he
    exact eq_notFound_of_follow ((hfailed e).1 he)
  · intro m hm
    exact ⟨hfound.root_eq m hm, hfound.whole m hm, hfound.slash m hm⟩

/-- Two name servers that name each other: a path goes round until two slashes follow one another,
where the second is in front of the leaf. -/
theorem resolve_follows_round :
    let d := empty.settle
      [.addServer 3, .addServer 4, .register 3 ['a'] 4, .register 4 ['/', 'b'] 3]
    let path := ['/', 'a', '/', 'b', '/', 'a', '/', '/', 'x']
    let m : MountPoint := ⟨4, 3, ['/', 'a', '/', 'b', '/', 'a', '/'], ['/', 'x']⟩
    d.Made ∧ ∃ asked : List Asked,
      MountPoint.resolve resolver 3 path d = (.ok m, d) ∧
      MountPoint.resolve resolver.logged 3 path (d, []) = (.ok m, d, asked) ∧
      ∀ q ∈ asked, q.answer ≠ .ok .here := by
  intro d path m
  have hd : d.Made := ⟨_, rfl⟩
  have hfollow : d.follow 3 path = .ok (4, ['/', 'x']) := by
    calc d.follow 3 path
        = d.follow 4 ['b', '/', 'a', '/', '/', 'x'] := follow_onward rfl rfl
      _ = d.follow 3 ['a', '/', '/', 'x'] := follow_onward rfl rfl
      _ = d.follow 4 ['/', 'x'] := follow_onward rfl rfl
      _ = .ok (4, ['/', 'x']) := follow_stop rfl
  obtain ⟨answer, asked, hresolve, hlogged, hanswer, -, -, helsewhere, hwhole, -⟩ :=
    resolve_follows hd 3 path
  rw [hfollow] at hanswer
  obtain ⟨m, rfl⟩ : ∃ m, answer = .ok m := by
    rcases answer with e | m
    · cases hanswer
    · exact ⟨m, rfl⟩
  obtain ⟨server, root, resolved, leaf⟩ := m
  cases hanswer
  obtain ⟨rfl, hpath, -⟩ := hwhole _ rfl
  have hresolved : resolved = ['/', 'a', '/', 'b', '/', 'a', '/'] :=
    (List.append_left_inj ['/', 'x']).1 hpath
  subst hresolved
  exact ⟨hd, asked, hresolve, hlogged, helsewhere⟩

end Directory

end CapServer
