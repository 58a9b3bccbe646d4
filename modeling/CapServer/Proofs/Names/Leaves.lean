import CapServer.Proofs.Names.Resolver
import CapServer.Proofs.Names.Walk

/-!
# The question that a walk saves

A walk does not ask about a leaf: it takes the server it has come to for the owner. The same walk
less this shortcut asks until a server says that it owns the rest (`MountPoint.walkAsking`). With a
name service that sends nobody on from a leaf there is one question more to it, about the leaf, to
the server that was found (`MountPoint.walkAsking_eq_walk_bind`).

A name server owns its leaves, but for the empty path, which names nothing. So in a directory the
shortcut makes no difference, except for a path that is empty or ends in a slash
(`Directory.shortcut_agrees`): what is left of it at the end is nothing, or a slash alone, and the
server found there does not own that (`Directory.shortcut_finds_unowned`).
-/

namespace CapServer

/-! ## Walks that ask about leaves -/

/-- Nobody is sent on from a leaf. -/
def NameResolver.KeepsLeaves {ω : Type} (n : NameResolver ω) : Prop :=
  ∀ (ns : CapPtr) (path : Path), path.isLeaf = true →
    ∀ w endpoint consumed, (n.resolve ns path w).1 ≠ .ok (.forward endpoint consumed)

namespace MountPoint

variable {ω : Type} {names : NameResolver ω} {root server : CapPtr} {resolved rest path : Path}

/-- Go on at `server` with `rest`, after `resolved`, until a server says that it owns the rest. -/
def walkAsking (names : NameResolver ω) (root server : CapPtr) (resolved rest : Path) :
    Attempt ω MountPoint := do
  match ← names.resolve server rest with
  | .here => pure ⟨server, root, resolved, rest⟩
  | .forward endpoint consumed =>
    match _cut : rest.splitAt? consumed with
    | some (front, back) =>
      if _stuck : consumed = 0 then throw .malformed
      else walkAsking names root endpoint (resolved ++ front ++ back.frontSlash) back.dropSlash
    | none => throw .malformed
termination_by rest.length
decreasing_by
  obtain ⟨rfl, hl⟩ := Path.splitAt?_eq_some _cut
  refine Path.length_dropSlash_lt (fun hfront => _stuck ?_) back
  rw [← hl, hfront, Path.byteLength_nil]

/-- Resolve a path from the name server `root` on, asking about leaves too. -/
def resolveAsking (names : NameResolver ω) (root : CapPtr) (path : Path) : Attempt ω MountPoint :=
  walkAsking names root root [] path

/-- Go on as a name server says, asking about leaves too. -/
def heedAsking (names : NameResolver ω) (root server : CapPtr) (resolved rest : Path) :
    Resolution → Attempt ω MountPoint
  | .here => pure ⟨server, root, resolved, rest⟩
  | .forward endpoint consumed =>
    match rest.splitAt? consumed with
    | some (front, back) =>
      if consumed = 0 then throw .malformed
      else walkAsking names root endpoint (resolved ++ front ++ back.frontSlash) back.dropSlash
    | none => throw .malformed

theorem walkAsking_eq (names : NameResolver ω) (root server : CapPtr) (resolved rest : Path) :
    walkAsking names root server resolved rest =
      names.resolve server rest >>= heedAsking names root server resolved rest := by
  rw [walkAsking]
  refine congrArg _ (funext fun answer => ?_)
  rcases answer with _ | ⟨endpoint, consumed⟩
  · rfl
  · simp only [heedAsking]
    split
    · next front back hcut => simp only [hcut, dite_eq_ite]
    · next hcut => simp only [hcut]

/-- Ask the server that was found about its leaf, if it is one. -/
def confirm (names : NameResolver ω) (m : MountPoint) : Attempt ω MountPoint :=
  if m.leaf.isLeaf then names.resolve m.server m.leaf >>= fun _ => pure m else pure m

/-- Asking about leaves too takes one question more, at the end. -/
theorem walkAsking_eq_walk_bind (h : names.KeepsLeaves) (root server : CapPtr)
    (resolved rest : Path) :
    walkAsking names root server resolved rest =
      walk names root server resolved rest >>= confirm names := by
  induction server, resolved, rest using walk.induct with
  | case1 server resolved rest hleaf =>
    -- The walk ends without a question; who is asked owns the leaf or fails.
    rw [walk_of_isLeaf hleaf, walkAsking_eq, pure_bind, confirm, if_pos hleaf]
    funext w
    rcases hasked : names.resolve server rest w with ⟨e | _ | ⟨endpoint, consumed⟩, w'⟩
    · rw [Attempt.bind_error hasked, Attempt.bind_error hasked]
    · rw [Attempt.bind_ok hasked, Attempt.bind_ok hasked]
      rfl
    · exact absurd (congrArg Prod.fst hasked) (h server rest hleaf w endpoint consumed)
  | case2 server resolved rest hleaf ih =>
    rw [walk_of_not_isLeaf hleaf, walkAsking_eq, bind_assoc]
    refine congrArg _ (funext fun answer => ?_)
    rcases answer with _ | ⟨endpoint, consumed⟩
    · -- What is owned without being a leaf was asked about already.
      simp only [heed, heedAsking, pure_bind, confirm, if_neg hleaf]
    · rcases hcut : rest.splitAt? consumed with _ | ⟨front, back⟩
      · simp only [heed, heedAsking, hcut]
        rfl
      · simp only [heed, heedAsking, hcut]
        by_cases hstuck : consumed = 0
        · rw [if_pos hstuck, if_pos hstuck]
          rfl
        · rw [if_neg hstuck, if_neg hstuck]
          exact ih endpoint consumed front back hcut hstuck

end MountPoint

/-! ## Leaves in a directory -/

/-- A name server owns every leaf but the empty one. -/
theorem NameServer.resolve_of_isLeaf {path : Path} (h : path.isLeaf = true) (s : NameServer) :
    s.resolve path = if path.dropSlash = [] then .error .notFound else .ok .here := by
  have hnone : path.dropSlash.contains '/' = false := by simpa [Path.isLeaf] using h
  simp only [resolve, List.isEmpty_iff, hnone, Bool.not_false, if_true]

namespace Directory

variable {d : Directory} {ns root : CapPtr} {path : Path} {m : MountPoint}

theorem resolve_of_isLeaf (h : path.isLeaf = true) (ns : CapPtr) (d : Directory) :
    resolve ns path d =
      (if d.servers.contains ns = true ∧ path.dropSlash ≠ [] then .ok .here
        else .error .notFound, d) := by
  unfold resolve IdMap.contains
  rcases d.servers.get? ns with _ | s
  · simp
  · simp [NameServer.resolve_of_isLeaf h]

theorem keepsLeaves_resolver : resolver.KeepsLeaves := by
  intro ns path hleaf d endpoint consumed
  rw [show resolver.resolve ns path d = _ from resolve_of_isLeaf hleaf ns d]
  dsimp only
  split <;> exact nofun

theorem resolve_eq_here_iff :
    (resolve ns path d).1 = .ok .here ↔
      d.servers.contains ns = true ∧ path.isLeaf = true ∧ path.dropSlash ≠ [] := by
  by_cases hleaf : path.isLeaf = true
  · rw [resolve_of_isLeaf hleaf]
    simp [hleaf]
  · obtain ⟨segment, after, hcut⟩ := Path.not_isLeaf_iff.1 hleaf
    rw [resolve_of_cutSlash hcut]
    cases d.lookup ns segment <;> simp [Resolution.ofLookup, hleaf]

/-- The servers that a walk reaches: where it starts, and where it is sent. -/
def reached (d : Directory) (root : CapPtr) (path : Path) : List CapPtr :=
  root :: (MountPoint.resolve resolver.logged root path (d, [])).2.2.filterMap Asked.endpoint?

theorem isLeaf_of_follow {server found : CapPtr} {rest leaf : Path}
    (h : d.follow server rest = .ok (found, leaf)) : leaf.isLeaf = true := by
  induction server, rest using d.follow_induction with
  | stop server rest hcut =>
    rw [follow_stop hcut] at h
    cases h
    exact Path.isLeaf_iff.2 hcut
  | lost server rest segment after hcut hlookup =>
    rw [follow_lost hcut hlookup] at h
    cases h
  | onward server rest segment after endpoint hcut hlookup ih =>
    rw [follow_onward hcut hlookup] at h
    exact ih h

/-- What is found of a path is a leaf, at a server that was reached. -/
structure Stands (d : Directory) (root : CapPtr) (path : Path) (m : MountPoint) : Prop where
  reached : m.server ∈ d.reached root path
  leaf : m.leaf.isLeaf = true
  whole : m.resolved ++ m.leaf = path
  slash : m.resolved = [] ∨ ∃ front, m.resolved = front ++ ['/']

theorem resolve_stands (hd : d.Valid) (root : CapPtr) (path : Path) :
    ∃ answer, MountPoint.resolve resolver root path d = (answer, d) ∧
      ∀ m, answer = .ok m → d.Stands root path m := by
  obtain ⟨answer, asked, hlogged, hfound⟩ := walk_found hd root root path [] []
  obtain ⟨answer', asked', d', hlogged', hended⟩ :=
    MountPoint.walk_ended resolver root root [] path d []
  cases hlogged.symm.trans hlogged'
  refine ⟨answer, MountPoint.resolve_of_logged hlogged, ?_⟩
  rintro m rfl
  constructor
  · rw [reached, MountPoint.resolve, hlogged, hended.server_eq m rfl]
    exact List.getLastD_mem_cons
  · exact isLeaf_of_follow hfound.follows.symm
  · exact hfound.whole m rfl
  · exact hfound.slash m rfl

theorem resolveAsking_of_error {e : Failure}
    (h : MountPoint.resolve resolver root path d = (.error e, d)) :
    MountPoint.resolveAsking resolver root path d = (.error e, d) := by
  rw [MountPoint.resolveAsking, MountPoint.walkAsking_eq_walk_bind keepsLeaves_resolver]
  exact Attempt.bind_error h

/-- The mount point that was found is given back if its server owns the leaf. -/
theorem resolveAsking_of_ok (h : MountPoint.resolve resolver root path d = (.ok m, d))
    (hleaf : m.leaf.isLeaf = true) (hserver : d.servers.contains m.server = true) :
    MountPoint.resolveAsking resolver root path d =
      (if m.leaf.dropSlash = [] then .error .notFound else .ok m, d) := by
  have hanswer : resolver.resolve m.server m.leaf d =
      (if m.leaf.dropSlash = [] then .error .notFound else .ok .here, d) := by
    rw [show resolver.resolve m.server m.leaf d = _ from resolve_of_isLeaf hleaf m.server d]
    simp [hserver]
  rw [MountPoint.resolveAsking, MountPoint.walkAsking_eq_walk_bind keepsLeaves_resolver]
  refine (Attempt.bind_ok h).trans ?_
  rw [MountPoint.confirm, if_pos hleaf, Attempt.bind_apply, hanswer]
  by_cases hnil : m.leaf.dropSlash = []
  · rw [if_pos hnil, if_pos hnil]
  · rw [if_neg hnil, if_neg hnil]
    rfl

/-- The empty path and a slash alone are leaves that nobody owns. -/
theorem resolve_bare {rest : Path} (h : rest = [] ∨ rest = ['/']) (ns : CapPtr) (d : Directory) :
    rest.isLeaf = true ∧ (resolve ns rest d).1 = .error .notFound := by
  have hleaf : rest.isLeaf = true := by
    rcases h with rfl | rfl <;> rfl
  refine ⟨hleaf, ?_⟩
  rw [resolve_of_isLeaf hleaf, Path.dropSlash_eq_nil_iff.2 h]
  simp

/-- **Taking leaves without asking comes to the same as asking about them**, for every path that is
not empty and does not end in a slash, if the servers that the walk reaches are there to be asked.
Of any other path nothing, or a slash alone, is left at the server that is found, and that server
does not own it. Apart from these two, the leaves are what a name server owns. -/
theorem shortcut_agrees (hd : d.Made) (root : CapPtr) (path : Path)
    (hreached : ∀ ns ∈ d.reached root path, d.servers.contains ns = true) :
    ∃ answer, MountPoint.resolve resolver root path d = (answer, d) ∧
      ((∀ m, answer = .ok m → path ≠ [] ∧ ¬ ['/'] <:+ path) →
        MountPoint.resolveAsking resolver root path d = (answer, d)) ∧
      (∀ m, answer = .ok m → path = [] ∨ ['/'] <:+ path →
        (m.leaf = [] ∨ m.leaf = ['/']) ∧
          MountPoint.resolveAsking resolver root path d = (.error .notFound, d)) ∧
      ∀ ns, d.servers.contains ns = true → ∀ rest : Path,
        (rest ≠ [] ∧ rest ≠ ['/'] → (rest.isLeaf = true ↔ (resolve ns rest d).1 = .ok .here)) ∧
        (rest = [] ∨ rest = ['/'] →
          rest.isLeaf = true ∧ (resolve ns rest d).1 = .error .notFound) := by
  obtain ⟨answer, hresolve, hstands⟩ := resolve_stands hd.valid root path
  have hasking : ∀ m, answer = .ok m → MountPoint.resolveAsking resolver root path d =
      (if m.leaf.dropSlash = [] then .error .notFound else .ok m, d) := by
    rintro m rfl
    have hm := hstands m rfl
    exact resolveAsking_of_ok hresolve hm.leaf (hreached _ hm.reached)
  have hbare : ∀ m, answer = .ok m →
      (m.leaf.dropSlash = [] ↔ path = [] ∨ ['/'] <:+ path) := by
    intro m hanswer
    have hm := hstands m hanswer
    rw [Path.dropSlash_leaf_eq_nil_iff hm.leaf hm.slash, hm.whole]
  refine ⟨answer, hresolve, ?_, ?_, fun ns hns rest => ⟨?_, fun hrest => resolve_bare hrest ns d⟩⟩
  · intro hpath
    rcases answer with e | m
    · exact resolveAsking_of_error hresolve
    · obtain ⟨hne, hslash⟩ := hpath m rfl
      rw [hasking m rfl, if_neg (by rw [hbare m rfl, not_or]; exact ⟨hne, hslash⟩)]
  · intro m hanswer hpath
    have hnil := (hbare m hanswer).2 hpath
    refine ⟨Path.dropSlash_eq_nil_iff.1 hnil, ?_⟩
    rw [hasking m hanswer, if_pos hnil]
  · intro hrest
    have hnil : rest.dropSlash ≠ [] := by
      rw [ne_eq, Path.dropSlash_eq_nil_iff, not_or]
      exact hrest
    rw [resolve_eq_here_iff]
    exact ⟨fun hleaf => ⟨hns, hleaf, hnil⟩, fun h => h.2.1⟩

/-- A name server below another one. -/
def sampleNested : Directory :=
  empty.settle [.addServer 3, .addServer 4, .register 3 ['d', 'e', 'v'] 4]

/-- What is owned below both of them is found with and without asking. -/
theorem shortcut_agrees_below_dev :
    let path : Path := ['/', 'd', 'e', 'v', '/', 't', 't', 'y']
    let m : MountPoint := ⟨4, 3, ['/', 'd', 'e', 'v', '/'], ['t', 't', 'y']⟩
    sampleNested.Made ∧
      (∀ ns ∈ sampleNested.reached 3 path, sampleNested.servers.contains ns = true) ∧
      MountPoint.resolve resolver 3 path sampleNested = (.ok m, sampleNested) ∧
      MountPoint.resolveAsking resolver 3 path sampleNested = (.ok m, sampleNested) := by
  intro path m
  have hmade : sampleNested.Made := ⟨_, rfl⟩
  have hlogged : MountPoint.resolve resolver.logged 3 path (sampleNested, []) =
      (.ok m, sampleNested, [⟨3, path, .ok (.forward 4 4)⟩]) := MountPoint.resolve_of_loop rfl
  have hresolve := MountPoint.resolve_of_logged hlogged
  have hreached : ∀ ns ∈ sampleNested.reached 3 path,
      sampleNested.servers.contains ns = true := by
    rw [reached, hlogged]
    decide
  obtain ⟨answer, hanswer, hsame, -⟩ := shortcut_agrees hmade 3 path hreached
  cases hresolve.symm.trans hanswer
  exact ⟨hmade, hreached, hresolve, hsame fun _ _ => by decide⟩

/-- Below a name that a slash follows there may be nothing more. The name server registered there is
taken for the owner of what is left, and asked about it, it owns nothing. -/
theorem shortcut_finds_unowned :
    let path : Path := ['/', 'd', 'e', 'v', '/']
    sampleNested.Made ∧
      (∀ ns ∈ sampleNested.reached 3 path, sampleNested.servers.contains ns = true) ∧
      MountPoint.resolve resolver 3 path sampleNested = (.ok ⟨4, 3, path, []⟩, sampleNested) ∧
      MountPoint.resolveAsking resolver 3 path sampleNested = (.error .notFound, sampleNested) ∧
      Path.isLeaf [] = true ∧ (resolve 4 [] sampleNested).1 = .error .notFound := by
  intro path
  have hlogged : MountPoint.resolve resolver.logged 3 path (sampleNested, []) =
      (.ok ⟨4, 3, path, []⟩, sampleNested, [⟨3, path, .ok (.forward 4 4)⟩]) :=
    MountPoint.resolve_of_loop rfl
  have hresolve := MountPoint.resolve_of_logged hlogged
  have hreached : ∀ ns ∈ sampleNested.reached 3 path,
      sampleNested.servers.contains ns = true := by
    rw [reached, hlogged]
    decide
  exact ⟨⟨_, rfl⟩, hreached, hresolve, resolveAsking_of_ok hresolve rfl rfl, rfl, rfl⟩

end Directory

end CapServer
