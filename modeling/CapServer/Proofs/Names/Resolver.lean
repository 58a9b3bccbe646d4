import CapServer.Proofs.Names.MountPoint
import CapServer.Sim.NameScript

/-!
# Resolving a path with any name service

A name service may answer anything: send a walk round in circles, answer the same question in
different ways, or name places that are not in the path. Resolving a path comes to an end all the
same (`MountPoint.resolve_ends`): after at most as many questions as the path is long, with the
failure that one of them ended in, or with the two parts of the path and the server that the last
answer sent it to.

A walk keeps the path in two parts. The same walk over an encoded path keeps the place between them,
counted in bytes, and cuts the path there at every turn (`MountPoint.turn`); where a place is not a
boundary there is nothing to cut at, and the walk has no result. This never happens: the two walks
come to the same (`MountPoint.loop_eq_walk`).
-/

namespace CapServer

/-! ## Questions -/

namespace Asked

/-- The server that the answer sends a walk to, if it does. -/
def endpoint? (q : Asked) : Option CapPtr :=
  match q.answer with
  | .ok (.forward endpoint _) => some endpoint
  | _ => none

/-- The answer ends a walk in a failure: its own, or that it names no place to go on at. -/
def Fails (q : Asked) (e : Failure) : Prop :=
  match q.answer with
  | .error e' => e' = e
  | .ok .here => False
  | .ok (.forward _ consumed) => q.path.BadOffset consumed ∧ e = .malformed

end Asked

namespace MountPoint

variable {ω : Type} {names : NameResolver ω} {root server endpoint : CapPtr}
  {resolved rest front back : Path}

/-! ## Walks over bytes -/

/-- Where a walk over an encoded path stands: the server to ask, and the place in the path. -/
structure Cursor where
  server : CapPtr
  offset : Nat

/-- What a turn of such a walk comes to. -/
inductive Turn
  | onward (cursor : Cursor)
  | done (answer : Except Failure MountPoint)

/-- One turn of a walk over an encoded path; `none` where the path is cut at no boundary. -/
def turn (names : NameResolver ω) (root : CapPtr) (path : Path) (c : Cursor) (w : ω) :
    Option (Turn × ω) := do
  let (before, rest) ← path.splitAt? c.offset
  if rest.isLeaf then
    pure (.done (.ok ⟨c.server, root, before, rest⟩), w)
  else
    match names.resolve c.server rest w with
    | (.error e, w) => pure (.done (.error e), w)
    | (.ok .here, w) => pure (.done (.ok ⟨c.server, root, before, rest⟩), w)
    | (.ok (.forward endpoint consumed), w) =>
      if rest.BadOffset consumed then pure (.done (.error .malformed), w)
      else do
        let (_, back) ← path.splitAt? (c.offset + consumed)
        pure (.onward ⟨endpoint, c.offset + consumed + back.frontSlash.byteLength⟩, w)

/-- A walk over an encoded path, given up after so many turns. -/
def loop (names : NameResolver ω) (root : CapPtr) (path : Path) :
    Nat → Cursor → ω → Option (Except Failure MountPoint × ω)
  | 0, _, _ => none
  | turns + 1, c, w => do
    match ← turn names root path c w with
    | (.done answer, w) => pure (answer, w)
    | (.onward c, w) => loop names root path turns c w

/-! ## Steps of the walk over bytes -/

variable {w w' : ω} {consumed : Nat}

theorem turn_of_isLeaf (h : rest.isLeaf = true) :
    turn names root (resolved ++ rest) ⟨server, resolved.byteLength⟩ w =
      some (.done (.ok ⟨server, root, resolved, rest⟩), w) := by
  simp [turn, Path.splitAt?_append, h]

theorem turn_of_error {e : Failure} (h : ¬ rest.isLeaf = true)
    (hasked : names.resolve server rest w = (.error e, w')) :
    turn names root (resolved ++ rest) ⟨server, resolved.byteLength⟩ w =
      some (.done (.error e), w') := by
  simp [turn, Path.splitAt?_append, h, hasked]

theorem turn_of_here (h : ¬ rest.isLeaf = true)
    (hasked : names.resolve server rest w = (.ok .here, w')) :
    turn names root (resolved ++ rest) ⟨server, resolved.byteLength⟩ w =
      some (.done (.ok ⟨server, root, resolved, rest⟩), w') := by
  simp [turn, Path.splitAt?_append, h, hasked]

theorem turn_of_badOffset (h : ¬ rest.isLeaf = true)
    (hasked : names.resolve server rest w = (.ok (.forward endpoint consumed), w'))
    (hbad : rest.BadOffset consumed) :
    turn names root (resolved ++ rest) ⟨server, resolved.byteLength⟩ w =
      some (.done (.error .malformed), w') := by
  simp [turn, Path.splitAt?_append, h, hasked, hbad]

theorem turn_append (hfront : front ≠ []) (h : ¬ Path.isLeaf (front ++ back) = true)
    (hasked : names.resolve server (front ++ back) w =
      (.ok (.forward endpoint (Path.byteLength front)), w')) :
    turn names root (resolved ++ (front ++ back)) ⟨server, resolved.byteLength⟩ w =
      some (.onward ⟨endpoint,
        Path.byteLength (resolved ++ front ++ Path.frontSlash back)⟩, w') := by
  have hgood := Path.not_badOffset_append hfront back
  have hcut : Path.splitAt? (resolved.byteLength + front.byteLength) (resolved ++ (front ++ back)) =
      some (resolved ++ front, back) := by
    rw [← Path.byteLength_append, ← List.append_assoc]
    exact Path.splitAt?_append _ _
  simp [turn, Path.splitAt?_append, h, hasked, hgood, hcut, Nat.add_assoc]

/-- A walk over bytes cuts only at boundaries, ends, and comes to what the walk comes to. -/
theorem loop_eq_walk (names : NameResolver ω) (root server : CapPtr) (resolved rest : Path) (w : ω)
    {turns : Nat} (h : rest.length < turns) :
    loop names root (resolved ++ rest) turns ⟨server, resolved.byteLength⟩ w =
      some (walk names root server resolved rest w) := by
  obtain ⟨turns, rfl⟩ : ∃ n, turns = n + 1 := ⟨turns - 1, by omega⟩
  induction server, resolved, rest, w using walk_induction names generalizing turns with
  | leaf server resolved rest w hleaf =>
    rw [loop, turn_of_isLeaf hleaf, walk_of_isLeaf hleaf]
    rfl
  | error server resolved rest w e w' hleaf hasked =>
    rw [loop, turn_of_error hleaf hasked, walk_of_error hleaf hasked]
    rfl
  | here server resolved rest w w' hleaf hasked =>
    rw [loop, turn_of_here hleaf hasked, walk_of_here hleaf hasked]
    rfl
  | misled server resolved rest w endpoint consumed w' hleaf hasked hbad =>
    rw [loop, turn_of_badOffset hleaf hasked hbad, walk_of_badOffset hleaf hasked hbad]
    rfl
  | onward server resolved front back w endpoint w' hfront hleaf hasked ih =>
    have hless := Path.length_dropSlash_lt hfront back
    obtain ⟨turns, rfl⟩ : ∃ n, turns = n + 1 := ⟨turns - 1, by omega⟩
    rw [loop, turn_append hfront hleaf hasked, walk_append hfront hleaf hasked,
      ← Path.append_frontSlash_append_dropSlash resolved front back]
    exact ih turns (by omega)

/-- What a path resolves to can be read off the walk over its bytes. -/
theorem resolve_of_loop {path : Path} {r : Except Failure MountPoint × ω}
    (h : loop names root path (path.length + 1) ⟨root, 0⟩ w = some r) :
    resolve names root path w = r :=
  Option.some.inj ((loop_eq_walk names root root [] path w (Nat.lt_succ_self _)).symm.trans h)

/-- The second byte of a character is no place to go on at. -/
example : loop NameScript.resolver 3 ['/', 'é', '/', 'b'] 5 ⟨3, 0⟩ ⟨[.ok (.forward 9 2)], []⟩ =
    some (.error .malformed, ⟨[], [(3, ['/', 'é', '/', 'b'])]⟩) := rfl

/-! ## What comes of a walk -/

/-- How a walk from `server` on ended, and what was asked on the way. -/
structure Ended (root server : CapPtr) (resolved rest : Path)
    (answer : Except Failure MountPoint) (asked : List Asked) : Prop where
  few : asked.length ≤ rest.length
  behind : ∀ q ∈ asked, q.path <:+ rest
  error_iff : ∀ e, answer = .error e ↔ ∃ q ∈ asked, q.Fails e
  root_eq : ∀ m, answer = .ok m → m.root = root
  whole : ∀ m, answer = .ok m → m.resolved ++ m.leaf = resolved ++ rest
  server_eq : ∀ m, answer = .ok m → m.server = (asked.filterMap Asked.endpoint?).getLastD server

namespace Ended

variable {answer : Except Failure MountPoint} {asked : List Asked}

/-- Where the path is owned; nobody was asked if it is a leaf. -/
theorem owned (hfew : asked.length ≤ rest.length)
    (hasked : ∀ q ∈ asked, q = ⟨server, rest, .ok .here⟩) :
    Ended root server resolved rest (.ok ⟨server, root, resolved, rest⟩) asked where
  few := hfew
  behind := by
    intro q hq
    obtain rfl := hasked q hq
    exact List.suffix_refl _
  error_iff := by
    intro e
    refine ⟨nofun, ?_⟩
    rintro ⟨q, hq, hfails⟩
    rw [hasked q hq] at hfails
    exact hfails.elim
  root_eq := by
    rintro m ⟨⟩
    rfl
  whole := by
    rintro m ⟨⟩
    rfl
  server_eq := by
    rintro m ⟨⟩
    have hnone : asked.filterMap Asked.endpoint? = [] := by
      refine List.filterMap_eq_nil_iff.2 fun q hq => ?_
      rw [hasked q hq]
      rfl
    rw [hnone]
    rfl

theorem failed {q : Asked} {e : Failure} (h : 0 < rest.length) (hpath : q.path = rest)
    (hfails : ∀ e', q.Fails e' ↔ e = e') :
    Ended root server resolved rest (.error e) [q] where
  few := h
  behind := by
    intro q' hq
    obtain rfl := List.mem_singleton.1 hq
    exact hpath ▸ List.suffix_refl q'.path
  error_iff := by
    intro e'
    simp only [Except.error.injEq, List.mem_singleton, exists_eq_left, hfails]
  root_eq := nofun
  whole := nofun
  server_eq := nofun

theorem onward (hfront : front ≠ [])
    (h : Ended root endpoint (resolved ++ front ++ Path.frontSlash back) (Path.dropSlash back)
      answer asked) :
    Ended root server resolved (front ++ back) answer
      (⟨server, front ++ back, .ok (.forward endpoint (Path.byteLength front))⟩ :: asked) where
  few := by
    have hless := Path.length_dropSlash_lt hfront back
    have hfew := h.few
    rw [List.length_cons]
    omega
  behind := by
    have hdrop : Path.dropSlash back <:+ back :=
      ⟨Path.frontSlash back, Path.frontSlash_append_dropSlash back⟩
    intro q hq
    rcases List.mem_cons.1 hq with rfl | hq
    · exact List.suffix_refl _
    · exact ((h.behind q hq).trans hdrop).trans (List.suffix_append front back)
  error_iff := by
    intro e
    rw [h.error_iff]
    constructor
    · rintro ⟨q, hq, hfails⟩
      exact ⟨q, List.mem_cons_of_mem _ hq, hfails⟩
    · rintro ⟨q, hq, hfails⟩
      rcases List.mem_cons.1 hq with rfl | hq
      · exact absurd hfails.1 (Path.not_badOffset_append hfront back)
      · exact ⟨q, hq, hfails⟩
  root_eq := h.root_eq
  whole := by
    intro m hm
    rw [h.whole m hm, Path.append_frontSlash_append_dropSlash]
  server_eq := by
    intro m hm
    rw [h.server_eq m hm]
    exact (List.getLastD_cons ..).symm

end Ended

theorem walk_ended (names : NameResolver ω) (root server : CapPtr) (resolved rest : Path) (w : ω)
    (log : List Asked) :
    ∃ answer asked w', walk names.logged root server resolved rest (w, log) =
      (answer, w', log ++ asked) ∧ Ended root server resolved rest answer asked := by
  induction server, resolved, rest, w using walk_induction names generalizing log with
  | leaf server resolved rest w hleaf =>
    rw [walk_of_isLeaf hleaf]
    exact ⟨_, [], w, by rw [List.append_nil]; rfl, .owned (Nat.zero_le _) nofun⟩
  | error server resolved rest w e w' hleaf hasked =>
    rw [walk_of_error hleaf (NameResolver.logged_resolve hasked log)]
    exact ⟨_, _, w', rfl, .failed (Path.length_pos_of_not_isLeaf hleaf) rfl fun _ => Iff.rfl⟩
  | here server resolved rest w w' hleaf hasked =>
    rw [walk_of_here hleaf (NameResolver.logged_resolve hasked log)]
    exact ⟨_, _, w', rfl, .owned (Path.length_pos_of_not_isLeaf hleaf) fun q hq =>
      List.mem_singleton.1 hq⟩
  | misled server resolved rest w endpoint consumed w' hleaf hasked hbad =>
    rw [walk_of_badOffset hleaf (NameResolver.logged_resolve hasked log) hbad]
    refine ⟨_, _, w', rfl, .failed (Path.length_pos_of_not_isLeaf hleaf) rfl fun e => ?_⟩
    exact (and_iff_right hbad).trans eq_comm
  | onward server resolved front back w endpoint w' hfront hleaf hasked ih =>
    rw [walk_append hfront hleaf (NameResolver.logged_resolve hasked log)]
    obtain ⟨answer, asked, w', hwalk, hended⟩ := ih _
    exact ⟨answer, _, w', by rw [hwalk, List.append_assoc]; rfl, hended.onward hfront⟩

/-- **Whatever a name service answers, resolving a path ends.** Over the bytes of the path, no more
turns are made than it has bytes, but for one, and all cuts are between characters. There are no
more questions than characters, each about an end of the path; a walk fails with the failure that a
question ends it with, and only with such; and if it does not fail, it started at the root, has the
path in two parts, and is where the last answer that sent it on sent it. -/
theorem resolve_ends (names : NameResolver ω) (root : CapPtr) (path : Path) (w : ω) :
    ∃ answer asked w',
      resolve names root path w = (answer, w') ∧
      resolve names.logged root path (w, []) = (answer, w', asked) ∧
      loop names root path (path.byteLength + 1) ⟨root, 0⟩ w = some (answer, w') ∧
      asked.length ≤ path.length ∧ path.length ≤ path.byteLength ∧
      (∀ q ∈ asked, q.path <:+ path) ∧
      (∀ e, answer = .error e ↔ ∃ q ∈ asked, q.Fails e) ∧
      ∀ m, answer = .ok m → m.root = root ∧ m.resolved ++ m.leaf = path ∧
        m.server = (asked.filterMap Asked.endpoint?).getLastD root := by
  obtain ⟨answer, asked, w', hlogged, hended⟩ := walk_ended names root root [] path w []
  have hplain : resolve names root path w = (answer, w') := by
    have hmirrors := (mirrors_walk (NameResolver.mirrors_logged names) root root [] path).eq (w, [])
    rw [hlogged] at hmirrors
    exact hmirrors
  have hbytes := Path.length_le_byteLength path
  have hloop : loop names root path (path.byteLength + 1) ⟨root, 0⟩ w = some (answer, w') := by
    rw [← hplain]
    exact loop_eq_walk names root root [] path w (by omega)
  refine ⟨answer, asked, w', hplain, hlogged, hloop, hended.few, hbytes, hended.behind,
    hended.error_iff, fun m hm => ?_⟩
  exact ⟨hended.root_eq m hm, hended.whole m hm, hended.server_eq m hm⟩

/-- Sent round between two servers, by answers that do not keep to the slashes. -/
theorem resolve_ends_round :
    let names := NameScript.resolver
    let path : Path := ['/', 'é', '/', 'a', 'b', '/', 'c']
    let script : NameScript := ⟨[.ok (.forward 4 3), .ok (.forward 3 1), .ok (.forward 4 1)], []⟩
    ∃ asked w',
      resolve names 3 path script = (.ok ⟨4, 3, ['/', 'é', '/', 'a', 'b', '/'], ['c']⟩, w') ∧
      resolve names.logged 3 path (script, []) =
        (.ok ⟨4, 3, ['/', 'é', '/', 'a', 'b', '/'], ['c']⟩, w', asked) ∧
      asked.length ≤ 7 ∧ (asked.filterMap Asked.endpoint?).getLastD 3 = 4 := by
  intro names path script
  obtain ⟨answer, asked, w', hplain, hlogged, hloop, hfew, -, -, -, hfound⟩ :=
    resolve_ends names 3 path script
  have hround : loop names 3 path (path.byteLength + 1) ⟨3, 0⟩ script =
      some (.ok ⟨4, 3, ['/', 'é', '/', 'a', 'b', '/'], ['c']⟩,
        ⟨[], [(3, path), (4, ['a', 'b', '/', 'c']), (3, ['b', '/', 'c'])]⟩) := rfl
  rw [hround] at hloop
  cases hloop
  exact ⟨asked, _, hplain, hlogged, hfew, (hfound _ rfl).2.2.symm⟩

end MountPoint

end CapServer
