import CapServer.Names.MountPoint
import CapServer.Proofs.Mirrors
import CapServer.Proofs.Names.Path

/-!
# Steps of a walk

What a walk does with an answer is `MountPoint.heed`, so that a walk is a question, unless it has
come to a leaf, and `heed` of what was answered (`MountPoint.walk_eq`). Answers are of four kinds,
so there are five steps to take, and a walk is a run of them (`MountPoint.walk_induction`). A name
service seen through a map gives the same walk, seen through the map (`MountPoint.mirrors_walk`).

`NameResolver.logged` writes down what a name service is asked.
-/

namespace CapServer

/-- A name server that was asked about a path, and what it said. -/
structure Asked where
  server : CapPtr
  path : Path
  answer : Except Failure Resolution

namespace NameResolver

variable {ω : Type}

/-- A name service with a log of what it was asked, the oldest first. -/
def logged (n : NameResolver ω) : NameResolver (ω × List Asked) :=
  { n.lift .fst with
    resolve := fun ns path (w, log) =>
      let (answer, w) := n.resolve ns path w
      (answer, w, log ++ [⟨ns, path, answer⟩]) }

theorem mirrors_logged (n : NameResolver ω) (ns : CapPtr) (path : Path) :
    (n.logged.resolve ns path).Mirrors (n.resolve ns path) Prod.fst id :=
  .of_eq fun _ => rfl

/-- The log gets the question and the answer, whatever they are. -/
theorem logged_resolve {n : NameResolver ω} {ns : CapPtr} {path : Path} {w w' : ω}
    {answer : Except Failure Resolution} (h : n.resolve ns path w = (answer, w'))
    (log : List Asked) :
    n.logged.resolve ns path (w, log) = (answer, w', log ++ [⟨ns, path, answer⟩]) := by
  simp only [logged, h]

end NameResolver

namespace MountPoint

variable {ω υ : Type} {names : NameResolver ω} {root server endpoint : CapPtr}
  {resolved rest front back segment after : Path} {w w' : ω} {consumed : Nat}

/-- Go on as a name server says. -/
def heed (names : NameResolver ω) (root server : CapPtr) (resolved rest : Path) :
    Resolution → Attempt ω MountPoint
  | .here => pure ⟨server, root, resolved, rest⟩
  | .forward endpoint consumed =>
    match rest.splitAt? consumed with
    | some (front, back) =>
      if consumed = 0 then throw .malformed
      else walk names root endpoint (resolved ++ front ++ back.frontSlash) back.dropSlash
    | none => throw .malformed

theorem walk_eq (names : NameResolver ω) (root server : CapPtr) (resolved rest : Path) :
    walk names root server resolved rest =
      if rest.isLeaf then pure ⟨server, root, resolved, rest⟩
      else names.resolve server rest >>= heed names root server resolved rest := by
  rw [walk]
  split
  · rfl
  · refine congrArg _ (funext fun answer => ?_)
    rcases answer with _ | ⟨endpoint, consumed⟩
    · rfl
    · -- `walk` keeps the equation of its cut, for its termination only.
      simp only [heed]
      split
      · next front back hcut => simp only [hcut, dite_eq_ite]
      · next hcut => simp only [hcut]

theorem walk_of_isLeaf (h : rest.isLeaf = true) :
    walk names root server resolved rest = pure ⟨server, root, resolved, rest⟩ := by
  rw [walk_eq, if_pos h]

theorem walk_of_not_isLeaf (h : ¬ rest.isLeaf = true) :
    walk names root server resolved rest =
      names.resolve server rest >>= heed names root server resolved rest := by
  rw [walk_eq, if_neg h]

/-- What an answer deals with is passed with the slash behind it. -/
theorem heed_append (hfront : front ≠ []) (back : Path) :
    heed names root server resolved (front ++ back) (.forward endpoint front.byteLength) =
      walk names root endpoint (resolved ++ front ++ back.frontSlash) back.dropSlash := by
  simp only [heed, Path.splitAt?_append, if_neg (Path.byteLength_ne_zero hfront)]

/-- What an answer deals with may be a segment. -/
theorem heed_forward (h : rest.dropSlash.cutSlash = some (segment, after))
    (hsegment : segment ≠ []) :
    heed names root server resolved rest
        (.forward endpoint (rest.frontSlash ++ segment).byteLength) =
      walk names root endpoint (resolved ++ (rest.frontSlash ++ segment) ++ ['/']) after := by
  have hfront : rest.frontSlash ++ segment ≠ [] := List.append_ne_nil_of_right_ne_nil _ hsegment
  calc heed names root server resolved rest
        (.forward endpoint (rest.frontSlash ++ segment).byteLength)
      = heed names root server resolved (rest.frontSlash ++ segment ++ '/' :: after)
        (.forward endpoint (rest.frontSlash ++ segment).byteLength) := by
        rw [← Path.eq_of_cutSlash h]
    _ = walk names root endpoint (resolved ++ (rest.frontSlash ++ segment) ++ ['/']) after :=
      heed_append hfront ('/' :: after)

theorem walk_of_error {e : Failure} (h : ¬ rest.isLeaf = true)
    (hasked : names.resolve server rest w = (.error e, w')) :
    walk names root server resolved rest w = (.error e, w') := by
  rw [walk_of_not_isLeaf h, Attempt.bind_error hasked]

theorem walk_of_here (h : ¬ rest.isLeaf = true)
    (hasked : names.resolve server rest w = (.ok .here, w')) :
    walk names root server resolved rest w = (.ok ⟨server, root, resolved, rest⟩, w') := by
  rw [walk_of_not_isLeaf h, Attempt.bind_ok hasked]
  rfl

theorem walk_of_badOffset (h : ¬ rest.isLeaf = true)
    (hasked : names.resolve server rest w = (.ok (.forward endpoint consumed), w'))
    (hbad : rest.BadOffset consumed) :
    walk names root server resolved rest w = (.error .malformed, w') := by
  rw [walk_of_not_isLeaf h, Attempt.bind_ok hasked]
  dsimp only [heed]
  rcases hcut : rest.splitAt? consumed with _ | ⟨front, back⟩
  · rfl
  · obtain ⟨rfl, hn⟩ := Path.splitAt?_eq_some hcut
    have hstuck : consumed = 0 := by
      refine Decidable.byContradiction fun hmoves => Path.not_badOffset_iff.2 ?_ hbad
      refine ⟨front, back, rfl, hn, ?_⟩
      rintro rfl
      exact hmoves hn.symm
    simp only [if_pos hstuck, Attempt.throw_apply]

/-- What an answer deals with is passed, with one slash behind it. -/
theorem walk_append (hfront : front ≠ []) (h : ¬ Path.isLeaf (front ++ back) = true)
    (hasked : names.resolve server (front ++ back) w =
      (.ok (.forward endpoint (Path.byteLength front)), w')) :
    walk names root server resolved (front ++ back) w =
      walk names root endpoint (resolved ++ front ++ Path.frontSlash back) (Path.dropSlash back)
        w' := by
  rw [walk_of_not_isLeaf h, Attempt.bind_ok hasked]
  exact congrFun (heed_append hfront back) w'

/-- Whatever is answered, a walk takes one of five steps. -/
theorem walk_induction (names : NameResolver ω) {motive : CapPtr → Path → Path → ω → Prop}
    (leaf : ∀ server resolved rest w, rest.isLeaf = true → motive server resolved rest w)
    (error : ∀ server resolved rest w e w', ¬ rest.isLeaf = true →
      names.resolve server rest w = (.error e, w') → motive server resolved rest w)
    (here : ∀ server resolved rest w w', ¬ rest.isLeaf = true →
      names.resolve server rest w = (.ok .here, w') → motive server resolved rest w)
    (misled : ∀ server resolved rest w endpoint consumed w', ¬ rest.isLeaf = true →
      names.resolve server rest w = (.ok (.forward endpoint consumed), w') →
      rest.BadOffset consumed → motive server resolved rest w)
    (onward : ∀ server resolved front back w endpoint w', front ≠ [] →
      ¬ Path.isLeaf (front ++ back) = true →
      names.resolve server (front ++ back) w =
        (.ok (.forward endpoint (Path.byteLength front)), w') →
      motive endpoint (resolved ++ front ++ Path.frontSlash back) (Path.dropSlash back) w' →
      motive server resolved (front ++ back) w)
    (server : CapPtr) (resolved rest : Path) (w : ω) : motive server resolved rest w := by
  induction server, resolved, rest using walk.induct generalizing w with
  | case1 server resolved rest hleaf => exact leaf server resolved rest w hleaf
  | case2 server resolved rest hleaf ih =>
    rcases hasked : names.resolve server rest w with ⟨e | _ | ⟨endpoint, consumed⟩, w'⟩
    · exact error server resolved rest w e w' hleaf hasked
    · exact here server resolved rest w w' hleaf hasked
    · by_cases hbad : rest.BadOffset consumed
      · exact misled server resolved rest w endpoint consumed w' hleaf hasked hbad
      · obtain ⟨front, back, rfl, rfl, hfront⟩ := Path.not_badOffset_iff.1 hbad
        have hmoves : front.byteLength ≠ 0 := fun hstuck => hbad (.inl hstuck)
        exact onward server resolved front back w endpoint w' hfront hleaf hasked
          (ih endpoint _ front back (Path.splitAt?_append front back) hmoves w')

/-- A walk sees nothing of a state but the answers. -/
theorem mirrors_walk {m : NameResolver ω} {n : NameResolver υ} {f : ω → υ}
    (h : ∀ ns path, (m.resolve ns path).Mirrors (n.resolve ns path) f id)
    (root server : CapPtr) (resolved rest : Path) :
    (walk m root server resolved rest).Mirrors (walk n root server resolved rest) f id := by
  induction server, resolved, rest using walk.induct with
  | case1 server resolved rest hleaf =>
    rw [walk_of_isLeaf hleaf, walk_of_isLeaf hleaf]
    exact .pure _
  | case2 server resolved rest hleaf ih =>
    rw [walk_of_not_isLeaf hleaf, walk_of_not_isLeaf hleaf]
    refine (h server rest).bind fun answer => ?_
    rcases answer with _ | ⟨endpoint, consumed⟩
    · exact .pure _
    · simp only [heed, id]
      split
      · next front back hcut =>
        split
        · exact .throw _
        · next hmoves => exact ih endpoint consumed front back hcut hmoves
      · exact .throw _

/-- What a path resolves to does not depend on the log. -/
theorem resolve_of_logged {path : Path} {answer : Except Failure MountPoint} {asked : List Asked}
    (h : resolve names.logged root path (w, []) = (answer, w', asked)) :
    resolve names root path w = (answer, w') := by
  have hplain := (mirrors_walk (NameResolver.mirrors_logged names) root root [] path).eq (w, [])
  rw [← resolve, ← resolve, h] at hplain
  exact hplain

/-- A walk does nothing but ask. -/
theorem keeps_walk {I : ω → Prop} (h : ∀ ns path, (names.resolve ns path).Keeps I)
    (root server : CapPtr) (resolved rest : Path) :
    (walk names root server resolved rest).Keeps I := by
  intro w hw
  induction server, resolved, rest, w using walk_induction names with
  | leaf server resolved rest w hleaf =>
    rw [walk_of_isLeaf hleaf]
    exact hw
  | error server resolved rest w e w' hleaf hasked =>
    rw [walk_of_error hleaf hasked]
    exact (h server rest).of_eq hasked hw
  | here server resolved rest w w' hleaf hasked =>
    rw [walk_of_here hleaf hasked]
    exact (h server rest).of_eq hasked hw
  | misled server resolved rest w endpoint consumed w' hleaf hasked hbad =>
    rw [walk_of_badOffset hleaf hasked hbad]
    exact (h server rest).of_eq hasked hw
  | onward server resolved front back w endpoint w' hfront hleaf hasked ih =>
    rw [walk_append hfront hleaf hasked]
    exact ih ((h server _).of_eq hasked hw)

end MountPoint

end CapServer
