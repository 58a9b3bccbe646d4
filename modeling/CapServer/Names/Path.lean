import CapServer.Attempt

/-!
# Paths

A path is a list of characters in which segments are separated by slashes. Places in a path are
counted in bytes of its encoded form, where a character takes one to four, so a place may fall
inside a character: `Path.splitAt?` cuts a path only at a boundary.
-/

namespace CapServer

/-- A path, or a name within one. -/
abbrev Path := List Char

namespace Path

/-- How many bytes a path takes. -/
def byteLength : Path → Nat
  | [] => 0
  | c :: p => c.utf8Size + byteLength p

@[simp] theorem byteLength_nil : byteLength [] = 0 := rfl

@[simp] theorem byteLength_cons (c : Char) (p : Path) :
    byteLength (c :: p) = c.utf8Size + byteLength p := rfl

@[simp] theorem byteLength_append (p q : Path) :
    byteLength (p ++ q) = byteLength p + byteLength q := by
  induction p with
  | nil => simp
  | cons c p ih => rw [List.cons_append, byteLength_cons, byteLength_cons, ih, Nat.add_assoc]

/-- Cut a path after so many bytes; `none` beyond its end and inside a character. -/
def splitAt? : Nat → Path → Option (Path × Path)
  | 0, p => some ([], p)
  | _ + 1, [] => none
  | n + 1, c :: p =>
    if c.utf8Size ≤ n + 1 then
      (splitAt? (n + 1 - c.utf8Size) p).map fun (front, back) => (c :: front, back)
    else none

/-- A cut gives the two sides of a path, the first of the length asked for. -/
theorem splitAt?_eq_some {n : Nat} {p front back : Path} (h : splitAt? n p = some (front, back)) :
    p = front ++ back ∧ byteLength front = n := by
  induction p generalizing n front back with
  | nil =>
    cases n with
    | zero => cases h; exact ⟨rfl, rfl⟩
    | succ n => simp [splitAt?] at h
  | cons c p ih =>
    cases n with
    | zero => cases h; exact ⟨rfl, rfl⟩
    | succ n =>
      rw [splitAt?] at h
      split at h
      · next hc =>
        obtain ⟨⟨f, b⟩, hs, he⟩ := Option.map_eq_some_iff.1 h
        cases he
        obtain ⟨rfl, hl⟩ := ih hs
        exact ⟨rfl, by rw [byteLength_cons]; omega⟩
      · cases h

/-- Every boundary between two sides of a path can be cut. -/
theorem splitAt?_append (front back : Path) :
    splitAt? (byteLength front) (front ++ back) = some (front, back) := by
  induction front with
  | nil => cases back <;> rfl
  | cons c front ih =>
    have hc := c.utf8Size_pos
    rw [byteLength_cons, List.cons_append]
    obtain ⟨n, hn⟩ : ∃ n, c.utf8Size + byteLength front = n + 1 :=
      ⟨c.utf8Size + byteLength front - 1, by omega⟩
    rw [hn, splitAt?, if_pos (by omega), show n + 1 - c.utf8Size = byteLength front by omega, ih]
    rfl

/-- The path without one slash at its front. -/
def dropSlash : Path → Path
  | '/' :: p => p
  | p => p

/-- One slash, if the path starts with one. -/
def frontSlash : Path → Path
  | '/' :: _ => ['/']
  | _ => []

theorem frontSlash_append_dropSlash (p : Path) : frontSlash p ++ dropSlash p = p := by
  unfold frontSlash dropSlash
  split <;> rfl

theorem length_dropSlash_le (p : Path) : (dropSlash p).length ≤ p.length := by
  have := congrArg List.length (frontSlash_append_dropSlash p)
  simp only [List.length_append] at this
  omega

/-- The part of a path before its first slash. -/
def segment (p : Path) : Path := p.takeWhile (· != '/')

/-- Whether a path has no further segment: after one slash at its front, there is no other. -/
def isLeaf (p : Path) : Bool := !(dropSlash p).contains '/'

end Path

end CapServer
