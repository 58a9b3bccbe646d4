import CapServer.Names.Path

/-!
# Slashes and places in a path

A path is cut at its first slash into the segment before and whatever comes behind
(`Path.cutSlash`). Leaves and segments are said in terms of this cut: a path is a leaf if there is
no slash to cut at, not counting one at its front. A path that ends in a slash, or is empty, is one
of which nothing is left for its leaf (`Path.dropSlash_leaf_eq_nil_iff`).

A place in a path is given in bytes. Something of the path can be passed by going on at a place
unless it is a `Path.BadOffset`.
-/

namespace CapServer

namespace Path

variable {p front back resolved leaf : Path} {n : Nat}

/-- What stands before the first slash of a path, and what stands behind it. -/
def cutSlash : Path → Option (Path × Path)
  | [] => none
  | c :: p =>
    if c = '/' then some ([], p) else (cutSlash p).map fun (front, back) => (c :: front, back)

theorem cutSlash_append (h : '/' ∉ front) (back : Path) :
    cutSlash (front ++ '/' :: back) = some (front, back) := by
  induction front with
  | nil => simp [cutSlash]
  | cons c front ih =>
    simp only [List.mem_cons, not_or] at h
    simp [cutSlash, Ne.symm h.1, ih h.2]

theorem cutSlash_eq_some_iff :
    cutSlash p = some (front, back) ↔ p = front ++ '/' :: back ∧ '/' ∉ front := by
  constructor
  · intro h
    induction p generalizing front back with
    | nil => cases h
    | cons c p ih =>
      rw [cutSlash] at h
      split at h
      · next hc =>
        cases h
        exact ⟨by rw [hc]; rfl, List.not_mem_nil⟩
      · next hc =>
        obtain ⟨⟨front', back'⟩, hcut, heq⟩ := Option.map_eq_some_iff.1 h
        cases heq
        obtain ⟨rfl, hfront⟩ := ih hcut
        refine ⟨rfl, ?_⟩
        simp only [List.mem_cons, not_or]
        exact ⟨Ne.symm hc, hfront⟩
  · rintro ⟨rfl, hfront⟩
    exact cutSlash_append hfront back

theorem cutSlash_eq_none_iff : cutSlash p = none ↔ '/' ∉ p := by
  induction p with
  | nil => simp [cutSlash]
  | cons c p ih =>
    by_cases hc : c = '/'
    · simp [cutSlash, hc]
    · simp [cutSlash, hc, Ne.symm hc, ih]

/-- A leaf has no slash to be cut at, except perhaps at its front. -/
theorem isLeaf_iff : p.isLeaf = true ↔ p.dropSlash.cutSlash = none := by
  rw [cutSlash_eq_none_iff]
  simp [isLeaf]

/-- Anything else is cut into its first segment and what comes behind. -/
theorem not_isLeaf_iff :
    ¬ p.isLeaf = true ↔ ∃ front back, p.dropSlash.cutSlash = some (front, back) := by
  rw [isLeaf_iff, ← ne_eq, Option.ne_none_iff_exists', Prod.exists]

theorem segment_eq (h : p.cutSlash = some (front, back)) : p.segment = front := by
  obtain ⟨rfl, hfront⟩ := cutSlash_eq_some_iff.1 h
  have hall : ∀ c ∈ front, (c != '/') = true := by
    intro c hc
    rw [bne_iff_ne]
    rintro rfl
    exact hfront hc
  rw [segment, List.takeWhile_append_of_pos hall, List.takeWhile_cons_of_neg (by simp),
    List.append_nil]

/-- What is behind the slash is shorter than the path. -/
theorem length_of_cutSlash (h : p.dropSlash.cutSlash = some (front, back)) :
    back.length < p.length := by
  have hcut := congrArg List.length (cutSlash_eq_some_iff.1 h).1
  have hdrop := length_dropSlash_le p
  simp only [List.length_append, List.length_cons] at hcut
  omega

/-- A path begins with what is before its cut, the slash there, and what is behind it. -/
theorem eq_of_cutSlash (h : p.dropSlash.cutSlash = some (front, back)) :
    p = p.frontSlash ++ front ++ '/' :: back := by
  have hcut := (cutSlash_eq_some_iff.1 h).1
  calc p = p.frontSlash ++ p.dropSlash := (frontSlash_append_dropSlash p).symm
    _ = p.frontSlash ++ front ++ '/' :: back := by rw [hcut, List.append_assoc]

/-- What is passed of a path takes one slash behind it along. -/
theorem append_frontSlash_append_dropSlash (resolved front back : Path) :
    resolved ++ front ++ frontSlash back ++ dropSlash back = resolved ++ (front ++ back) := by
  rw [List.append_assoc _ (frontSlash back), frontSlash_append_dropSlash, List.append_assoc]

theorem length_dropSlash_lt (h : front ≠ []) (back : Path) :
    (dropSlash back).length < (front ++ back).length := by
  have hfront := List.length_pos_iff.2 h
  have hdrop := length_dropSlash_le back
  rw [List.length_append]
  omega

theorem length_pos_of_not_isLeaf (h : ¬ p.isLeaf = true) : 0 < p.length := by
  refine List.length_pos_iff.2 ?_
  rintro rfl
  exact h rfl

theorem ne_nil_of_dropSlash (h : p.dropSlash ≠ []) : p ≠ [] := by
  rintro rfl
  exact h rfl

/-- The slash at the front of a path is that of any longer one. -/
theorem frontSlash_append (h : p ≠ []) (q : Path) : frontSlash (p ++ q) = frontSlash p := by
  rcases p with _ | ⟨c, p⟩
  · exact absurd rfl h
  · by_cases hc : c = '/'
    · subst hc
      rfl
    · simp [frontSlash, hc]

theorem dropSlash_append (h : p ≠ []) (q : Path) : dropSlash (p ++ q) = dropSlash p ++ q := by
  have hlong := frontSlash_append_dropSlash (p ++ q)
  have hshort := frontSlash_append_dropSlash p
  rw [frontSlash_append h] at hlong
  have heq : frontSlash p ++ dropSlash (p ++ q) = frontSlash p ++ (dropSlash p ++ q) := by
    rw [hlong, ← List.append_assoc, hshort]
  exact List.append_cancel_left heq

/-! ## Slashes at the end -/

theorem dropSlash_eq_nil_iff : p.dropSlash = [] ↔ p = [] ∨ p = ['/'] := by
  constructor
  · intro h
    have hp := frontSlash_append_dropSlash p
    rw [h, List.append_nil] at hp
    unfold frontSlash at hp
    split at hp
    · exact .inr hp.symm
    · exact .inl hp.symm
  · rintro (rfl | rfl) <;> rfl

/-- Behind the slash at its front, a leaf does not end in a slash. -/
theorem dropSlash_eq_nil_of_isLeaf (h : leaf.isLeaf = true) (hslash : ['/'] <:+ leaf) :
    leaf.dropSlash = [] := by
  have hnone : '/' ∉ leaf.dropSlash := by simpa [isLeaf] using h
  refine Decidable.byContradiction fun hne => hnone ?_
  have hdrop : leaf.dropSlash <:+ leaf := ⟨leaf.frontSlash, frontSlash_append_dropSlash leaf⟩
  have hshort : ['/'].length ≤ leaf.dropSlash.length := List.length_pos_iff.2 hne
  exact (List.suffix_of_suffix_length_le hslash hdrop hshort).subset (List.mem_singleton_self _)

/-- Where the path that was resolved is nothing or ends at a slash, nothing but perhaps a slash is
left for a leaf if and only if the whole path is empty or ends in a slash. -/
theorem dropSlash_leaf_eq_nil_iff (hleaf : leaf.isLeaf = true)
    (hresolved : resolved = [] ∨ ∃ front, resolved = front ++ ['/']) :
    leaf.dropSlash = [] ↔ resolved ++ leaf = [] ∨ ['/'] <:+ resolved ++ leaf := by
  constructor
  · intro h
    rcases dropSlash_eq_nil_iff.1 h with rfl | rfl
    · rw [List.append_nil]
      exact hresolved.imp_right fun ⟨front, hfront⟩ => ⟨front, hfront.symm⟩
    · exact .inr (List.suffix_append resolved ['/'])
  · rintro (hnil | hslash)
    · rw [(List.append_eq_nil_iff.1 hnil).2]
      rfl
    · by_cases hne : leaf = []
      · rw [hne]
        rfl
      · have hlast : ['/'].length ≤ leaf.length := List.length_pos_iff.2 hne
        exact dropSlash_eq_nil_of_isLeaf hleaf
          (List.suffix_of_suffix_length_le hslash (List.suffix_append resolved leaf) hlast)

/-! ## Places -/

theorem length_le_byteLength (p : Path) : p.length ≤ p.byteLength := by
  induction p with
  | nil => exact Nat.le_refl _
  | cons c p ih =>
    have hc := c.utf8Size_pos
    rw [List.length_cons, byteLength_cons]
    omega

theorem byteLength_ne_zero (h : p ≠ []) : p.byteLength ≠ 0 := by
  have hlength := List.length_pos_iff.2 h
  have hbytes := length_le_byteLength p
  omega

/-- Between two characters of a path, or at one of its ends. -/
def IsBoundary (n : Nat) (p : Path) : Prop :=
  ∃ front back, p = front ++ back ∧ front.byteLength = n

/-- A path can be cut at its boundaries and nowhere else. -/
theorem isSome_splitAt?_iff : (splitAt? n p).isSome = true ↔ p.IsBoundary n := by
  constructor
  · intro h
    obtain ⟨⟨front, back⟩, hcut⟩ := Option.isSome_iff_exists.1 h
    exact ⟨front, back, splitAt?_eq_some hcut⟩
  · rintro ⟨front, back, rfl, rfl⟩
    rw [splitAt?_append]
    rfl

instance (n : Nat) (p : Path) : Decidable (p.IsBoundary n) :=
  decidable_of_iff _ isSome_splitAt?_iff

/-- No place to go on at: the front of a path, beyond its end, or inside a character. -/
def BadOffset (n : Nat) (p : Path) : Prop := n = 0 ∨ p.byteLength < n ∨ ¬ p.IsBoundary n

instance (n : Nat) (p : Path) : Decidable (p.BadOffset n) :=
  inferInstanceAs (Decidable (_ ∨ _ ∨ _))

/-- Anywhere else something of the path is passed. -/
theorem not_badOffset_iff :
    ¬ p.BadOffset n ↔ ∃ front back, p = front ++ back ∧ front.byteLength = n ∧ front ≠ [] := by
  constructor
  · intro h
    obtain ⟨hmoves, -, hboundary⟩ := by simpa only [BadOffset, not_or] using h
    obtain ⟨front, back, hp, hn⟩ := Decidable.not_not.1 hboundary
    refine ⟨front, back, hp, hn, ?_⟩
    rintro rfl
    exact hmoves hn.symm
  · rintro ⟨front, back, rfl, rfl, hfront⟩ hbad
    rcases hbad with hstuck | hbeyond | hinside
    · exact byteLength_ne_zero hfront hstuck
    · rw [byteLength_append] at hbeyond
      omega
    · exact hinside ⟨front, back, rfl, rfl⟩

theorem not_badOffset_append (h : front ≠ []) (back : Path) :
    ¬ BadOffset front.byteLength (front ++ back) :=
  not_badOffset_iff.2 ⟨front, back, rfl, rfl, h⟩

end Path

end CapServer
