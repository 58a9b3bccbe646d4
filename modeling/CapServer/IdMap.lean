/-!
# Finite maps keyed by number

A finite map from numbers, listed in key order. The order is part of the type, so two maps that
answer every look-up alike are equal (`IdMap.ext_get?`), and listing one needs no sorting.

* `IdMap.get?`, `IdMap.insert`, `IdMap.erase`, `IdMap.toList`, `IdMap.size`;
* `IdMap.get?_insert` and `IdMap.get?_erase` say what each operation does to the look-ups.
-/

namespace CapServer

/-- A finite map from numbers to `α`, in key order. -/
structure IdMap (α : Type) where
  toList : List (Nat × α)
  sorted : toList.Pairwise (fun a b => a.1 < b.1)

namespace IdMap

variable {α : Type}

@[ext] theorem ext {m n : IdMap α} (h : m.toList = n.toList) : m = n := by
  cases m; cases n; cases h; rfl

/-! ## Look-up -/

/-- The value at a key of an association list. -/
def find (k : Nat) : List (Nat × α) → Option α
  | [] => none
  | (j, a) :: rest => if j = k then some a else find k rest

/-- The value at a key. -/
def get? (m : IdMap α) (k : Nat) : Option α := find k m.toList

def contains (m : IdMap α) (k : Nat) : Bool := (m.get? k).isSome

/-- The number of keys. -/
def size (m : IdMap α) : Nat := m.toList.length

def keys (m : IdMap α) : List Nat := m.toList.map Prod.fst

theorem mem_of_find {k : Nat} {a : α} {l : List (Nat × α)} (h : find k l = some a) :
    (k, a) ∈ l := by
  induction l with
  | nil => simp [find] at h
  | cons p rest ih =>
    rw [find] at h
    split at h
    · next hk => cases h; cases hk; exact List.mem_cons_self
    · exact List.mem_cons_of_mem _ (ih h)

theorem find_of_mem {k : Nat} {a : α} {l : List (Nat × α)}
    (hl : l.Pairwise (fun a b => a.1 < b.1)) (h : (k, a) ∈ l) : find k l = some a := by
  induction l with
  | nil => cases h
  | cons p rest ih =>
    rw [List.pairwise_cons] at hl
    rcases List.mem_cons.1 h with rfl | h
    · simp [find]
    · have := hl.1 _ h
      rw [find, if_neg (by simp only at this; omega)]
      exact ih hl.2 h

/-- A key holds a value exactly if the pair is listed. -/
theorem get?_eq_some_iff {m : IdMap α} {k : Nat} {a : α} :
    m.get? k = some a ↔ (k, a) ∈ m.toList :=
  ⟨mem_of_find, find_of_mem m.sorted⟩

/-! ## Construction -/

/-- The map without keys. -/
def empty : IdMap α := ⟨[], List.Pairwise.nil⟩

instance : Inhabited (IdMap α) := ⟨empty⟩

@[simp] theorem get?_empty (k : Nat) : (empty : IdMap α).get? k = none := rfl

/-- Set one key of an ordered association list. -/
def place (k : Nat) (a : α) : List (Nat × α) → List (Nat × α)
  | [] => [(k, a)]
  | (j, b) :: rest =>
    if k < j then (k, a) :: (j, b) :: rest
    else if k = j then (k, a) :: rest
    else (j, b) :: place k a rest

theorem mem_place {k : Nat} {a : α} {l : List (Nat × α)} {p : Nat × α}
    (h : p ∈ place k a l) : p = (k, a) ∨ p ∈ l := by
  induction l with
  | nil => simp [place] at h; exact .inl h
  | cons q rest ih =>
    rw [place] at h
    split at h
    · simpa using h
    · split at h
      · rcases List.mem_cons.1 h with h | h
        · exact .inl h
        · exact .inr (by simp [h])
      · rcases List.mem_cons.1 h with h | h
        · exact .inr (by simp [h])
        · exact (ih h).imp id (by simp +contextual)

theorem place_sorted {k : Nat} {a : α} {l : List (Nat × α)}
    (h : l.Pairwise (fun a b => a.1 < b.1)) :
    (place k a l).Pairwise (fun a b => a.1 < b.1) := by
  induction l with
  | nil => simp [place]
  | cons q rest ih =>
    have hq := List.pairwise_cons.1 h
    rw [place]
    split
    · next hk =>
      refine List.pairwise_cons.2 ⟨fun p hp => ?_, h⟩
      rcases List.mem_cons.1 hp with rfl | hp
      · exact hk
      · have := hq.1 p hp
        simp only at this ⊢
        omega
    · split
      · next hk => exact List.pairwise_cons.2 ⟨fun p hp => by simpa [hk] using hq.1 p hp, hq.2⟩
      · refine List.pairwise_cons.2 ⟨fun p hp => ?_, ih hq.2⟩
        rcases mem_place hp with rfl | hp
        · simp only
          omega
        · exact hq.1 p hp

theorem find_place (k j : Nat) (a : α) (l : List (Nat × α)) :
    find j (place k a l) = if j = k then some a else find j l := by
  induction l with
  | nil => simp only [place, find, eq_comm]
  | cons q rest ih =>
    rw [place]
    split
    · simp only [find, eq_comm]
    · split
      · next hk =>
        subst hk
        by_cases h : j = q.1 <;> simp [find, h, eq_comm]
      · next hk =>
        rw [find, find, ih]
        by_cases h : q.1 = j
        · have : ¬ j = k := by omega
          simp [h, this]
        · simp [h]

/-- Set the value at a key. -/
def insert (m : IdMap α) (k : Nat) (a : α) : IdMap α := ⟨place k a m.toList, place_sorted m.sorted⟩

@[simp] theorem get?_insert (m : IdMap α) (k j : Nat) (a : α) :
    (m.insert k a).get? j = if j = k then some a else m.get? j := find_place k j a m.toList

theorem find_filter (k j : Nat) (l : List (Nat × α)) :
    find j (l.filter (fun p => p.1 != k)) = if j = k then none else find j l := by
  induction l with
  | nil => simp [find]
  | cons q rest ih =>
    by_cases hq : q.1 = k
    · rw [List.filter_cons_of_neg (by simp [hq]), ih, find]
      by_cases h : j = k
      · simp [h]
      · simp [h, show ¬ q.1 = j by omega]
    · rw [List.filter_cons_of_pos (by simp [hq]), find, find, ih]
      by_cases h : q.1 = j
      · simp [h, show ¬ j = k by omega]
      · simp [h]

/-- Drop a key. -/
def erase (m : IdMap α) (k : Nat) : IdMap α :=
  ⟨m.toList.filter (fun p => p.1 != k), m.sorted.filter _⟩

@[simp] theorem get?_erase (m : IdMap α) (k j : Nat) :
    (m.erase k).get? j = if j = k then none else m.get? j := find_filter k j m.toList

/-- Change the value at a key, if there is one. -/
def modify (m : IdMap α) (k : Nat) (f : α → α) : IdMap α :=
  match m.get? k with
  | some a => m.insert k (f a)
  | none => m

theorem get?_modify (m : IdMap α) (k j : Nat) (f : α → α) :
    (m.modify k f).get? j = if j = k then (m.get? k).map f else m.get? j := by
  unfold modify
  split
  · next a h => rw [get?_insert, h]; rfl
  · next h =>
    split
    · next hj => rw [hj, h]; rfl
    · rfl

/-- Maps that answer every look-up alike are equal. -/
theorem ext_get? {m n : IdMap α} (h : ∀ k, m.get? k = n.get? k) : m = n := by
  have nodup : ∀ m : IdMap α, m.toList.Nodup := fun m =>
    List.Pairwise.imp (fun {a b} hab (e : a = b) => Nat.lt_irrefl b.1 (e ▸ hab)) m.sorted
  have mem : ∀ p, p ∈ m.toList ↔ p ∈ n.toList := fun p => by
    rw [← get?_eq_some_iff (m := m), ← get?_eq_some_iff (m := n), h]
  refine ext (List.Perm.eq_of_pairwise (fun a b _ _ hab hba => absurd hab (Nat.lt_asymm hba))
    m.sorted n.sorted ?_)
  exact (List.perm_ext_iff_of_nodup (nodup m) (nodup n)).2 mem

end IdMap

end CapServer
