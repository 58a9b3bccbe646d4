import CapServer.IdMap

/-!
# Listing a map

What a look-up finds stands in the listing of a map, once (`IdMap.toList_perm_cons_erase`). Whatever
is summed up over a listing changes with one key by what that key contributes.
-/

namespace CapServer

namespace IdMap

variable {α : Type} {m : IdMap α} {k : Nat} {a : α}

theorem nodup_toList (m : IdMap α) : m.toList.Nodup := by
  refine m.sorted.imp fun {a b} hab e => ?_
  rw [e] at hab
  exact Nat.lt_irrefl b.1 hab

theorem nodup_keys (m : IdMap α) : m.keys.Nodup := by
  refine List.pairwise_map.2 (m.sorted.imp fun {a b} hab e => ?_)
  exact Nat.lt_irrefl b.1 (e ▸ hab)

theorem mem_keys_iff : k ∈ m.keys ↔ (m.get? k).isSome = true := by
  rw [Option.isSome_iff_exists, keys, List.mem_map]
  simp [get?_eq_some_iff]

theorem toList_perm_cons_erase (h : m.get? k = some a) :
    m.toList.Perm ((k, a) :: (m.erase k).toList) := by
  have hk : (k, a) ∉ (m.erase k).toList := by
    rw [← get?_eq_some_iff, get?_erase, if_pos rfl]
    exact fun e => nomatch e
  rw [List.perm_ext_iff_of_nodup m.nodup_toList
    (List.nodup_cons.2 ⟨hk, (m.erase k).nodup_toList⟩)]
  rintro ⟨j, b⟩
  rw [List.mem_cons, ← get?_eq_some_iff, ← get?_eq_some_iff, get?_erase, Prod.mk.injEq]
  by_cases hj : j = k
  · subst hj
    rw [if_pos rfl, h, Option.some.injEq]
    simp only [true_and, reduceCtorEq, or_false]
    exact eq_comm
  · rw [if_neg hj]
    simp only [hj, false_and, false_or]

theorem erase_insert (m : IdMap α) (k : Nat) (a : α) : (m.insert k a).erase k = m.erase k :=
  ext_get? fun j => by
    rw [get?_erase, get?_erase, get?_insert]
    split <;> rfl

theorem erase_modify (m : IdMap α) (k : Nat) (f : α → α) : (m.modify k f).erase k = m.erase k :=
  ext_get? fun j => by
    rw [get?_erase, get?_erase, get?_modify]
    split <;> rfl

theorem erase_of_get?_eq_none (h : m.get? k = none) : m.erase k = m :=
  ext_get? fun j => by
    rw [get?_erase]
    split
    · next hj => rw [hj, h]
    · rfl

theorem modify_insert (m : IdMap α) (k : Nat) (a : α) (f : α → α) :
    (m.insert k a).modify k f = m.insert k (f a) :=
  ext_get? fun j => by
    rw [get?_modify, get?_insert, get?_insert, if_pos rfl, get?_insert]
    split <;> rfl

end IdMap

end CapServer
