import CapServer.ObjectTable
import CapServer.Proofs.IdMap
import CapServer.Proofs.Pool

/-!
# Object tables

The ids taken from the pool of a table are those of its objects (`ObjectTable.Dense`), and all that
is done to a table keeps it so. As long as it is so, taking an id and ending an object come to one
of few things (`ObjectTable.alloc_cases`, `ObjectTable.free_eq`), whatever the factory does: an id
that is handed out has no object yet, and an object that was made is found under its id.
-/

namespace CapServer

namespace ObjectTable

variable {ε α β : Type} {t : ObjectTable α} {id : ObjectId}

/-! ## Dense tables -/

/-- The ids that are taken are those of the objects. -/
def Dense (t : ObjectTable α) : Prop :=
  ∀ id, t.pool.isTaken id = true ↔ (t.get? id).isSome = true

theorem get?_def (t : ObjectTable α) (id : ObjectId) : t.get? id = t.objects.get? id := rfl

theorem Dense.get?_of_alloc (ht : t.Dense) {pool : Pool} (h : t.pool.alloc = some (id, pool)) :
    t.get? id = none := by
  have hfree := (Pool.alloc_spec h).2.1
  rw [← Option.not_isSome_iff_eq_none, ← ht, hfree]
  exact Bool.false_ne_true

/-- As many ids are taken as there are objects. -/
theorem Dense.inUse_eq (ht : t.Dense) : t.pool.inUse = t.size := by
  have hlength : t.size = t.objects.keys.length := (List.length_map _).symm
  rw [hlength]
  apply Pool.inUse_eq_length t.objects.nodup_keys
  intro id
  rw [ht, IdMap.mem_keys_iff, get?_def]

theorem Dense.enter (ht : t.Dense) {pool : Pool} (h : t.pool.alloc = some (id, pool)) (object : α) :
    Dense ⟨pool, t.objects.insert id object⟩ := by
  intro j
  rw [(Pool.alloc_spec h).2.2.2 j, ht j, get?_def, get?_def, IdMap.get?_insert]
  split
  · next hj => simp [hj]
  · next hj => simp [hj]

theorem Dense.abandon (ht : t.Dense) (hroomy : t.pool.Roomy) {pool : Pool}
    (h : t.pool.alloc = some (id, pool)) : Dense { t with pool := pool.free id } := by
  obtain ⟨-, hfree, hframe, htaken⟩ := Pool.alloc_spec h
  intro j
  refine ((Pool.isTaken_free (hroomy.of_frame_eq hframe) id j).trans ?_).trans (ht j)
  rw [htaken j]
  constructor
  · rintro ⟨hne, rfl | hj⟩
    · exact absurd rfl hne
    · exact hj
  · intro hj
    refine ⟨?_, .inr hj⟩
    rintro rfl
    simp [hfree] at hj

theorem Dense.without (ht : t.Dense) (hroomy : t.pool.Roomy) (id : ObjectId) :
    Dense (⟨t.pool.free id, t.objects.erase id⟩ : ObjectTable α) := by
  intro j
  rw [Pool.isTaken_free hroomy id j, ht j, get?_def, get?_def, IdMap.get?_erase]
  split
  · next hj => simp [hj]
  · next hj => simp [hj]

theorem get?_modify (t : ObjectTable α) (id : ObjectId) (change : α → α) (j : ObjectId) :
    (t.modify id change).get? j = if j = id then (t.get? id).map change else t.get? j :=
  IdMap.get?_modify _ _ _ _

theorem Dense.modify (ht : t.Dense) (id : ObjectId) (change : α → α) :
    (t.modify id change).Dense := by
  intro j
  refine (ht j).trans ?_
  rw [get?_modify]
  split
  · next hj => rw [hj, Option.isSome_map]
  · rfl

/-- Taking an id: there is none left, or an object is made under one that had none, or the factory
fails to make it. -/
theorem alloc_cases (ht : t.Dense) (f : Factory ε α β) (args : β) (env : ε) :
    (t.pool.alloc = none ∧ alloc f args (t, env) =
        (.error .resourceExhausted, t, f.reject args env)) ∨
      ∃ id pool, t.pool.alloc = some (id, pool) ∧
        ((∃ object env', f.create id args env = (.ok object, env') ∧ alloc f args (t, env) =
            (.ok (id, object), ⟨pool, t.objects.insert id object⟩, env')) ∨
          ∃ e env', f.create id args env = (.error e, env') ∧ alloc f args (t, env) =
            (.error e, { t with pool := pool.free id }, env')) := by
  rcases halloc : t.pool.alloc with _ | ⟨id, pool⟩
  · exact .inl ⟨rfl, by simp only [alloc, halloc]⟩
  · have hnone : t.objects.get? id = none := ht.get?_of_alloc halloc
    refine .inr ⟨id, pool, rfl, ?_⟩
    rcases hcreate : f.create id args env with ⟨e | object, env'⟩
    · exact .inr ⟨e, env', rfl, by simp [alloc, halloc, hnone, hcreate]⟩
    · exact .inl ⟨object, env', rfl, by simp [alloc, halloc, hnone, hcreate, entry]⟩

/-- Ending an object gives its id back; where there is none, nothing changes. -/
theorem free_eq (ht : t.Dense) (f : Factory ε α β) (id : ObjectId) (env : ε) :
    free f id (t, env) = match t.get? id with
      | some object =>
        (.ok (), ⟨t.pool.free id, t.objects.erase id⟩, f.destroy id object env)
      | none =>
        (.error (if t.pool.start ≤ id ∧ id < t.pool.stop then .notAllocated else .notFound),
          t, env) := by
  have hfree : t.pool.isFree id = true ↔ _ := Pool.isFree_iff
  rcases hget : t.get? id with _ | object
  · have htaken : t.pool.isTaken id = false := by
      rw [Bool.eq_false_iff, Ne, ht, hget]
      exact Bool.false_ne_true
    simp only [htaken, and_true] at hfree
    rw [get?_def] at hget
    simp only [free, hget, hfree]
    split <;> rfl
  · have htaken : t.pool.isTaken id = true := by
      rw [ht, hget]
      rfl
    simp only [htaken, Bool.true_eq_false, and_false, iff_false, Bool.not_eq_true] at hfree
    rw [get?_def] at hget
    simp only [free, hget, hfree, Bool.false_eq_true, if_false]

end ObjectTable

end CapServer
