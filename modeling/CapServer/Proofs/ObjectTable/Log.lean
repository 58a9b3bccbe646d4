import CapServer.Proofs.ObjectTable
import CapServer.Sim.BlockLog

/-!
# Logs of a table

A factory may keep a log of its calls (`Factory.logged`), into which the changes that are made to
the objects are written, too. The log tells at each moment which objects there are (`Log.current`).
It is `Lawful` if objects were made only where there was none, and if only the object that was there
was ended. So between one object of an id and the next, the first has been ended once.

A table goes by its log at all times (`ObjectTable.goesBy_log`), and when it is released, every
object that was made has been ended.
-/

namespace CapServer

namespace ObjectTable

variable {ε α β : Type}

/-! ## Logs -/

/-- What happens to the objects of a table. -/
inductive Event (α β : Type)
  /-- The factory made an object. -/
  | created (id : ObjectId) (object : α)
  /-- The factory failed to make an object. -/
  | createFailed (id : ObjectId)
  /-- The object was changed, if there was one. -/
  | changed (id : ObjectId) (change : α → α)
  /-- The factory ended an object. -/
  | destroyed (id : ObjectId) (object : α)
  /-- The factory dealt with arguments no object was to be made from. -/
  | rejected (args : β)

/-- What happened so far, the latest first. -/
abbrev Log (α β : Type) : Type := List (Event α β)

namespace Log

/-- The object with an id: made, changed since, and not ended. -/
def current : Log α β → ObjectId → Option α
  | [], _ => none
  | .created id object :: older, j => if j = id then some object else current older j
  | .createFailed _ :: older, j => current older j
  | .changed id change :: older, j =>
    if j = id then (current older id).map change else current older j
  | .destroyed id _ :: older, j => if j = id then none else current older j
  | .rejected _ :: older, j => current older j

/-- An object is made only where there is none, and only the object that is there is ended. -/
def Lawful : Log α β → Prop
  | [] => True
  | .created id _ :: older => current older id = none ∧ Lawful older
  | .createFailed id :: older => current older id = none ∧ Lawful older
  | .changed _ _ :: older => Lawful older
  | .destroyed id object :: older => current older id = some object ∧ Lawful older
  | .rejected _ :: older => Lawful older

/-- How many objects were made under an id. -/
def made (id : ObjectId) : Log α β → Nat
  | [] => 0
  | .created j _ :: older => (if j = id then 1 else 0) + made id older
  | _ :: older => made id older

/-- How many objects were ended under an id. -/
def ended (id : ObjectId) : Log α β → Nat
  | [] => 0
  | .destroyed j _ :: older => (if j = id then 1 else 0) + ended id older
  | _ :: older => ended id older

/-- Of the objects made under an id, all have been ended but for the one that is there. -/
theorem Lawful.made_eq {log : Log α β} (h : log.Lawful) (id : ObjectId) :
    log.made id = log.ended id + if (log.current id).isSome then 1 else 0 := by
  induction log with
  | nil => rfl
  | cons event older ih =>
    cases event with
    | created j object =>
      have := ih h.2
      by_cases hj : id = j
      · subst hj
        simp [made, ended, current, h.1] at this ⊢
        omega
      · simp [made, ended, current, hj, Ne.symm hj, this]
    | createFailed j => exact ih h.2
    | changed j change =>
      have := ih h
      by_cases hj : id = j
      · subst hj
        simpa [made, ended, current] using this
      · simpa [made, ended, current, hj] using this
    | destroyed j object =>
      have := ih h.2
      by_cases hj : id = j
      · subst hj
        simp [made, ended, current, h.1] at this ⊢
        omega
      · simp [made, ended, current, hj, Ne.symm hj, this]
    | rejected args => exact ih h

end Log

end ObjectTable

/-- The factory, with a log of its calls. -/
def Factory.logged {ε α β : Type} (f : Factory ε α β) :
    Factory (ε × ObjectTable.Log α β) α β where
  create id args := fun (env, log) =>
    match f.create id args env with
    | (.ok object, env) => (.ok object, env, .created id object :: log)
    | (.error e, env) => (.error e, env, .createFailed id :: log)
  destroy id object := fun (env, log) => (f.destroy id object env, .destroyed id object :: log)
  reject args := fun (env, log) => (f.reject args env, .rejected args :: log)

namespace ObjectTable

variable {ε α β : Type} {t : ObjectTable α} {env : ε} {log : Log α β} {start stop : ObjectId}

/-! ## Calls -/

/-- What can be asked of a table. -/
inductive Call (α β : Type)
  | alloc (args : β)
  | free (id : ObjectId)
  | get (id : ObjectId)
  | modify (id : ObjectId) (change : α → α)

/-- A table, the environment of its factory, and the log. -/
abbrev Logged (ε α β : Type) : Type := ObjectTable α × ε × Log α β

/-- Carry out a call. -/
def step (f : Factory ε α β) (s : Logged ε α β) : Call α β → Logged ε α β
  | .alloc args => (alloc f.logged args).settle s
  | .free id => (free f.logged id).settle s
  | .get _ => s
  | .modify id change => (s.1.modify id change, s.2.1, .changed id change :: s.2.2)

/-- Carry out one call after the other. -/
def run (f : Factory ε α β) (s : Logged ε α β) (calls : List (Call α β)) : Logged ε α β :=
  calls.foldl (step f) s

/-! ## Agreement -/

/-- A table over `[start, stop)` in agreement with its log. -/
structure Agrees (t : ObjectTable α) (start stop : ObjectId) (log : Log α β) : Prop where
  dense : t.Dense
  frame_eq : t.pool.frame = (start, stop, none)
  current : ∀ id, t.get? id = log.current id
  lawful : log.Lawful

/-- Taking an id while a log is kept. -/
theorem alloc_logged_cases (ht : t.Dense) (f : Factory ε α β) (args : β) (env : ε)
    (log : Log α β) :
    (t.pool.alloc = none ∧ alloc f.logged args (t, env, log) =
        (.error .resourceExhausted, t, f.reject args env, .rejected args :: log)) ∨
      ∃ id pool, t.pool.alloc = some (id, pool) ∧
        ((∃ object env', f.create id args env = (.ok object, env') ∧
            alloc f.logged args (t, env, log) = (.ok (id, object),
              ⟨pool, t.objects.insert id object⟩, env', .created id object :: log)) ∨
          ∃ e env', f.create id args env = (.error e, env') ∧
            alloc f.logged args (t, env, log) = (.error e,
              { t with pool := pool.free id }, env', .createFailed id :: log)) := by
  rcases alloc_cases ht f.logged args (env, log) with
    ⟨hnone, halloc⟩ |
      ⟨id, pool, htaken, ⟨object, env', hcreate, halloc⟩ | ⟨e, env', hcreate, halloc⟩⟩
  · exact .inl ⟨hnone, halloc⟩
  · refine .inr ⟨id, pool, htaken, .inl ?_⟩
    simp only [Factory.logged] at hcreate
    rcases hplain : f.create id args env with ⟨e | made, env₁⟩
    · simp [hplain] at hcreate
    · simp only [hplain, Prod.mk.injEq, Except.ok.injEq] at hcreate
      obtain ⟨rfl, rfl⟩ := hcreate
      exact ⟨made, env₁, rfl, halloc⟩
  · refine .inr ⟨id, pool, htaken, .inr ?_⟩
    simp only [Factory.logged] at hcreate
    rcases hplain : f.create id args env with ⟨e₁ | made, env₁⟩
    · simp only [hplain, Prod.mk.injEq, Except.error.injEq] at hcreate
      obtain ⟨rfl, rfl⟩ := hcreate
      exact ⟨e₁, env₁, rfl, halloc⟩
    · simp [hplain] at hcreate

namespace Agrees

theorem roomy (h : t.Agrees start stop log) : t.pool.Roomy := by
  intro n hn
  have := congrArg (fun f => f.2.2) h.frame_eq
  simp [Pool.frame, hn] at this

theorem start_eq (h : t.Agrees start stop log) : t.pool.start = start :=
  congrArg Prod.fst h.frame_eq

theorem stop_eq (h : t.Agrees start stop log) : t.pool.stop = stop :=
  congrArg (fun f => f.2.1) h.frame_eq

theorem alloc (h : t.Agrees start stop log) (f : Factory ε α β) (args : β) (env : ε) :
    ((alloc f.logged args).settle (t, env, log)).1.Agrees start stop
      ((ObjectTable.alloc f.logged args).settle (t, env, log)).2.2 := by
  rw [Attempt.settle]
  rcases alloc_logged_cases h.dense f args env log with
    ⟨-, halloc⟩ | ⟨id, pool, htaken, ⟨object, env', -, halloc⟩ | ⟨e, env', -, halloc⟩⟩
  · rw [halloc]
    exact ⟨h.dense, h.frame_eq, h.current, h.lawful⟩
  · have hnone := h.current id ▸ h.dense.get?_of_alloc htaken
    rw [halloc]
    refine ⟨h.dense.enter htaken object, (Pool.alloc_spec htaken).2.2.1.trans h.frame_eq,
      fun j => ?_, hnone, h.lawful⟩
    rw [get?_def, IdMap.get?_insert, Log.current, ← h.current, get?_def]
  · have hnone := h.current id ▸ h.dense.get?_of_alloc htaken
    have hframe := (Pool.frame_free pool id).trans (Pool.alloc_spec htaken).2.2.1
    rw [halloc]
    exact ⟨h.dense.abandon h.roomy htaken, hframe.trans h.frame_eq, h.current, hnone, h.lawful⟩

theorem free (h : t.Agrees start stop log) (f : Factory ε α β) (id : ObjectId) (env : ε) :
    ((free f.logged id).settle (t, env, log)).1.Agrees start stop
      ((ObjectTable.free f.logged id).settle (t, env, log)).2.2 := by
  rw [Attempt.settle, free_eq h.dense]
  rcases hget : t.get? id with _ | object
  · exact h
  · refine ⟨h.dense.without h.roomy id, (Pool.frame_free _ _).trans h.frame_eq, fun j => ?_,
      (h.current id).symm.trans hget, h.lawful⟩
    show IdMap.get? _ _ = Log.current (.destroyed id object :: log) j
    rw [IdMap.get?_erase, Log.current, ← h.current, get?_def]

theorem modify (h : t.Agrees start stop log) (id : ObjectId) (change : α → α) :
    (t.modify id change).Agrees start stop (.changed id change :: log) := by
  refine ⟨h.dense.modify id change, h.frame_eq, fun j => ?_, h.lawful⟩
  rw [get?_modify, Log.current, ← h.current, ← h.current]

theorem step (h : t.Agrees start stop log) (f : Factory ε α β) (call : Call α β) (env : ε) :
    (ObjectTable.step f (t, env, log) call).1.Agrees start stop
      (ObjectTable.step f (t, env, log) call).2.2 := by
  cases call with
  | alloc args => exact h.alloc f args env
  | free id => exact h.free f id env
  | get id => exact h
  | modify id change => exact h.modify id change

theorem run {s : Logged ε α β} (h : s.1.Agrees start stop s.2.2) (f : Factory ε α β)
    (calls : List (Call α β)) :
    (run f s calls).1.Agrees start stop (ObjectTable.run f s calls).2.2 := by
  induction calls generalizing s with
  | nil => exact h
  | cons call calls ih => exact ih (h.step f call s.2.1)

/-- Nothing is handed out any more if every id has an object. -/
theorem alloc_eq_none_iff (h : t.Agrees start stop log) :
    t.pool.alloc = none ↔ t.size = stop - start := by
  rw [Pool.alloc_eq_none_iff, h.dense.inUse_eq, Pool.capacity, h.start_eq, h.stop_eq]

theorem get?_isSome (h : t.Agrees start stop log) {id : ObjectId}
    (hid : (t.get? id).isSome = true) : start ≤ id ∧ id < stop := by
  rw [← h.dense, Pool.isTaken_iff, h.start_eq] at hid
  rw [← h.stop_eq]
  exact ⟨hid.1, Nat.lt_of_lt_of_le hid.2.1 t.pool.next_le_stop⟩

end Agrees

/-! ## Releasing a table -/

/-- Ending some objects that are there, one after the other, is lawful. -/
theorem destroyAll_logged {entries : List (ObjectId × α)} (hlog : log.Lawful)
    (hnodup : (entries.map Prod.fst).Nodup)
    (hthere : ∀ e ∈ entries, log.current e.1 = some e.2) (f : Factory ε α β) (env : ε) :
    let r := entries.foldl (fun env e => f.logged.destroy e.1 e.2 env) (env, log)
    r.2.Lawful ∧ ∀ id, r.2.current id = if id ∈ entries.map Prod.fst then none
      else log.current id := by
  induction entries generalizing env log with
  | nil => exact ⟨hlog, fun id => by simp⟩
  | cons e entries ih =>
    rw [List.map_cons, List.nodup_cons] at hnodup
    have hrest : ∀ e' ∈ entries, Log.current (.destroyed e.1 e.2 :: log) e'.1 = some e'.2 := by
      intro e' he'
      rw [Log.current, if_neg]
      · exact hthere e' (List.mem_cons_of_mem _ he')
      · intro heq
        exact hnodup.1 (heq ▸ List.mem_map_of_mem he')
    have hnext : Log.Lawful (.destroyed e.1 e.2 :: log) := ⟨hthere e List.mem_cons_self, hlog⟩
    obtain ⟨hlawful, hcurrent⟩ := ih hnext hnodup.2 hrest (f.destroy e.1 e.2 env)
    refine ⟨hlawful, fun id => (hcurrent id).trans ?_⟩
    rw [Log.current, List.map_cons]
    by_cases hid : id = e.1
    · simp [hid]
    · simp only [List.mem_cons, hid, false_or, if_false]

theorem Agrees.release (h : t.Agrees start stop log) (f : Factory ε α β) (env : ε) :
    let r := t.release f.logged (env, log)
    r.2.Lawful ∧ ∀ id, r.2.current id = none := by
  have hthere : ∀ e ∈ t.toList, log.current e.1 = some e.2 := by
    intro e he
    rw [← h.current]
    exact IdMap.get?_eq_some_iff.2 he
  obtain ⟨hlawful, hcurrent⟩ := destroyAll_logged h.lawful t.objects.nodup_keys hthere f env
  refine ⟨hlawful, fun id => (hcurrent id).trans ?_⟩
  split
  · rfl
  · next hid =>
    have hnone : ¬ (t.get? id).isSome = true := fun hsome => hid (IdMap.mem_keys_iff.2 hsome)
    rw [← h.current, ← Option.not_isSome_iff_eq_none]
    exact hnone

/-! ## A table goes by its log -/

/-- Making an object under an id: the factory makes it, and it is there; or the factory fails, and
the objects are those that there were. -/
inductive Makes (f : Factory ε α β) (args : β) (id : ObjectId) (s : Logged ε α β) :
    Except Failure (ObjectId × α) × Logged ε α β → Prop
  | made {object : α} {env : ε} {t : ObjectTable α}
      (create : f.create id args s.2.1 = (.ok object, env))
      (there : ∀ j, t.get? j = if j = id then some object else s.1.get? j) :
      Makes f args id s (.ok (id, object), t, env, .created id object :: s.2.2)
  | failed {e : Failure} {env : ε} {t : ObjectTable α}
      (create : f.create id args s.2.1 = (.error e, env))
      (same : ∀ j, t.get? j = s.1.get? j) :
      Makes f args id s (.error e, t, env, .createFailed id :: s.2.2)

/-- What the log says of a table over `[start, stop)`. -/
structure GoesBy (f : Factory ε α β) (start stop : ObjectId) (s : Logged ε α β) : Prop where
  /-- An id is taken from the pool exactly if it has an object. -/
  taken_iff : ∀ id, s.1.pool.isTaken id = true ↔ (s.1.get? id).isSome = true
  range : ∀ id, (s.1.get? id).isSome = true → start ≤ id ∧ id < stop
  current : ∀ id, s.1.get? id = s.2.2.current id
  lawful : s.2.2.Lawful
  /-- All that were made under an id have been ended, but for the one that is there. -/
  balanced : ∀ id, s.2.2.made id = s.2.2.ended id + if (s.1.get? id).isSome then 1 else 0
  /-- If every id has an object, there is no id left, and the factory rejects the arguments. -/
  full : s.1.size = stop - start → ∀ args, alloc f.logged args s =
    (.error .resourceExhausted, s.1, f.reject args s.2.1, .rejected args :: s.2.2)
  /-- Otherwise the factory is called for an id that has no object. -/
  room : s.1.size ≠ stop - start → ∀ args, ∃ id, (start ≤ id ∧ id < stop ∧ id ≠ 0) ∧
    s.1.get? id = none ∧ Makes f args id s (alloc f.logged args s)
  /-- An object is ended as it is, and its id has none any more. -/
  freed : ∀ id object, s.1.get? id = some object → ∃ t, free f.logged id s =
    (.ok (), t, f.destroy id object s.2.1, .destroyed id object :: s.2.2) ∧
      ∀ j, t.get? j = if j = id then none else s.1.get? j
  /-- Where there is no object, nothing changes. -/
  unfreed : ∀ id, s.1.get? id = none → free f.logged id s =
    (.error (if start ≤ id ∧ id < stop then .notAllocated else .notFound), s)
  sorted : s.1.toList.Pairwise fun a b => a.1 < b.1
  mem_toList : ∀ id object, (id, object) ∈ s.1.toList ↔ s.1.get? id = some object
  size_eq : s.1.size = s.1.toList.length ∧ s.1.size = s.1.pool.inUse
  /-- Releasing the table lawfully ends what there is, and so all that was ever made. -/
  released : (s.1.release f.logged s.2).2.Lawful ∧
    ∀ id, (s.1.release f.logged s.2).2.current id = none ∧
      (s.1.release f.logged s.2).2.made id = (s.1.release f.logged s.2).2.ended id

theorem agrees_ofRange {start stop : ObjectId} (hstart : 1 ≤ start) (hstop : start ≤ stop) :
    ∃ t : ObjectTable α, ofRange start stop = .ok t ∧ t.Agrees start stop ([] : Log α β) := by
  refine ⟨⟨.ofRange start stop, .empty⟩, ?_, fun id => ?_, ?_, fun id => rfl, trivial⟩
  · rw [ofRange, if_neg]
    simp only [Bool.or_eq_true, decide_eq_true_eq, not_or]
    exact ⟨Nat.ne_of_gt hstart, Nat.not_lt.2 hstop⟩
  · rw [Pool.not_isTaken_ofRange]
    simp [get?_def]
  · simp only [Pool.frame, Pool.ofRange, Pool.ofStore, FreeStore.clear, FreeStore.ofRoom]
    rw [Nat.max_eq_left hstop]

theorem Agrees.rejects (h : t.Agrees start stop log) (hfull : t.size = stop - start)
    (f : Factory ε α β) (args : β) (env : ε) : ObjectTable.alloc f.logged args (t, env, log) =
      (.error .resourceExhausted, t, f.reject args env, .rejected args :: log) := by
  rcases alloc_logged_cases h.dense f args env log with ⟨-, halloc⟩ | ⟨id, pool, htaken, -⟩
  · exact halloc
  · rw [h.alloc_eq_none_iff.2 hfull] at htaken
    cases htaken

theorem Agrees.makes (h : t.Agrees start stop log) (hroom : t.size ≠ stop - start)
    (f : Factory ε α β) (args : β) (env : ε) : ∃ id, (start ≤ id ∧ id < stop) ∧
      t.get? id = none ∧
        Makes f args id (t, env, log) (ObjectTable.alloc f.logged args (t, env, log)) := by
  rcases alloc_logged_cases h.dense f args env log with ⟨hnone, -⟩ | ⟨id, pool, htaken, hcase⟩
  · exact absurd (h.alloc_eq_none_iff.1 hnone) hroom
  · have hrange := (Pool.alloc_spec htaken).1
    rw [h.start_eq, h.stop_eq] at hrange
    refine ⟨id, hrange, h.dense.get?_of_alloc htaken, ?_⟩
    rcases hcase with ⟨object, env', hcreate, halloc⟩ | ⟨e, env', hcreate, halloc⟩
    · rw [halloc]
      exact .made hcreate fun j => IdMap.get?_insert _ _ _ _
    · rw [halloc]
      exact .failed hcreate fun j => rfl

/-- **A table goes by its log.** Whatever a factory does, whatever objects are made, changed and
ended: the objects of a table are those that its log says there are, none was made where there was
one, and each is ended once, when it is freed or when the table is released. -/
theorem goesBy_log (f : Factory ε α β) {start stop : ObjectId} (hstart : 1 ≤ start)
    (hstop : start ≤ stop) (env : ε) (calls : List (Call α β)) :
    ∃ t, ofRange start stop = .ok t ∧ GoesBy f start stop (run f (t, env, []) calls) := by
  obtain ⟨t, ht, hagrees⟩ := agrees_ofRange (α := α) (β := β) hstart hstop
  refine ⟨t, ht, ?_⟩
  have h : (run f (t, env, []) calls).1.Agrees start stop (run f (t, env, []) calls).2.2 :=
    hagrees.run (s := (t, env, [])) f calls
  generalize run f (t, env, []) calls = s at h
  obtain ⟨t, env, log⟩ := s
  refine ⟨h.dense, fun id => h.get?_isSome, h.current, h.lawful, fun id => ?_,
    fun hfull args => h.rejects hfull f args env, fun hroom args => ?_, fun id object hget => ?_,
    fun id hget => ?_, t.objects.sorted, fun id object => IdMap.get?_eq_some_iff.symm,
    ⟨rfl, h.dense.inUse_eq.symm⟩, ?_⟩
  · rw [h.current]
    exact h.lawful.made_eq id
  · obtain ⟨id, hrange, hnone, hmakes⟩ := h.makes hroom f args env
    have hpos : 0 < id := Nat.lt_of_lt_of_le hstart hrange.1
    exact ⟨id, ⟨hrange.1, hrange.2, Nat.ne_of_gt hpos⟩, hnone, hmakes⟩
  · have hfree := free_eq h.dense f.logged id (env, log)
    rw [hget] at hfree
    exact ⟨_, hfree, fun j => IdMap.get?_erase _ _ _⟩
  · have hfree := free_eq h.dense f.logged id (env, log)
    rwa [hget, h.start_eq, h.stop_eq] at hfree
  · obtain ⟨hlawful, hcurrent⟩ := h.release f env
    refine ⟨hlawful, fun id => ⟨hcurrent id, ?_⟩⟩
    have hmade := hlawful.made_eq id
    rw [hcurrent id] at hmade
    exact hmade

/-- Two ids, of which one is used twice, with a failure in between. -/
theorem goesBy_log_with_recycled_id :
    (1 ≤ 1 ∧ 1 ≤ 3) ∧ ∃ t, ofRange 1 3 = .ok t ∧
      GoesBy (BlockLog.factory false) 1 3 (run (BlockLog.factory false) (t, .empty, [])
        [.alloc (#v[1, 0, 0, 0], none), .alloc (#v[2, 0, 0, 0], some .notFound),
          .modify 1 fun block => block.set 0 7, .free 1, .free 3,
          .alloc (#v[3, 0, 0, 0], none), .alloc (#v[4, 0, 0, 0], none),
          .alloc (#v[5, 0, 0, 0], none)]) :=
  ⟨by decide, goesBy_log (BlockLog.factory false) (by decide) (by decide) .empty _⟩

end ObjectTable

end CapServer
