import CapServer.Proofs.Alike
import CapServer.Proofs.CapSpace
import CapServer.Proofs.ObjectTable.Log
import CapServer.Sim.Kernel

/-!
# Failures that leave no trace

A call on an object table or on a capability space that fails cannot be told from one that was never
made: not by the answers to any calls that follow, and not by anything that can be read off the
table or the allocator meanwhile (`failures_unseen`). This is so although the states differ, since
an id that was taken and given back has moved from above the mark of its pool to the stack of freed
ids.

The factory and the kernel may do anything. What is asked of them is that they answer alike, after
the failure and without it: there is a relation between their states such that related states answer
every call alike and are related again, and the failure leads to a related state.
-/

namespace CapServer

/-- What can be read off two pools without changing them is the same. -/
structure Pool.ReadsAlike (p q : Pool) : Prop where
  start : p.start = q.start
  stop : p.stop = q.stop
  isFree : ∀ id, p.isFree id = q.isFree id
  inUse : p.inUse = q.inUse
  available : p.available = q.available
  /-- Whether an id would be accepted if it were put back. -/
  accepts : ∀ id, (p.free? id).isSome = (q.free? id).isSome

theorem Pool.Alike.reads {p q : Pool} (h : p.Alike q) : p.ReadsAlike q :=
  ⟨h.start_eq, h.stop_eq, h.isFree_eq, h.inUse_eq, h.available_eq, h.isSome_free?_eq⟩

theorem Attempt.eq_error_of_bind_pure {ω α β : Type} {x : Attempt ω α} {g : α → β} {w w' : ω}
    {e : Failure} (h : (x >>= fun a => pure (g a)) w = (.error e, w')) : x w = (.error e, w') := by
  rw [bind_apply] at h
  rcases hx : x w with ⟨e' | a, w₁⟩
  · rw [hx] at h
    cases h
    rfl
  · rw [hx] at h
    cases h

/-! ## Object tables -/

namespace ObjectTable

variable {ε α β : Type} {R : ε → ε → Prop} {f : Factory ε α β}

/-- What a call on a table answers if it succeeds. -/
inductive Answer (α : Type)
  | made (id : ObjectId) (object : α)
  | freed
  | found (object : Option α)

/-- Carry out a call, and answer it. -/
def Call.attempt (f : Factory ε α β) : Call α β → Attempt (ObjectTable α × ε) (Answer α)
  | .alloc args => do
    let (id, object) ← ObjectTable.alloc f args
    return .made id object
  | .free id => do
    ObjectTable.free f id
    return .freed
  | .get id => fun s => (.ok (.found (s.1.get? id)), s)
  | .modify id change => fun s =>
    (.ok (.found ((s.1.modify id change).get? id)), (s.1.modify id change, s.2))

/-- Carry out one call after the other, and note the answers. -/
def askAll (f : Factory ε α β) (calls : List (Call α β)) (s : ObjectTable α × ε) :
    List (Except Failure (Answer α)) × (ObjectTable α × ε) :=
  Attempt.inTurn (calls.map (Call.attempt f)) s

/-- The answers to some calls are the same, and what is seen of the tables afterwards. -/
structure SeenAlike (f : Factory ε α β) (R : ε → ε → Prop)
    (r s : List (Except Failure (Answer α)) × (ObjectTable α × ε)) : Prop where
  answers : r.1 = s.1
  get? : ∀ id, r.2.1.get? id = s.2.1.get? id
  toList : r.2.1.toList = s.2.1.toList
  size : r.2.1.size = s.2.1.size
  pool : r.2.1.pool.ReadsAlike s.2.1.pool
  env : R r.2.2 s.2.2
  released : R (r.2.1.release f r.2.2) (s.2.1.release f s.2.2)

theorem Call.alike_attempt (hf : f.Alike f R) (call : Call α β) :
    (call.attempt f).Alike (call.attempt f) (Alike R) := by
  cases call with
  | alloc args => exact (alike_alloc hf args).bind fun _ => .pure _
  | free id => exact (alike_free hf id).bind fun _ => .pure _
  | get id =>
    intro s t h
    have hget : s.1.get? id = t.1.get? id := congrArg (fun m => IdMap.get? m id) h.objects
    exact ⟨congrArg (fun object => Except.ok (Answer.found object)) hget, h⟩
  | modify id change =>
    intro s t h
    have hobjects : (s.1.modify id change).objects = (t.1.modify id change).objects :=
      congrArg (fun m => IdMap.modify m id change) h.objects
    have hget : (s.1.modify id change).get? id = (t.1.modify id change).get? id :=
      congrArg (fun m => IdMap.get? m id) hobjects
    exact ⟨congrArg (fun object => Except.ok (Answer.found object)) hget,
      h.pool, hobjects, h.env⟩

/-- No calls tell alike tables apart. -/
theorem Alike.askAll {s t : ObjectTable α × ε} (h : Alike R s t) (hf : f.Alike f R)
    (calls : List (Call α β)) :
    (askAll f calls s).1 = (ObjectTable.askAll f calls t).1 ∧
      Alike R (ObjectTable.askAll f calls s).2 (ObjectTable.askAll f calls t).2 := by
  exact Attempt.Alike.inTurn (fun call _ => call.alike_attempt hf) h

theorem Alike.seen {s t : ObjectTable α × ε} (h : Alike R s t) (hf : f.Alike f R)
    (calls : List (Call α β)) :
    SeenAlike f R (ObjectTable.askAll f calls s) (ObjectTable.askAll f calls t) := by
  obtain ⟨hanswers, hlast⟩ := h.askAll hf calls
  exact {
    answers := hanswers
    get? := fun id => congrArg (fun m => IdMap.get? m id) hlast.objects
    toList := congrArg IdMap.toList hlast.objects
    size := congrArg IdMap.size hlast.objects
    pool := hlast.pool.reads
    env := hlast.env
    released := hlast.release hf }

/-- An id whose object could not be made goes back to where it came from. -/
theorem alike_of_alloc_eq_error {s s' : ObjectTable α × ε} (hs : s.1.pool.Roomy) {args : β}
    {e : Failure} (h : alloc f args s = (.error e, s')) (hR : R s.2 s'.2) : Alike R s s' := by
  obtain ⟨t, env⟩ := s
  rcases halloc : t.pool.alloc with _ | ⟨id, pool⟩
  · simp only [alloc, halloc] at h
    cases h
    exact ⟨.refl hs, rfl, hR⟩
  · by_cases hthere : (t.objects.get? id).isSome = true
    · obtain ⟨object, hobject⟩ := Option.isSome_iff_exists.1 hthere
      simp [alloc, halloc, entry, hobject] at h
    · rcases hmade : f.create id args env with ⟨e' | object, env'⟩
      · simp only [alloc, halloc, hthere, hmade] at h
        cases h
        exact ⟨.of_alloc hs halloc, rfl, hR⟩
      · simp [alloc, halloc, hthere, hmade, entry] at h

theorem eq_of_free_eq_error {s s' : ObjectTable α × ε} {id : ObjectId} {e : Failure}
    (h : free f id s = (.error e, s')) : s' = s := by
  obtain ⟨t, env⟩ := s
  simp only [free] at h
  split at h
  · exact (congrArg Prod.snd h).symm
  · split at h
    · exact (congrArg Prod.snd h).symm
    · cases h

/-- A call that fails leaves an alike table. -/
theorem Call.alike_of_eq_error {s s' : ObjectTable α × ε} (hs : s.1.pool.Roomy) {call : Call α β}
    {e : Failure} (h : call.attempt f s = (.error e, s')) (hR : R s.2 s'.2) : Alike R s s' := by
  cases call with
  | alloc args => exact alike_of_alloc_eq_error hs (Attempt.eq_error_of_bind_pure h) hR
  | free id =>
    cases eq_of_free_eq_error (Attempt.eq_error_of_bind_pure h)
    exact ⟨.refl hs, rfl, hR⟩
  | get id => cases h
  | modify id change => cases h

/-- Every table can keep all ids of its range. -/
theorem roomy_askAll {start stop : ObjectId} {t : ObjectTable α} (ht : ofRange start stop = .ok t)
    (f : Factory ε α β) (env : ε) (calls : List (Call α β)) :
    (askAll f calls (t, env)).2.1.pool.Roomy := by
  have hroomy : t.pool.Roomy := by
    unfold ofRange at ht
    split at ht
    · cases ht
    · cases ht
      exact Pool.roomy_ofRange _ _
  -- A table is like itself, and what is alike is roomy.
  have hself : Alike Eq (t, env) (t, env) := ⟨.refl hroomy, rfl, rfl⟩
  have hf : f.Alike f Eq := by
    refine ⟨fun id args => Attempt.alike_self _, ?_, ?_⟩
    · rintro id object env _ rfl
      rfl
    · rintro args env _ rfl
      rfl
  exact (hself.askAll hf calls).2.pool.roomy

end ObjectTable

/-! ## Capability spaces -/

namespace CapSpace

variable {ω : Type} {R : ω → ω → Prop} {k : Kernel ω}

/-- What is asked of a capability space. -/
inductive Call (ω : Type)
  | alloc
  | allocFilled (fill : CapPtr → Attempt ω Unit)
  | mint (src : CapPtr) (badge : Badge)
  | accept (index : Nat)
  | free (slot : CapPtr)
  | release (slot : CapPtr)
  | reclaim (slot : CapPtr)

/-- Carry out a call. The answer is the slot that was taken, if one was to be. -/
def Call.attempt (k : Kernel ω) : Call ω → Attempt (CapSpace ω) (Option CapPtr)
  | .alloc => do return some (← CapSpace.alloc)
  | .allocFilled fill => do return some (← CapSpace.allocFilled fill)
  | .mint src badge => do return some (← CapSpace.mint k src badge)
  | .accept index => do return some (← CapSpace.accept k index)
  | .free slot => do
    modify (CapSpace.free slot)
    return none
  | .release slot => do
    CapSpace.release k slot
    return none
  | .reclaim slot => do
    CapSpace.reclaim k slot
    return none

/-- Carry out one call after the other, and note the answers. -/
def askAll (k : Kernel ω) (calls : List (Call ω)) (c : CapSpace ω) :
    List (Except Failure (Option CapPtr)) × CapSpace ω :=
  Attempt.inTurn (calls.map (Call.attempt k)) c

/-- What a slot is filled with is left to the call; related worlds are to answer it alike. -/
def Call.Alike (R : ω → ω → Prop) : Call ω → Prop
  | .allocFilled fill => ∀ dest, (fill dest).Alike (fill dest) R
  | _ => True

/-- The answers to some calls are the same, and what is seen of the allocators afterwards. -/
structure SeenAlike (R : ω → ω → Prop) (r s : List (Except Failure (Option CapPtr)) × CapSpace ω) :
    Prop where
  answers : r.1 = s.1
  slots : r.2.slots.pool.ReadsAlike s.2.slots.pool
  world : R r.2.world s.2.world

theorem Call.alike_attempt (hk : k.Alike k R) {call : Call ω} (h : call.Alike R) :
    (call.attempt k).Alike (call.attempt k) (CapSpace.Alike R) := by
  cases call with
  | alloc => exact alike_alloc.bind fun _ => .pure _
  | allocFilled fill => exact (alike_allocFilled h).bind fun _ => .pure _
  | mint src badge => exact (alike_mint hk src badge).bind fun _ => .pure _
  | accept index => exact (alike_accept hk index).bind fun _ => .pure _
  | free slot => exact (alike_free slot).bind fun _ => .pure _
  | release slot => exact (alike_release (hk.delete slot)).bind fun _ => .pure _
  | reclaim slot => exact (alike_reclaim hk slot).bind fun _ => .pure _

/-- A slot that could not be filled goes back to where it came from. -/
theorem alike_of_allocFilled_eq_error {c c' : CapSpace ω} (hc : c.slots.pool.Roomy)
    {fill : CapPtr → Attempt ω Unit} {e : Failure} (h : allocFilled fill c = (.error e, c'))
    (hR : R c.world c'.world) : CapSpace.Alike R c c' := by
  rcases c.allocFilled_cases fill with
    ⟨-, hnone⟩ | ⟨slot, slots, w, halloc, ⟨-, hok⟩ | ⟨e', -, hfail⟩⟩
  · cases hnone.symm.trans h
    exact ⟨.refl hc, hR⟩
  · cases hok.symm.trans h
  · cases hfail.symm.trans h
    obtain ⟨⟨_, pool⟩, hpool, heq⟩ := Option.map_eq_some_iff.1 halloc
    cases heq
    exact ⟨.of_alloc hc hpool, hR⟩

/-- A slot that was not emptied is not given back. -/
theorem slots_of_release_eq_error {c c' : CapSpace ω} {slot : CapPtr} {e : Failure}
    (h : release k slot c = (.error e, c')) : c'.slots = c.slots := by
  rw [release_apply] at h
  split at h
  · cases h
  · cases h
    rfl

theorem slots_of_reclaim_eq_error {c c' : CapSpace ω} {slot : CapPtr} {e : Failure}
    (h : reclaim k slot c = (.error e, c')) : c'.slots = c.slots := by
  rw [reclaim_apply] at h
  split at h
  · next w _ => exact slots_of_release_eq_error (c := ⟨c.slots, w⟩) h
  · cases h
    rfl

/-- A call that fails leaves an alike space. -/
theorem Call.alike_of_eq_error {c c' : CapSpace ω} (hc : c.slots.pool.Roomy) {call : Call ω}
    {e : Failure} (h : call.attempt k c = (.error e, c')) (hR : R c.world c'.world) :
    CapSpace.Alike R c c' := by
  have hsame : c'.slots = c.slots → CapSpace.Alike R c c' := by
    intro hslots
    refine ⟨?_, hR⟩
    rw [hslots]
    exact .refl hc
  cases call with
  | alloc =>
    have halloc := Attempt.eq_error_of_bind_pure h
    unfold CapSpace.alloc at halloc
    split at halloc
    · cases halloc
    · cases halloc
      exact hsame rfl
  | allocFilled fill => exact alike_of_allocFilled_eq_error hc (Attempt.eq_error_of_bind_pure h) hR
  | mint src badge => exact alike_of_allocFilled_eq_error hc (Attempt.eq_error_of_bind_pure h) hR
  | accept index => exact alike_of_allocFilled_eq_error hc (Attempt.eq_error_of_bind_pure h) hR
  | free slot => cases h
  | release slot => exact hsame (slots_of_release_eq_error (Attempt.eq_error_of_bind_pure h))
  | reclaim slot => exact hsame (slots_of_reclaim_eq_error (Attempt.eq_error_of_bind_pure h))

/-- No calls tell alike spaces apart. -/
theorem Alike.seen {c d : CapSpace ω} (h : CapSpace.Alike R c d) (hk : k.Alike k R)
    {calls : List (Call ω)} (hcalls : ∀ call ∈ calls, call.Alike R) :
    SeenAlike R (askAll k calls c) (askAll k calls d) := by
  have hlast := Attempt.Alike.inTurn
    (fun call hcall => Call.alike_attempt hk (hcalls call hcall)) h
  exact ⟨hlast.1, hlast.2.1.reads, hlast.2.2⟩

end CapSpace

/-! ## All of it -/

/-- **A failure leaves no trace.** Whatever was done to a table before, and whatever is asked of it
after a call that failed: the answers are those that would be given if the call had not been made,
and so is all that can be read off the table. The same holds for a capability space whose store can
keep all slots, whichever call fails. -/
theorem failures_unseen :
    (∀ {ε α β : Type} {f : Factory ε α β} {R : ε → ε → Prop}, f.Alike f R →
      ∀ {start stop : ObjectId} {t : ObjectTable α}, ObjectTable.ofRange start stop = .ok t →
      ∀ (env : ε) (before : List (ObjectTable.Call α β)),
        let s := (ObjectTable.askAll f before (t, env)).2
        ∀ (call : ObjectTable.Call α β) {e : Failure} {s' : ObjectTable α × ε},
          call.attempt f s = (.error e, s') → R s.2 s'.2 →
        ∀ after : List (ObjectTable.Call α β), ObjectTable.SeenAlike f R
          (ObjectTable.askAll f after s) (ObjectTable.askAll f after s')) ∧
    ∀ {ω : Type} {k : Kernel ω} {R : ω → ω → Prop}, k.Alike k R →
      ∀ {c : CapSpace ω}, c.slots.pool.Roomy →
      ∀ (call : CapSpace.Call ω) {e : Failure} {c' : CapSpace ω},
        call.attempt k c = (.error e, c') → R c.world c'.world →
      ∀ after : List (CapSpace.Call ω), (∀ later ∈ after, later.Alike R) →
        CapSpace.SeenAlike R (CapSpace.askAll k after c) (CapSpace.askAll k after c') := by
  constructor
  · intro ε α β f R hf start stop t ht env before s call e s' herror hR after
    have hs : s.1.pool.Roomy := ObjectTable.roomy_askAll ht f env before
    have halike : ObjectTable.Alike R s s' := call.alike_of_eq_error hs herror hR
    exact halike.seen hf after
  · intro ω k R hk c hc call e c' herror hR after hafter
    have halike : CapSpace.Alike R c c' := call.alike_of_eq_error hc herror hR
    exact halike.seen hk hafter

/-- An object that cannot be made moves the mark of its table's pool, and a capability that was not
received moves that of the slots. -/
theorem failures_unseen_past_the_mark :
    let f := BlockLog.factory false
    let failing : ObjectTable.Call ArgBlock (ArgBlock × Option Failure) :=
      .alloc (#v[2, 0, 0, 0], some .notFound)
    let s := (ObjectTable.askAll f [.alloc (#v[1, 0, 0, 0], none)]
      (⟨.ofRange 1 4, .empty⟩, .empty)).2
    let k := SimKernel.kernel
    let c : CapSpace SimKernel := ⟨⟨.ofRange 100 103⟩, .empty⟩
    (∃ s', failing.attempt f s = (.error .notFound, s') ∧ s.1.pool.next = 2 ∧
      s'.1.pool.next = 3 ∧ ∀ after, ObjectTable.SeenAlike f (fun _ _ => True)
        (ObjectTable.askAll f after s) (ObjectTable.askAll f after s')) ∧
    ∃ c', CapSpace.Call.attempt k (.accept 0) c = (.error .malformed, c') ∧
      c.slots.pool.next = 100 ∧ c'.slots.pool.next = 101 ∧
      CapSpace.SeenAlike Eq (CapSpace.askAll k [.alloc, .release 100, .mint 5 7] c)
        (CapSpace.askAll k [.alloc, .release 100, .mint 5 7] c') := by
  intro f failing s k c
  have hf : f.Alike f fun _ _ => True := by
    refine ⟨?_, fun _ _ _ _ _ => trivial, fun _ _ _ _ => trivial⟩
    rintro id ⟨block, _ | e⟩ l l' -
    · exact ⟨rfl, trivial⟩
    · exact ⟨rfl, trivial⟩
  have ht : ObjectTable.ofRange 1 4 = .ok (⟨.ofRange 1 4, .empty⟩ : ObjectTable ArgBlock) := rfl
  have hk : k.Alike k Eq := by
    constructor <;> intros <;> exact Attempt.alike_self _
  have hc : c.slots.pool.Roomy := Pool.roomy_ofRange _ _
  have hafter : ∀ later ∈ ([.alloc, .release 100, .mint 5 7] : List (CapSpace.Call SimKernel)),
      later.Alike Eq := by
    intro later hlater
    simp only [List.mem_cons, List.not_mem_nil, or_false] at hlater
    rcases hlater with rfl | rfl | rfl
    · trivial
    · trivial
    · trivial
  exact ⟨⟨_, rfl, rfl, rfl, failures_unseen.1 hf ht .empty _ failing rfl trivial⟩,
    _, rfl, rfl, rfl, failures_unseen.2 hk hc (.accept 0) rfl rfl _ hafter⟩

end CapServer
