import CapServer.CapSpace
import CapServer.ObjectTable
import CapServer.Proofs.Pool.Supply

/-!
# States that answer alike

A relation between states may be such that related states answer an attempt alike, and are related
again afterwards (`Attempt.Alike`). States so related cannot be told apart by any number of these
attempts, one after the other (`Attempt.Alike.inTurn`).

If the collaborators of a capability space answer alike, then so does the space, provided that the
pools of slots have the same supply (`CapSpace.Alike`); where the two marks stand does not show. The
same holds for object tables with the same objects (`ObjectTable.Alike`).
-/

namespace CapServer

namespace Attempt

variable {ω υ σ τ α β : Type} {R : ω → υ → Prop} {x : Attempt ω α} {y : Attempt υ α}

/-- Related states answer the two attempts alike, and are related afterwards. -/
def Alike (x : Attempt ω α) (y : Attempt υ α) (R : ω → υ → Prop) : Prop :=
  ∀ w v, R w v → (x w).1 = (y v).1 ∧ R (x w).2 (y v).2

theorem alike_self (x : Attempt ω α) : x.Alike x Eq := by
  rintro w _ rfl
  exact ⟨rfl, rfl⟩

/-- Make attempts one after the other, whether or not they succeed, and note their answers. -/
def inTurn : List (Attempt ω α) → ω → List (Except Failure α) × ω
  | [], w => ([], w)
  | x :: xs, w => ((x w).1 :: (inTurn xs (x w).2).1, (inTurn xs (x w).2).2)

namespace Alike

theorem of_ok {w w' : ω} {v v' : υ} {a : Except Failure α} (hx : x w = (a, w'))
    (hy : y v = (a, v')) (h : R w' v') : (x w).1 = (y v).1 ∧ R (x w).2 (y v).2 := by
  rw [hx, hy]
  exact ⟨rfl, h⟩

/-- What one state answers, the other one answers, too. -/
theorem eq (h : x.Alike y R) {w w' : ω} {v : υ} {a : Except Failure α} (hR : R w v)
    (hx : x w = (a, w')) : ∃ v', y v = (a, v') ∧ R w' v' := by
  have hboth := h w v hR
  rw [hx] at hboth
  exact ⟨(y v).2, Prod.ext hboth.1.symm rfl, hboth.2⟩

theorem pure (a : α) : (Pure.pure a : Attempt ω α).Alike (Pure.pure a) R :=
  fun _ _ hR => ⟨rfl, hR⟩

theorem throw (e : Failure) : (throw e : Attempt ω α).Alike (throw e) R :=
  fun _ _ hR => ⟨rfl, hR⟩

theorem modify {m : ω → ω} {n : υ → υ} (h : ∀ w v, R w v → R (m w) (n v)) :
    (modify m : Attempt ω Unit).Alike (modify n) R :=
  fun w v hR => ⟨rfl, h w v hR⟩

theorem bind {f : α → Attempt ω β} {g : α → Attempt υ β} (h : x.Alike y R)
    (hf : ∀ a, (f a).Alike (g a) R) : (x >>= f).Alike (y >>= g) R := by
  intro w v hR
  rcases hx : x w with ⟨e | a, w'⟩
  · obtain ⟨v', hy, hR'⟩ := h.eq hR hx
    exact of_ok (bind_error hx) (bind_error hy) hR'
  · obtain ⟨v', hy, hR'⟩ := h.eq hR hx
    rw [bind_ok hx, bind_ok hy]
    exact hf a w' v' hR'

theorem catching (h : x.Alike y R) : x.catching.Alike y.catching R := by
  intro w v hR
  have hboth := h w v hR
  exact ⟨congrArg Except.ok hboth.1, hboth.2⟩

/-- Attempts on components are alike where the components are. -/
theorem on {x : Attempt σ α} {y : Attempt τ α} {Q : σ → τ → Prop} (h : x.Alike y Q)
    {p : Part ω σ} {q : Part υ τ} (hget : ∀ w v, R w v → Q (p.get w) (q.get v))
    (hset : ∀ s t w v, Q s t → R w v → R (p.set s w) (q.set t v)) :
    (x.on p).Alike (y.on q) R := by
  intro w v hR
  have hboth := h _ _ (hget w v hR)
  exact ⟨hboth.1, hset _ _ w v hboth.2 hR⟩

/-- No number of calls that related states answer alike tells the states apart. -/
theorem inTurn {κ : Type} {f : κ → Attempt ω α} {g : κ → Attempt υ α} {calls : List κ}
    (h : ∀ call ∈ calls, (f call).Alike (g call) R) {w : ω} {v : υ} (hR : R w v) :
    (Attempt.inTurn (calls.map f) w).1 = (Attempt.inTurn (calls.map g) v).1 ∧
      R (Attempt.inTurn (calls.map f) w).2 (Attempt.inTurn (calls.map g) v).2 := by
  induction calls generalizing w v with
  | nil => exact ⟨rfl, hR⟩
  | cons call calls ih =>
    obtain ⟨hanswer, hrelated⟩ := h call List.mem_cons_self w v hR
    obtain ⟨hanswers, hlast⟩ := ih (fun c hc => h c (List.mem_cons_of_mem _ hc)) hrelated
    exact ⟨congrArg₂ List.cons hanswer hanswers, hlast⟩

end Alike

end Attempt

/-- Related states answer every call of a kernel alike. -/
structure Kernel.Alike {ω υ : Type} (k : Kernel ω) (l : Kernel υ) (R : ω → υ → Prop) : Prop where
  mint : ∀ dest src badge, (k.mint dest src badge).Alike (l.mint dest src badge) R
  revoke : ∀ slot, (k.revoke slot).Alike (l.revoke slot) R
  delete : ∀ slot, (k.delete slot).Alike (l.delete slot) R
  accept : ∀ dest index, (k.accept dest index).Alike (l.accept dest index) R
  bindNotification : ∀ asyncEp, (k.bindNotification asyncEp).Alike (l.bindNotification asyncEp) R
  receive : ∀ endpoint, (k.receive endpoint).Alike (l.receive endpoint) R
  reply : ∀ message, (k.reply message).Alike (l.reply message) R

/-! ## Capability spaces -/

namespace CapSpace

variable {ω υ : Type} {R : ω → υ → Prop} {k : Kernel ω} {l : Kernel υ}

/-- The pools of slots have the same supply, and the worlds are related. -/
def Alike (R : ω → υ → Prop) (c : CapSpace ω) (d : CapSpace υ) : Prop :=
  c.slots.pool.Alike d.slots.pool ∧ R c.world d.world

theorem alike_alloc : (alloc : Attempt (CapSpace ω) CapPtr).Alike alloc (Alike R) := by
  intro c d h
  rcases h.1.alloc_cases with ⟨hc, hd⟩ | ⟨slot, p, q, hc, hd, hpq⟩
  · simp only [alloc, SlotAllocator.alloc, hc, hd, Option.map_none]
    exact ⟨trivial, h⟩
  · simp only [alloc, SlotAllocator.alloc, hc, hd, Option.map_some]
    exact ⟨trivial, hpq, h.2⟩

theorem alike_free (slot : CapPtr) :
    (modify (free slot) : Attempt (CapSpace ω) Unit).Alike (modify (free slot)) (Alike R) :=
  .modify fun _ _ h => ⟨h.1.free slot, h.2⟩

theorem alike_worldPart {α : Type} {x : Attempt ω α} {y : Attempt υ α} (h : x.Alike y R) :
    (x.on worldPart).Alike (y.on worldPart) (Alike R) :=
  h.on (fun _ _ hcd => hcd.2) fun _ _ _ _ hw hcd => ⟨hcd.1, hw⟩

theorem alike_allocFilled {fill : CapPtr → Attempt ω Unit} {fill' : CapPtr → Attempt υ Unit}
    (h : ∀ dest, (fill dest).Alike (fill' dest) R) :
    (allocFilled fill).Alike (allocFilled fill') (Alike R) := by
  unfold allocFilled
  apply alike_alloc.bind
  intro slot
  apply (alike_worldPart (h slot)).catching.bind
  intro answer
  rcases answer with e | ⟨⟩
  · exact (alike_free slot).bind fun _ => .throw e
  · exact .pure slot

theorem alike_release {slot : CapPtr} (h : (k.delete slot).Alike (l.delete slot) R) :
    (release k slot).Alike (release l slot) (Alike R) :=
  (alike_worldPart h).bind fun _ => alike_free slot

variable (hk : k.Alike l R)

include hk

theorem alike_mint (src : CapPtr) (badge : Badge) :
    (mint k src badge).Alike (mint l src badge) (Alike R) :=
  alike_allocFilled fun dest => hk.mint dest src badge

theorem alike_accept (index : Nat) : (accept k index).Alike (accept l index) (Alike R) :=
  alike_allocFilled fun dest => hk.accept dest index

theorem alike_reclaim (slot : CapPtr) : (reclaim k slot).Alike (reclaim l slot) (Alike R) :=
  (alike_worldPart (hk.revoke slot)).bind fun _ => alike_release (hk.delete slot)

end CapSpace

/-! ## Object tables -/

/-- In related environments objects are made, ended and refused alike. -/
structure Factory.Alike {ε δ α β : Type} (f : Factory ε α β) (g : Factory δ α β)
    (R : ε → δ → Prop) : Prop where
  create : ∀ id args, (f.create id args).Alike (g.create id args) R
  destroy : ∀ id object env env', R env env' →
    R (f.destroy id object env) (g.destroy id object env')
  reject : ∀ args env env', R env env' → R (f.reject args env) (g.reject args env')

namespace ObjectTable

variable {ε δ α β : Type} {R : ε → δ → Prop} {f : Factory ε α β} {g : Factory δ α β}

/-- The pools have the same supply, the objects are the same, and the environments are related. -/
structure Alike (R : ε → δ → Prop) (s : ObjectTable α × ε) (t : ObjectTable α × δ) : Prop where
  pool : s.1.pool.Alike t.1.pool
  objects : s.1.objects = t.1.objects
  env : R s.2 t.2

variable (hfg : f.Alike g R)

include hfg

theorem alike_alloc (args : β) : (alloc f args).Alike (alloc g args) (Alike R) := by
  rintro ⟨⟨p, objects⟩, env⟩ ⟨⟨q, _⟩, env'⟩ ⟨hpool, rfl, henv⟩
  dsimp only at hpool henv
  rcases hpool.alloc_cases with ⟨hp, hq⟩ | ⟨id, p', q', hp, hq, hpq⟩
  · simp only [alloc, hp, hq]
    exact ⟨trivial, hpool, rfl, hfg.reject args _ _ henv⟩
  · simp only [alloc, hp, hq]
    split
    · exact ⟨rfl, hpq, rfl, hfg.reject args _ _ henv⟩
    · rcases hmade : f.create id args env with ⟨e | object, env₁⟩
      · obtain ⟨env₁', hmade', henv₁⟩ := (hfg.create id args).eq henv hmade
        simp only [hmade']
        exact ⟨trivial, hpq.free id, rfl, henv₁⟩
      · obtain ⟨env₁', hmade', henv₁⟩ := (hfg.create id args).eq henv hmade
        simp only [hmade']
        exact ⟨trivial, hpq, rfl, henv₁⟩

theorem alike_free (id : ObjectId) : (free f id).Alike (free g id) (Alike R) := by
  rintro ⟨⟨p, objects⟩, env⟩ ⟨⟨q, _⟩, env'⟩ ⟨hpool, rfl, henv⟩
  dsimp only at hpool henv
  simp only [free, hpool.isFree_eq]
  split
  · exact ⟨rfl, hpool, rfl, henv⟩
  · rcases objects.get? id with _ | object
    · exact ⟨rfl, hpool, rfl, henv⟩
    · exact ⟨rfl, hpool.free id, rfl, hfg.destroy id object _ _ henv⟩

theorem Alike.release {s : ObjectTable α × ε} {t : ObjectTable α × δ} (h : Alike R s t) :
    R (s.1.release f s.2) (t.1.release g t.2) := by
  obtain ⟨⟨p, objects⟩, env⟩ := s
  obtain ⟨⟨q, objects'⟩, env'⟩ := t
  obtain ⟨-, hobjects, henv⟩ := h
  dsimp only at hobjects henv
  subst hobjects
  show R (objects.toList.foldl _ env) (objects.toList.foldl _ env')
  generalize objects.toList = entries
  induction entries generalizing env env' with
  | nil => exact henv
  | cons entry entries ih => exact ih _ _ (hfg.destroy entry.1 entry.2 _ _ henv)

end ObjectTable

end CapServer
