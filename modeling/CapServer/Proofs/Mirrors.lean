import CapServer.Proofs.Keeps

/-!
# States seen through a map

A map `f` from one kind of state to another may be such that an attempt on the first is seen through
it as an attempt on the second (`Attempt.Mirrors`). Attempts put together from mirrored ones are
mirrored; so if a map mirrors the calls of a kernel, it mirrors all that is done with capability
spaces and with sessions on it.
-/

namespace CapServer

/-- Through `f` and `g`, the attempt `x` is seen as `y`. -/
def Attempt.Mirrors {ω υ α β : Type} (x : Attempt ω α) (y : Attempt υ β) (f : ω → υ) (g : α → β) :
    Prop :=
  ∀ w, y (f w) = ((x w).1.map g, f (x w).2)

namespace Attempt

variable {ω υ σ τ α α' β β' : Type} {f : ω → υ} {g : α → β} {x : Attempt ω α} {y : Attempt υ β}

namespace Mirrors

theorem of_eq {y : Attempt υ α} (h : ∀ w, y (f w) = ((x w).1, f (x w).2)) : x.Mirrors y f id := by
  intro w
  rw [h, Except.map_id]
  rfl

theorem eq {y : Attempt υ α} (h : x.Mirrors y f id) (w : ω) : y (f w) = ((x w).1, f (x w).2) := by
  rw [h w, Except.map_id]
  rfl

theorem settle (h : x.Mirrors y f g) (w : ω) : y.settle (f w) = f (x.settle w) :=
  congrArg Prod.snd (h w)

theorem pure (a : α) : (Pure.pure a : Attempt ω α).Mirrors (Pure.pure (g a)) f g := fun _ => rfl

theorem throw (e : Failure) : (throw e : Attempt ω α).Mirrors (throw e) f g := fun _ => rfl

theorem get : (get : Attempt ω ω).Mirrors get f f := fun _ => rfl

theorem modify {m : ω → ω} {m' : υ → υ} (h : ∀ w, m' (f w) = f (m w)) :
    (modify m : Attempt ω Unit).Mirrors (modify m') f id :=
  of_eq fun w => congrArg (Prod.mk _) (h w)

theorem orFail (a : Option α) (e : Failure) :
    (orFail a e : Attempt ω α).Mirrors (orFail a e) f id := by
  cases a <;> exact fun _ => rfl

theorem ofExcept (a : Except Failure α) :
    (ofExcept a : Attempt ω α).Mirrors (ofExcept a) f id := by
  cases a <;> exact fun _ => rfl

theorem bind (h : x.Mirrors y f g) {g' : α' → β'} {F : α → Attempt ω α'} {G : β → Attempt υ β'}
    (hF : ∀ a, (F a).Mirrors (G (g a)) f g') : (x >>= F).Mirrors (y >>= G) f g' := by
  intro w
  rw [bind_apply, bind_apply, h w]
  rcases x w with ⟨e | a, w'⟩
  · rfl
  · exact hF a w'

theorem catching {y : Attempt υ α} (h : x.Mirrors y f id) : x.catching.Mirrors y.catching f id :=
  of_eq fun w => by rw [catching_apply, catching_apply, h.eq]

theorem tolerate (h : x.Mirrors y f g) : x.tolerate.Mirrors y.tolerate f id :=
  of_eq fun w => by rw [tolerate_apply, tolerate_apply, h w]

theorem ite {c : Prop} [Decidable c] {x' : Attempt ω α} {y' : Attempt υ β} (h : x.Mirrors y f g)
    (h' : x'.Mirrors y' f g) : (if c then x else x').Mirrors (if c then y else y') f g := by
  split
  · exact h
  · exact h'

/-- An attempt on a component is seen on the component. -/
theorem on {x : Attempt σ α} {y : Attempt τ β} {f' : σ → τ} (h : x.Mirrors y f' g) {p : Part ω σ}
    {q : Part υ τ} (hget : ∀ w, q.get (f w) = f' (p.get w))
    (hset : ∀ s w, q.set (f' s) (f w) = f (p.set s w)) : (x.on p).Mirrors (y.on q) f g := by
  intro w
  rw [on_apply, on_apply, hget, h, hset]

end Mirrors

end Attempt

/-- Every call of a kernel is seen as the same call of another one. -/
structure Kernel.Mirrors {ω υ : Type} (k : Kernel ω) (l : Kernel υ) (f : ω → υ) : Prop where
  mint : ∀ dest src badge, (k.mint dest src badge).Mirrors (l.mint dest src badge) f id
  revoke : ∀ slot, (k.revoke slot).Mirrors (l.revoke slot) f id
  delete : ∀ slot, (k.delete slot).Mirrors (l.delete slot) f id
  accept : ∀ dest index, (k.accept dest index).Mirrors (l.accept dest index) f id
  bindNotification : ∀ asyncEp,
    (k.bindNotification asyncEp).Mirrors (l.bindNotification asyncEp) f id
  receive : ∀ endpoint, (k.receive endpoint).Mirrors (l.receive endpoint) f id
  reply : ∀ message, (k.reply message).Mirrors (l.reply message) f id

/-- The same for process servers. -/
structure ProcessServer.Mirrors {ω υ : Type} (s : ProcessServer ω) (t : ProcessServer υ)
    (f : ω → υ) : Prop where
  newEndpoint : ∀ dest, (s.newEndpoint dest).Mirrors (t.newEndpoint dest) f id
  newAsyncEndpoint : ∀ dest, (s.newAsyncEndpoint dest).Mirrors (t.newAsyncEndpoint dest) f id
  watch : ∀ liveness notifyEp, (s.watch liveness notifyEp).Mirrors (t.watch liveness notifyEp) f id
  unwatch : ∀ liveness, (s.unwatch liveness).Mirrors (t.unwatch liveness) f id
  openDataspace : ∀ size dest, (s.openDataspace size dest).Mirrors (t.openDataspace size dest) f id
  registerNotices : ∀ dataspace,
    (s.registerNotices dataspace).Mirrors (t.registerNotices dataspace) f id
  registerParams : ∀ dataspace size,
    (s.registerParams dataspace size).Mirrors (t.registerParams dataspace size) f id

/-- The same for platforms. -/
structure Platform.Mirrors {ω υ : Type} (p : Platform ω) (q : Platform υ) (f : ω → υ) : Prop where
  kernel : p.kernel.Mirrors q.kernel f
  procs : p.procs.Mirrors q.procs f

/-- The same for the changes a name service makes. -/
structure NameResolver.Mirrors {ω υ : Type} (m : NameResolver ω) (n : NameResolver υ) (f : ω → υ) :
    Prop where
  register : ∀ ns path endpoint,
    (m.register ns path endpoint).Mirrors (n.register ns path endpoint) f id
  unregister : ∀ ns path, (m.unregister ns path).Mirrors (n.unregister ns path) f id

/-! ## Capability spaces -/

namespace CapSpace

variable {ω υ α : Type} {f : ω → υ} {k : Kernel ω} {l : Kernel υ}

/-- A capability space, its world seen through a map. -/
def map (f : ω → υ) (c : CapSpace ω) : CapSpace υ := ⟨c.slots, f c.world⟩

theorem mirrors_worldPart {x : Attempt ω α} {y : Attempt υ α} (h : x.Mirrors y f id) :
    (x.on worldPart).Mirrors (y.on worldPart) (map f) id :=
  h.on (fun _ => rfl) fun _ _ => rfl

theorem mirrors_alloc : (alloc : Attempt (CapSpace ω) CapPtr).Mirrors alloc (map f) id := by
  refine .of_eq fun c => ?_
  unfold alloc
  rw [map]
  dsimp only
  cases c.slots.alloc <;> rfl

theorem mirrors_free (slot : CapPtr) :
    (modify (free slot) : Attempt (CapSpace ω) Unit).Mirrors (modify (free slot)) (map f) id :=
  .modify fun _ => rfl

theorem mirrors_allocFilled {fill : CapPtr → Attempt ω Unit} {fill' : CapPtr → Attempt υ Unit}
    (h : ∀ dest, (fill dest).Mirrors (fill' dest) f id) :
    (allocFilled fill).Mirrors (allocFilled fill') (map f) id := by
  unfold allocFilled
  refine mirrors_alloc.bind fun slot => ((mirrors_worldPart (h slot)).catching).bind fun a => ?_
  rcases a with e | ⟨⟩
  · exact (mirrors_free slot).bind fun _ => .throw e
  · exact .pure slot

variable (hk : k.Mirrors l f)

include hk

theorem mirrors_release (slot : CapPtr) : (release k slot).Mirrors (release l slot) (map f) id := by
  unfold release
  exact (mirrors_worldPart (hk.delete slot)).bind fun _ => mirrors_free slot

theorem mirrors_reclaim (slot : CapPtr) : (reclaim k slot).Mirrors (reclaim l slot) (map f) id := by
  unfold reclaim
  exact (mirrors_worldPart (hk.revoke slot)).bind fun _ => mirrors_release hk slot

theorem mirrors_mint (src : CapPtr) (badge : Badge) :
    (mint k src badge).Mirrors (mint l src badge) (map f) id :=
  mirrors_allocFilled fun dest => hk.mint dest src badge

theorem mirrors_accept (index : Nat) : (accept k index).Mirrors (accept l index) (map f) id :=
  mirrors_allocFilled fun dest => hk.accept dest index

theorem map_discard (slot : CapPtr) (c : CapSpace ω) :
    (c.map f).discard l slot = (c.discard k slot).map f :=
  (mirrors_release hk slot).settle c

theorem map_discardAll (slots : List CapPtr) (c : CapSpace ω) :
    slots.foldl (fun c slot => c.discard l slot) (c.map f) =
      (slots.foldl (fun c slot => c.discard k slot) c).map f := by
  exact List.foldl_hom (map f) fun c slot => map_discard hk slot c

end CapSpace

/-! ## Tables -/

/-- The objects of a table are made and ended in the same way, seen through `f`. -/
structure Factory.Mirrors {ε δ α β : Type} (F : Factory ε α β) (G : Factory δ α β) (f : ε → δ) :
    Prop where
  create : ∀ name args, (F.create name args).Mirrors (G.create name args) f id
  destroy : ∀ name object env, G.destroy name object (f env) = f (F.destroy name object env)
  reject : ∀ args env, G.reject args (f env) = f (F.reject args env)

namespace ObjectTable

variable {ε δ α β : Type} {f : ε → δ} {F : Factory ε α β} {G : Factory δ α β} (h : F.Mirrors G f)

include h

theorem mirrors_alloc (args : β) : (alloc F args).Mirrors (alloc G args) (Prod.map id f) id := by
  refine .of_eq fun (t, env) => ?_
  unfold alloc
  dsimp only [Prod.map, id]
  rcases t.pool.alloc with _ | ⟨name, pool⟩
  · exact congrArg (fun env => (_, t, env)) (h.reject args env)
  · dsimp only
    split
    · exact congrArg (fun env => (_, _, env)) (h.reject args env)
    · rw [(h.create name args).eq env]
      rcases F.create name args env with ⟨e | object, env'⟩ <;> rfl

theorem mirrors_free (name : ObjectId) :
    (free F name).Mirrors (free G name) (Prod.map id f) id := by
  refine .of_eq fun (t, env) => ?_
  unfold free
  dsimp only [Prod.map, id]
  split
  · rfl
  · rcases t.objects.get? name with _ | object
    · rfl
    · exact congrArg (fun env => (_, _, env)) (h.destroy name object env)

theorem map_release (t : ObjectTable α) (env : ε) : t.release G (f env) = f (t.release F env) := by
  unfold release
  exact List.foldl_hom f fun env e => h.destroy e.1 e.2 env

end ObjectTable

namespace ClientTable

variable {ω υ : Type} {f : ω → υ} {k : Kernel ω} {l : Kernel υ} (hk : k.Mirrors l f)

include hk

theorem mirrors_factory (t : ClientTable) :
    (t.factory k).Mirrors (t.factory l) (CapSpace.map f) where
  create n liveness := by
    refine .of_eq fun caps => ?_
    unfold factory Session.factory
    dsimp only
    rw [(CapSpace.mirrors_mint hk t.source (n + t.badgeBase)).eq caps]
    rcases CapSpace.mint k t.source (n + t.badgeBase) caps with ⟨e | endpoint, caps'⟩
    · exact congrArg (Prod.mk _) (CapSpace.map_discard hk liveness caps')
    · rfl
  destroy _ s caps := CapSpace.map_discardAll hk s.slots caps
  reject liveness caps := CapSpace.map_discard hk liveness caps

theorem mirrors_alloc (liveness : CapPtr) :
    (alloc k liveness).Mirrors (alloc l liveness) (Prod.map id (CapSpace.map f)) id := by
  refine .of_eq fun (t, caps) => ?_
  have halloc := (ObjectTable.mirrors_alloc (mirrors_factory hk t) liveness).eq (t.table, caps)
  unfold alloc
  dsimp only [Prod.map, id] at halloc ⊢
  rw [halloc]

theorem map_destroy (client : ClientId) (s : ClientTable × CapSpace ω) :
    destroy l client (Prod.map id (CapSpace.map f) s) =
      Prod.map id (Prod.map id (CapSpace.map f)) (destroy k client s) := by
  have hfree := (ObjectTable.mirrors_free (mirrors_factory hk s.1) client).eq (s.1.table, s.2)
  unfold destroy
  dsimp only [Prod.map, id] at hfree ⊢
  rw [hfree]

theorem map_sweep (s : ClientTable × CapSpace ω) :
    sweep l (Prod.map id (CapSpace.map f) s) =
      Prod.map id (Prod.map id (CapSpace.map f)) (sweep k s) := by
  obtain ⟨t, caps⟩ := s
  unfold sweep
  show List.foldl _ (Prod.map id (Prod.map id (CapSpace.map f)) (0, { t with pending := [] }, caps))
    t.pending = _
  refine List.foldl_hom (Prod.map id (Prod.map id (CapSpace.map f))) fun x client => ?_
  obtain ⟨n, s⟩ := x
  dsimp only [Prod.map, id]
  have hdestroy := map_destroy hk client s
  dsimp only [Prod.map, id] at hdestroy
  rw [hdestroy]

theorem map_release (t : ClientTable) (caps : CapSpace ω) :
    t.release l (caps.map f) = (t.release k caps).map f :=
  ObjectTable.map_release (mirrors_factory hk t) t.table caps

end ClientTable

end CapServer
