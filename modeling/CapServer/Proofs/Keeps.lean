import CapServer.Server.Basic

/-!
# What calls keep

A property of a state is kept by an attempt that never leads out of it, whether the attempt succeeds
or fails (`Attempt.Keeps`). A kernel, a process server or a platform keeps a property if each of its
calls does, whatever the arguments.
-/

namespace CapServer

/-- Whatever comes of an attempt, a property that held before it holds after it. -/
def Attempt.Keeps {ω α : Type} (x : Attempt ω α) (I : ω → Prop) : Prop := ∀ w, I w → I (x w).2

namespace Attempt

variable {ω α β : Type} {I : ω → Prop}

theorem Keeps.of_eq {x : Attempt ω α} (hx : x.Keeps I) {w w' : ω} {a : Except Failure α}
    (h : x w = (a, w')) (hw : I w) : I w' := by
  have := hx w hw
  rwa [h] at this

/-- What succeeded in two steps succeeded in each. -/
theorem bind_eq_ok {x : Attempt ω α} {f : α → Attempt ω β} {w w' : ω} {b : β}
    (h : (x >>= f) w = (.ok b, w')) : ∃ a w₁, x w = (.ok a, w₁) ∧ f a w₁ = (.ok b, w') := by
  rw [bind_apply] at h
  rcases hx : x w with ⟨e | a, w₁⟩
  · rw [hx] at h
    cases h
  · rw [hx] at h
    exact ⟨a, w₁, rfl, h⟩

/-- What failed in two steps failed in one of them. -/
theorem bind_eq_error {x : Attempt ω α} {f : α → Attempt ω β} {w w' : ω} {e : Failure}
    (h : (x >>= f) w = (.error e, w')) :
    x w = (.error e, w') ∨ ∃ a w₁, x w = (.ok a, w₁) ∧ f a w₁ = (.error e, w') := by
  rw [bind_apply] at h
  rcases hx : x w with ⟨e' | a, w₁⟩
  · rw [hx] at h
    cases h
    exact .inl rfl
  · rw [hx] at h
    exact .inr ⟨a, w₁, rfl, h⟩

/-- What only computes an answer leaves the state to the step before it. -/
theorem snd_bind {x : Attempt ω α} {f : α → Attempt ω β} (hf : ∀ a w, (f a w).2 = w) (w : ω) :
    ((x >>= f) w).2 = (x w).2 := by
  rw [bind_apply]
  rcases x w with ⟨e | a, w'⟩
  · rfl
  · exact hf a w'

theorem keeps_trivial (x : Attempt ω α) : x.Keeps fun _ => True := fun _ _ => trivial

namespace Keeps

variable {x : Attempt ω α}

theorem pure (a : α) : (Pure.pure a : Attempt ω α).Keeps I := fun _ h => h

theorem throw (e : Failure) : (throw e : Attempt ω α).Keeps I := fun _ h => h

theorem get : (get : Attempt ω ω).Keeps I := fun _ h => h

theorem modify {f : ω → ω} (h : ∀ w, I w → I (f w)) : (modify f : Attempt ω Unit).Keeps I := h

theorem ofExcept (a : Except Failure α) : (ofExcept a : Attempt ω α).Keeps I := by
  intro w h
  rw [ofExcept_apply]
  exact h

theorem bind (hx : x.Keeps I) {f : α → Attempt ω β} (hf : ∀ a, (f a).Keeps I) :
    (x >>= f).Keeps I := by
  intro w h
  rw [bind_apply]
  rcases hr : x w with ⟨e | a, w'⟩
  · exact hx.of_eq hr h
  · exact hf a w' (hx.of_eq hr h)

theorem catching (hx : x.Keeps I) : x.catching.Keeps I := hx

/-- On a component, an attempt keeps what it keeps of the component. -/
theorem on {τ : Type} (hx : x.Keeps I) (p : Part τ ω) : (x.on p).Keeps fun t => I (p.get t) := by
  intro t h
  rw [on_apply, p.get_set]
  exact hx _ h

end Keeps

end Attempt

/-- Every call of a kernel keeps a property. -/
structure Kernel.Keeps {ω : Type} (k : Kernel ω) (I : ω → Prop) : Prop where
  mint : ∀ dest src badge, (k.mint dest src badge).Keeps I
  revoke : ∀ slot, (k.revoke slot).Keeps I
  delete : ∀ slot, (k.delete slot).Keeps I
  accept : ∀ dest index, (k.accept dest index).Keeps I
  bindNotification : ∀ asyncEp, (k.bindNotification asyncEp).Keeps I
  receive : ∀ endpoint, (k.receive endpoint).Keeps I
  reply : ∀ message, (k.reply message).Keeps I

/-- Every call of a process server keeps a property. -/
structure ProcessServer.Keeps {ω : Type} (s : ProcessServer ω) (I : ω → Prop) : Prop where
  newEndpoint : ∀ dest, (s.newEndpoint dest).Keeps I
  newAsyncEndpoint : ∀ dest, (s.newAsyncEndpoint dest).Keeps I
  watch : ∀ liveness notifyEp, (s.watch liveness notifyEp).Keeps I
  unwatch : ∀ liveness, (s.unwatch liveness).Keeps I
  openDataspace : ∀ size dest, (s.openDataspace size dest).Keeps I
  registerNotices : ∀ dataspace, (s.registerNotices dataspace).Keeps I
  registerParams : ∀ dataspace size, (s.registerParams dataspace size).Keeps I

/-- Every call of a platform keeps a property. -/
structure Platform.Keeps {ω : Type} (p : Platform ω) (I : ω → Prop) : Prop where
  kernel : p.kernel.Keeps I
  procs : p.procs.Keeps I

theorem Platform.keeps_trivial {ω : Type} (p : Platform ω) : p.Keeps fun _ => True where
  kernel := by constructor <;> intros <;> exact Attempt.keeps_trivial _
  procs := by constructor <;> intros <;> exact Attempt.keeps_trivial _

/-- Every call of a name service that changes it keeps a property. -/
structure NameResolver.Keeps {ω : Type} (n : NameResolver ω) (I : ω → Prop) : Prop where
  register : ∀ ns path endpoint, (n.register ns path endpoint).Keeps I
  unregister : ∀ ns path, (n.unregister ns path).Keeps I

theorem NameResolver.keeps_trivial {ω : Type} (n : NameResolver ω) : n.Keeps fun _ => True :=
  ⟨fun _ _ _ => Attempt.keeps_trivial _, fun _ _ => Attempt.keeps_trivial _⟩

end CapServer
