import CapServer.Failure

/-!
# Attempts

A computation of type `Attempt ω α` runs on a state `ω` and either answers an `α` or fails. What
it did to the state before it failed stays: undoing is the business of whoever started it, and
the theory of rollback is about these states.

* `Attempt.fail`, `Attempt.orFail`: giving up;
* `Attempt.catching` turns a failure into a value, `Attempt.settle` keeps the state alone;
* `Part` is a component of a state, and `Attempt.on` runs an attempt on a component.
-/

namespace CapServer

/-- A computation on a state that may fail and keeps the state it reached. -/
def Attempt (ω α : Type) : Type := ω → Except Failure α × ω

namespace Attempt

variable {ω α β : Type}

/-- Answer without touching the state. -/
protected def pure (a : α) : Attempt ω α := fun w => (.ok a, w)

/-- Run one attempt and, if it succeeds, the next one on the state it left. -/
protected def bind (x : Attempt ω α) (f : α → Attempt ω β) : Attempt ω β := fun w =>
  match x w with
  | (.ok a, w) => f a w
  | (.error e, w) => (.error e, w)

/-- Give up. -/
def fail (e : Failure) : Attempt ω α := fun w => (.error e, w)

instance : Monad (Attempt ω) where
  pure := Attempt.pure
  bind := Attempt.bind

instance : MonadExceptOf Failure (Attempt ω) where
  throw := fail
  tryCatch x recover := fun w =>
    match x w with
    | (.ok a, w) => (.ok a, w)
    | (.error e, w) => recover e w

instance : MonadStateOf ω (Attempt ω) where
  get := fun w => (.ok w, w)
  set w := fun _ => (.ok (), w)
  modifyGet f := fun w => let (a, w) := f w; (.ok a, w)

/-- The value, or failure `e` if there is none. -/
def orFail (a : Option α) (e : Failure) : Attempt ω α :=
  match a with
  | some a => pure a
  | none => fail e

/-- An answer reached elsewhere. -/
def ofExcept : Except Failure α → Attempt ω α
  | .ok a => pure a
  | .error e => fail e

/-- Make a failure part of the answer. -/
def catching (x : Attempt ω α) : Attempt ω (Except Failure α) := fun w =>
  let (a, w) := x w
  (.ok a, w)

/-- The state an attempt leaves, whether it succeeded or not. -/
def settle (x : Attempt ω α) (w : ω) : ω := (x w).2

/-- Run an attempt whose failure is of no consequence. -/
def tolerate (x : Attempt ω α) : Attempt ω Unit := fun w => (.ok (), x.settle w)

/-! ## Laws -/

@[simp] theorem pure_apply (a : α) (w : ω) : (pure a : Attempt ω α) w = (.ok a, w) := rfl

@[simp] theorem throw_apply (e : Failure) (w : ω) : (throw e : Attempt ω α) w = (.error e, w) := rfl

@[simp] theorem fail_apply (e : Failure) (w : ω) : (fail e : Attempt ω α) w = (.error e, w) := rfl

@[simp] theorem get_apply (w : ω) : (get : Attempt ω ω) w = (.ok w, w) := rfl

@[simp] theorem set_apply (v w : ω) : (set v : Attempt ω Unit) w = (.ok (), v) := rfl

@[simp] theorem modify_apply (f : ω → ω) (w : ω) :
    (modify f : Attempt ω Unit) w = (.ok (), f w) := rfl

@[simp] theorem catching_apply (x : Attempt ω α) (w : ω) :
    x.catching w = (.ok (x w).1, (x w).2) := rfl

@[simp] theorem tolerate_apply (x : Attempt ω α) (w : ω) : x.tolerate w = (.ok (), (x w).2) := rfl

@[simp] theorem orFail_some (a : α) (e : Failure) :
    (orFail (some a) e : Attempt ω α) = pure a := rfl

@[simp] theorem orFail_none (e : Failure) : (orFail none e : Attempt ω α) = throw e := rfl

@[simp] theorem ofExcept_apply (a : Except Failure α) (w : ω) :
    (ofExcept a : Attempt ω α) w = (a, w) := by
  cases a <;> rfl

theorem bind_apply (x : Attempt ω α) (f : α → Attempt ω β) (w : ω) :
    (x >>= f) w = match x w with
      | (.ok a, w) => f a w
      | (.error e, w) => (.error e, w) := rfl

instance : LawfulMonad (Attempt ω) :=
  LawfulMonad.mk' _
    (fun x => funext fun w => by
      show (x >>= fun a => pure a) w = x w
      rw [bind_apply]
      split <;> simp_all)
    (fun _ _ => rfl)
    (fun x f g => funext fun w => by
      rw [bind_apply, bind_apply, bind_apply]
      rcases x w with ⟨_ | _, _⟩ <;> rfl)

theorem bind_ok {x : Attempt ω α} {f : α → Attempt ω β} {w w' : ω} {a : α}
    (h : x w = (.ok a, w')) : (x >>= f) w = f a w' := by
  simp [bind_apply, h]

theorem bind_error {x : Attempt ω α} {f : α → Attempt ω β} {w w' : ω} {e : Failure}
    (h : x w = (.error e, w')) : (x >>= f) w = (.error e, w') := by
  simp [bind_apply, h]

end Attempt

/-! ## Components -/

/-- A component `σ` of a state `ω`, read and replaced independently of the rest. -/
structure Part (ω σ : Type) where
  get : ω → σ
  set : σ → ω → ω
  /-- What was put in is there. -/
  get_set : ∀ s w, get (set s w) = s := by intros; rfl
  /-- Putting in what is there changes nothing. -/
  set_get : ∀ w, set (get w) w = w := by intros; rfl
  /-- What was put in before does not matter. -/
  set_set : ∀ s t w, set s (set t w) = set s w := by intros; rfl

namespace Part

attribute [simp] get_set set_get set_set

variable {ω σ τ : Type}

/-- The whole state. -/
def whole : Part ω ω where
  get w := w
  set w _ := w

/-- The first of a pair. -/
def fst : Part (σ × τ) σ where
  get w := w.1
  set s w := (s, w.2)

/-- The second of a pair. -/
def snd : Part (σ × τ) τ where
  get w := w.2
  set t w := (w.1, t)

/-- A component of a component. -/
def comp (p : Part ω σ) (q : Part σ τ) : Part ω τ where
  get w := q.get (p.get w)
  set t w := p.set (q.set t (p.get w)) w
  get_set t w := by simp
  set_get w := by simp
  set_set s t w := by simp

end Part

namespace Attempt

variable {ω σ α : Type}

/-- Run an attempt on a component, leaving the rest of the state alone. -/
def on (p : Part ω σ) (x : Attempt σ α) : Attempt ω α := fun w =>
  let (a, s) := x (p.get w)
  (a, p.set s w)

@[simp] theorem on_apply (p : Part ω σ) (x : Attempt σ α) (w : ω) :
    x.on p w = ((x (p.get w)).1, p.set (x (p.get w)).2 w) := rfl

end Attempt

end CapServer
