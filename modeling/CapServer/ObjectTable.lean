import CapServer.Attempt
import CapServer.Handle
import CapServer.IdMap
import CapServer.Pool

/-!
# Object tables

A table of objects named by ids of a range that does not contain zero. An id that was freed is
handed out again before one that was never issued, so the ids stay dense.

How objects come into being and how they end is the affair of a `Factory`, which works on an
environment of its own, so that objects can own resources there. `ObjectTable.alloc` gives the id
back if the factory fails; `ObjectTable.free` ends one object and `ObjectTable.release` all of them.
-/

namespace CapServer

/-- How the objects `α` of a table are made from arguments `β`, and ended, in an environment `ε`. -/
structure Factory (ε α β : Type) where
  /-- Make the object with the given id. A factory that fails has dealt with the arguments. -/
  create (id : ObjectId) (args : β) : Attempt ε α
  /-- End an object. -/
  destroy (id : ObjectId) (object : α) : ε → ε
  /-- Deal with arguments no object is made from. -/
  reject (args : β) : ε → ε := fun env => env

/-- The number of words in a general block of arguments. -/
def argWords : Nat := 4

/-- A general block of arguments. -/
abbrev ArgBlock : Type := Vector Word argWords

/-- The live objects of a range of ids. -/
structure ObjectTable (α : Type) where
  pool : Pool
  objects : IdMap α

namespace ObjectTable

variable {ε α β : Type}

/-- An empty table over `[start, stop)`. -/
def ofRange (start stop : ObjectId) : Except Failure (ObjectTable α) :=
  if start = 0 || stop < start then .error .invalidArgument
  else .ok ⟨.ofRange start stop, .empty⟩

/-- The live object with an id. -/
def get? (t : ObjectTable α) (id : ObjectId) : Option α := t.objects.get? id

/-- Change the live object with an id, if there is one. -/
def modify (t : ObjectTable α) (id : ObjectId) (f : α → α) : ObjectTable α :=
  { t with objects := t.objects.modify id f }

/-- The live objects in id order. -/
def toList (t : ObjectTable α) : List (ObjectId × α) := t.objects.toList

/-- How many objects are live. -/
def size (t : ObjectTable α) : Nat := t.objects.size

/-- An id with the object that a map has for it. -/
def entry (objects : IdMap α) (id : ObjectId) : Except Failure (ObjectId × α) :=
  match objects.get? id with
  | some object => .ok (id, object)
  | none => .error .notFound

/-- Take an id and make its object. An id whose object is still there keeps it. -/
def alloc (f : Factory ε α β) (args : β) : Attempt (ObjectTable α × ε) (ObjectId × α) :=
  fun (t, env) =>
    match t.pool.alloc with
    | none => (.error .resourceExhausted, (t, f.reject args env))
    | some (id, pool) =>
      if (t.objects.get? id).isSome then
        (entry t.objects id, ({ t with pool := pool }, f.reject args env))
      else
        match f.create id args env with
        | (.ok object, env) =>
          (entry (t.objects.insert id object) id,
            ({ pool := pool, objects := t.objects.insert id object }, env))
        | (.error e, env) => (.error e, ({ t with pool := pool.free id }, env))

/-- End the object with an id and give the id back. -/
def free (f : Factory ε α β) (id : ObjectId) : Attempt (ObjectTable α × ε) Unit :=
  fun (t, env) =>
    if t.pool.isFree id then (.error .notAllocated, (t, env))
    else
      match t.objects.get? id with
      | none => (.error .notFound, (t, env))
      | some object =>
        (.ok (), ({ pool := t.pool.free id, objects := t.objects.erase id },
          f.destroy id object env))

/-- End every object, in id order. -/
def release (f : Factory ε α β) (t : ObjectTable α) (env : ε) : ε :=
  t.toList.foldl (fun env (id, object) => f.destroy id object env) env

end ObjectTable

end CapServer
