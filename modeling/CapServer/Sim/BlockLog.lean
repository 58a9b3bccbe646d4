import CapServer.ObjectTable

/-!
# A factory that keeps a log

A factory whose objects are the argument blocks they are made from. It writes down every call, and
fails to make an object if told so along with the block.
-/

namespace CapServer

/-- A call on the factory. -/
inductive BlockCall
  | create (id : ObjectId) (block : ArgBlock)
  | createFailed (id : ObjectId)
  | destroy (id : ObjectId) (block : ArgBlock)
  | reject (block : ArgBlock)
  deriving DecidableEq, Repr

/-- The calls so far, and the last failure to make an object. -/
structure BlockLog where
  calls : List BlockCall
  lastFailure : Option Failure

namespace BlockLog

def empty : BlockLog := ⟨[], none⟩

/-- Write a call down. -/
def note (call : BlockCall) (l : BlockLog) : BlockLog := { l with calls := l.calls ++ [call] }

/-- How many objects were made. -/
def created (l : BlockLog) : Nat :=
  l.calls.countP fun
    | .create _ _ => true
    | _ => false

/-- The factory. A silent one does not write down the blocks it rejects. -/
def factory (silent : Bool) : Factory BlockLog ArgBlock (ArgBlock × Option Failure) where
  create id args := fun l =>
    match args.2 with
    | some e => (.error e, { l.note (.createFailed id) with lastFailure := some e })
    | none => (.ok args.1, l.note (.create id args.1))
  destroy id block l := l.note (.destroy id block)
  reject args l := if silent then l else l.note (.reject args.1)

end BlockLog

end CapServer
