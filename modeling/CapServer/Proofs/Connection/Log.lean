import CapServer.Connection
import CapServer.Proofs.Names.MountPoint

/-!
# The log of a client

What a client has filled, emptied and closed is kept in a log beside its world (`Client.logged`).
The log is only written, so the client does with it what it does without
(`Client.mirrors_logged`, `CapSpace.exists_log`).
-/

namespace CapServer

/-! ## Events -/

/-- What happens to the slots and the sessions of a client. -/
inductive ClientEvent
  /-- A server put the endpoint of a new session into a slot. -/
  | connected (slot : CapPtr)
  /-- The process server put a dataspace into a slot. -/
  | opened (slot : CapPtr)
  /-- A server was told to close a session, whatever it answered. -/
  | disconnected (session : CapPtr)
  /-- The kernel emptied a slot. -/
  | deleted (slot : CapPtr)
  /-- The kernel refused to empty a slot. -/
  | refused (slot : CapPtr)
  deriving DecidableEq, Repr

/-- What happened, the oldest first. -/
abbrev ClientLog := List ClientEvent

namespace ClientLog

/-- The slots that are filled after an event. -/
def fill (slots : List CapPtr) : ClientEvent → List CapPtr
  | .connected slot => slot :: slots
  | .opened slot => slot :: slots
  | .deleted slot => slots.erase slot
  | _ => slots

/-- The slots that were filled and not emptied, the last one filled first. -/
def filled (log : ClientLog) : List CapPtr := log.foldl fill []

/-- The sessions that were opened. -/
def connects (log : ClientLog) : List CapPtr :=
  log.filterMap fun
    | .connected slot => some slot
    | _ => none

/-- The sessions that a server was told to close. -/
def disconnects (log : ClientLog) : List CapPtr :=
  log.filterMap fun
    | .disconnected session => some session
    | _ => none

/-- The slots that were emptied. -/
def deletes (log : ClientLog) : List CapPtr :=
  log.filterMap fun
    | .deleted slot => some slot
    | _ => none

/-- The kernel emptied whatever it was told to. -/
def Obeyed (log : ClientLog) : Prop := ∀ slot, .refused slot ∉ log

theorem Obeyed.of_append {log recent : ClientLog} (h : Obeyed (log ++ recent)) : log.Obeyed :=
  fun slot hslot => h slot (List.mem_append_left _ hslot)

end ClientLog

namespace Attempt

variable {ω α : Type}

/-- An attempt beside a log, and what is noted of it when it succeeds or fails. A call that fails
fills no slot. -/
def noted (x : Attempt ω α) (events : Bool → ClientLog) : Attempt (ω × ClientLog) α := fun w =>
  let (a, v) := x w.1
  (a, v, w.2 ++ events a.toBool)

theorem mirrors_noted (x : Attempt ω α) (events : Bool → ClientLog) :
    (x.noted events).Mirrors x Prod.fst id :=
  .of_eq fun _ => rfl

end Attempt

namespace Client

variable {ω υ : Type}

/-- A client beside a log of its calls. -/
def logged (c : Client ω) : Client (ω × ClientLog) where
  kernel :=
    { c.kernel.lift .fst with
      delete := fun slot =>
        (c.kernel.delete slot).noted fun ok => if ok then [.deleted slot] else [.refused slot] }
  procs :=
    { c.procs.lift .fst with
      openDataspace := fun size dest =>
        (c.procs.openDataspace size dest).noted fun ok => if ok then [.opened dest] else [] }
  names := c.names.lift .fst
  server :=
    { connect := fun anon liveness dest =>
        (c.server.connect anon liveness dest).noted fun ok => if ok then [.connected dest] else []
      ping := fun session => (c.server.ping session).noted fun _ => []
      setParamBuffer := fun session dataspace size =>
        (c.server.setParamBuffer session dataspace size).noted fun _ => []
      disconnect := fun session =>
        (c.server.disconnect session).noted fun _ => [.disconnected session] }

section Calls

variable {c : Client ω} {w w' : ω × ClientLog} {slot : CapPtr}

theorem log_delete {a : Except Failure Unit} (h : c.logged.kernel.delete slot w = (a, w')) :
    w'.2 = w.2 ++ if a.toBool then [.deleted slot] else [.refused slot] := by
  cases h
  rfl

theorem log_openDataspace {size : Nat} {a : Except Failure RegionId}
    (h : c.logged.procs.openDataspace size slot w = (a, w')) :
    w'.2 = w.2 ++ if a.toBool then [.opened slot] else [] := by
  cases h
  rfl

theorem log_connect {anon liveness : CapPtr} {a : Except Failure Unit}
    (h : c.logged.server.connect anon liveness slot w = (a, w')) :
    w'.2 = w.2 ++ if a.toBool then [.connected slot] else [] := by
  cases h
  rfl

theorem log_ping {session : CapPtr} {a : Except Failure Unit}
    (h : c.logged.server.ping session w = (a, w')) : w'.2 = w.2 := by
  cases h
  exact List.append_nil _

theorem log_setParamBuffer {session dataspace : CapPtr} {size : Nat} {a : Except Failure Unit}
    (h : c.logged.server.setParamBuffer session dataspace size w = (a, w')) : w'.2 = w.2 := by
  cases h
  exact List.append_nil _

theorem log_disconnect {session : CapPtr} {a : Except Failure Unit}
    (h : c.logged.server.disconnect session w = (a, w')) :
    w'.2 = w.2 ++ [.disconnected session] := by
  cases h
  rfl

end Calls

/-- Every call of a client is seen as the same call of another one. -/
structure Mirrors (c : Client ω) (d : Client υ) (f : ω → υ) : Prop where
  kernel : c.kernel.Mirrors d.kernel f
  openDataspace : ∀ size dest,
    (c.procs.openDataspace size dest).Mirrors (d.procs.openDataspace size dest) f id
  resolve : ∀ ns path, (c.names.resolve ns path).Mirrors (d.names.resolve ns path) f id
  connect : ∀ anon liveness dest,
    (c.server.connect anon liveness dest).Mirrors (d.server.connect anon liveness dest) f id
  ping : ∀ session, (c.server.ping session).Mirrors (d.server.ping session) f id
  setParamBuffer : ∀ session dataspace size,
    (c.server.setParamBuffer session dataspace size).Mirrors
      (d.server.setParamBuffer session dataspace size) f id
  disconnect : ∀ session,
    (c.server.disconnect session).Mirrors (d.server.disconnect session) f id

/-- The log is only written. -/
theorem mirrors_logged (c : Client ω) : c.logged.Mirrors c Prod.fst where
  kernel := by
    constructor <;> intros
    case delete => exact Attempt.mirrors_noted _ _
    all_goals exact .of_eq fun _ => rfl
  openDataspace _ _ := Attempt.mirrors_noted _ _
  resolve _ _ := .of_eq fun _ => rfl
  connect _ _ _ := Attempt.mirrors_noted _ _
  ping _ := Attempt.mirrors_noted _ _
  setParamBuffer _ _ _ := Attempt.mirrors_noted _ _
  disconnect _ := Attempt.mirrors_noted _ _

end Client

namespace CapSpace

variable {ω α : Type}

/-- A capability space beside a log. -/
def withLog (c : CapSpace ω) (log : ClientLog) : CapSpace (ω × ClientLog) :=
  ⟨c.slots, c.world, log⟩

/-- What is seen beside a log is done without one. -/
theorem exists_log {x : Attempt (CapSpace (ω × ClientLog)) α} {y : Attempt (CapSpace ω) α}
    (h : x.Mirrors y (map Prod.fst) id) (c : CapSpace ω) (log : ClientLog) :
    ∃ answer c' log', y c = (answer, c') ∧ x (c.withLog log) = (answer, c'.withLog log') :=
  ⟨(x (c.withLog log)).1, (x (c.withLog log)).2.map Prod.fst, (x (c.withLog log)).2.world.2,
    h.eq (c.withLog log), rfl⟩

end CapSpace

namespace Connection

open CapSpace (mirrors_worldPart mirrors_alloc mirrors_free mirrors_release)

variable {ω υ : Type}

/-- The second half of a disconnection. -/
def close (c : Client ω) : SessionCap → Attempt (CapSpace ω) Unit
  | .anonymous _ => pure ()
  | .session slot => do
    let answer ← ((c.server.disconnect slot).on CapSpace.worldPart).catching
    modify (CapSpace.discard c.kernel slot)
    Attempt.ofExcept answer

theorem disconnect_eq (c : Client ω) (conn : Connection) :
    disconnect c conn = match conn.paramBuffer with
      | some buffer => do
        modify (CapSpace.discard c.kernel buffer.dataspace)
        close c conn.session
      | none => close c conn.session := by
  unfold disconnect
  rcases conn.paramBuffer with _ | buffer <;> rcases conn.session with endpoint | slot <;> rfl

section Mirrors

variable {c : Client ω} {d : Client υ} {f : ω → υ} (h : c.Mirrors d f)

include h

theorem mirrors_discard (slot : CapPtr) :
    (modify (CapSpace.discard c.kernel slot) : Attempt (CapSpace ω) Unit).Mirrors
      (modify (CapSpace.discard d.kernel slot)) (CapSpace.map f) id :=
  .modify fun caps => CapSpace.map_discard h.kernel slot caps

theorem mirrors_shareBuffer (session : CapPtr) (size : Nat) :
    (shareBuffer c session size).Mirrors (shareBuffer d session size) (CapSpace.map f) id := by
  unfold shareBuffer
  refine mirrors_alloc.bind fun dataspace => ?_
  refine (mirrors_worldPart (h.openDataspace size dataspace)).catching.bind fun answer => ?_
  rcases answer with e | region
  · exact (mirrors_free dataspace).bind fun _ => .throw e
  · refine (mirrors_worldPart (h.setParamBuffer session dataspace size)).catching.bind
      fun answer => ?_
    rcases answer with e | ⟨⟩
    · exact (mirrors_discard h dataspace).bind fun _ => .throw e
    · exact .pure _

theorem mirrors_settleIn (session : CapPtr) (size : Nat) :
    (settleIn c session size).Mirrors (settleIn d session size) (CapSpace.map f) id := by
  unfold settleIn
  refine (mirrors_worldPart (h.ping session)).bind fun _ => ?_
  refine .ite (.pure (g := id) none) ?_
  exact (mirrors_shareBuffer h session size).bind fun buffer => .pure (g := id) (some buffer)

theorem mirrors_abandon (session : CapPtr) :
    (abandon c session).Mirrors (abandon d session) (CapSpace.map f) id := by
  unfold abandon
  exact (mirrors_worldPart (h.disconnect session)).tolerate.bind fun _ => mirrors_discard h session

theorem mirrors_openSession (options : ConnectOptions) (mount : MountPoint) :
    (openSession c options mount).Mirrors (openSession d options mount) (CapSpace.map f) id := by
  unfold openSession
  refine mirrors_alloc.bind fun session => ?_
  refine (mirrors_worldPart (h.connect _ _ session)).catching.bind fun answer => ?_
  rcases answer with e | ⟨⟩
  · exact (mirrors_free session).bind fun _ => .throw e
  · refine (mirrors_settleIn h session _).catching.bind fun answer => ?_
    rcases answer with e | buffer
    · exact (mirrors_abandon h session).bind fun _ => .throw e
    · exact .pure _

theorem mirrors_connect (options : ConnectOptions) (path : Path) :
    (connect c options path).Mirrors (connect d options path) (CapSpace.map f) id := by
  unfold connect
  refine (mirrors_worldPart
    (MountPoint.mirrors_walk h.resolve options.root options.root [] path)).bind fun mount => ?_
  exact .ite (.pure _) (mirrors_openSession h options mount)

theorem mirrors_close (session : SessionCap) :
    (close c session).Mirrors (close d session) (CapSpace.map f) id := by
  cases session with
  | anonymous endpoint => exact .pure (g := id) ()
  | session slot =>
    refine (mirrors_worldPart (h.disconnect slot)).catching.bind fun answer => ?_
    exact (mirrors_discard h slot).bind fun _ => .ofExcept answer

theorem mirrors_disconnect (conn : Connection) :
    (disconnect c conn).Mirrors (disconnect d conn) (CapSpace.map f) id := by
  rw [disconnect_eq, disconnect_eq]
  cases conn.paramBuffer with
  | none => exact mirrors_close h conn.session
  | some buffer =>
    exact (mirrors_discard h buffer.dataspace).bind fun _ => mirrors_close h conn.session

end Mirrors

end Connection

end CapServer
