import CapServer.Kernel
import CapServer.ProcessServer

/-!
# Scripted failures

A fault plan says for each kind of call what its next uses do: go ahead, or fail with a given
failure. A call about which the plan says nothing goes ahead.

`Kernel.withFaults` and `ProcessServer.withFaults` put a plan in front of a collaborator. A call
that the plan fails never reaches it.
-/

namespace CapServer

/-- For each kind of call `μ`, what its next uses do: a failure, or `none` to go ahead. -/
structure FaultPlan (μ : Type) where
  queue : μ → List (Option Failure)

namespace FaultPlan

variable {μ ω α : Type} [DecidableEq μ]

/-- The plan in which nothing fails. -/
def empty : FaultPlan μ := ⟨fun _ => []⟩

/-- Add to what a kind of call does, behind what was planned before. -/
def extend (p : FaultPlan μ) (call : μ) (entries : List (Option Failure)) : FaultPlan μ :=
  ⟨fun m => if m = call then p.queue m ++ entries else p.queue m⟩

/-- What a call does now, and the plan for later. -/
def next (p : FaultPlan μ) (call : μ) : Option Failure × FaultPlan μ :=
  match p.queue call with
  | [] => (none, p)
  | entry :: rest => (entry, ⟨fun m => if m = call then rest else p.queue m⟩)

/-- Make a call by plan. -/
def guard (p : Part ω (FaultPlan μ)) (call : μ) (x : Attempt ω α) : Attempt ω α := fun w =>
  let (fault, plan) := (p.get w).next call
  match fault with
  | some e => (.error e, p.set plan w)
  | none => x (p.set plan w)

end FaultPlan

/-- The kinds of kernel call. -/
inductive KernelCall
  | mint | revoke | delete | accept | bindNotification | receive | reply
  deriving DecidableEq, Repr

/-- The kinds of call on a process server. -/
inductive ProcCall
  | newEndpoint | newAsyncEndpoint | watch | unwatch | openDataspace | registerNotices
  | registerParams
  deriving DecidableEq, Repr

/-- A kernel whose calls fail by plan. -/
def Kernel.withFaults {ω : Type} (k : Kernel ω) (p : Part ω (FaultPlan KernelCall)) : Kernel ω where
  mint dest src badge := FaultPlan.guard p .mint (k.mint dest src badge)
  revoke slot := FaultPlan.guard p .revoke (k.revoke slot)
  delete slot := FaultPlan.guard p .delete (k.delete slot)
  accept dest index := FaultPlan.guard p .accept (k.accept dest index)
  bindNotification asyncEp := FaultPlan.guard p .bindNotification (k.bindNotification asyncEp)
  receive endpoint := FaultPlan.guard p .receive (k.receive endpoint)
  reply message := FaultPlan.guard p .reply (k.reply message)

/-- A process server whose calls fail by plan. -/
def ProcessServer.withFaults {ω : Type} (s : ProcessServer ω) (p : Part ω (FaultPlan ProcCall)) :
    ProcessServer ω where
  newEndpoint dest := FaultPlan.guard p .newEndpoint (s.newEndpoint dest)
  newAsyncEndpoint dest := FaultPlan.guard p .newAsyncEndpoint (s.newAsyncEndpoint dest)
  watch liveness notifyEp := FaultPlan.guard p .watch (s.watch liveness notifyEp)
  unwatch liveness := FaultPlan.guard p .unwatch (s.unwatch liveness)
  openDataspace size dest := FaultPlan.guard p .openDataspace (s.openDataspace size dest)
  registerNotices dataspace :=
    FaultPlan.guard p .registerNotices (s.registerNotices dataspace)
  registerParams dataspace size :=
    FaultPlan.guard p .registerParams (s.registerParams dataspace size)

end CapServer
