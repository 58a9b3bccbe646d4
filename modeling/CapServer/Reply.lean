import CapServer.Message

/-!
# Replies

A reply opens with a status word. A failure of the kernel is sent as `Status.delegated` followed by
the kernel's own status, any other outcome as its status alone; further words come after it.

`Reply.result_make` says that the outcome and the further words are read back as they were sent.
-/

namespace CapServer

namespace Reply

/-- The status words that stand for an outcome. -/
def statusWords : Except Failure Unit → List Word
  | .ok () => [Status.success.toUInt64]
  | .error (.kernel n) => [Status.delegated.toUInt64, n.toInt64.toUInt64]
  | .error e => [e.status.toUInt64]

/-- A reply to the method `label`: an outcome, then further words. -/
def make (label : Nat) (outcome : Except Failure Unit) (values : List Word) : Message :=
  { Message.ofLabel label with words := statusWords outcome ++ values }

/-- Consume the status at the front of a reply. It fails with the failure the reply carries, or as
malformed if the status is cut short or out of range. -/
def result : Attempt Message Unit := do
  let code ← Message.popSigned
  if code = Status.delegated then
    throw (Failure.ofKernelStatus (← Message.popSigned))
  else Attempt.ofExcept (Failure.ofStatus code)

theorem result_make (label : Nat) (outcome : Except Failure Unit) (values : List Word) :
    (result (make label outcome values)).1 = outcome ∧
      (result (make label outcome values)).2.unread = values := by
  rcases outcome with e | ⟨⟩
  · cases e with
    | kernel n =>
      have h : (result (make label (.error (.kernel n)) values)).1 =
          .error (Failure.ofKernelStatus n.toInt64) := by
        rw [show n.toInt64 = n.toInt64.toUInt64.toInt64 by simp]
        rfl
      exact ⟨h.trans (by rw [Failure.ofKernelStatus_toInt64]), rfl⟩
    | _ => exact ⟨rfl, rfl⟩
  · exact ⟨rfl, rfl⟩

end Reply

end CapServer
