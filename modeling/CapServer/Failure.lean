/-!
# Failures

What an operation of the runtime reports instead of a result, and the signed status code that
stands for it on the wire.

* `Failure` and `Failure.message`, its text;
* `Failure.status`, the code a reply carries, and `Failure.ofStatus`, the reading of a code.

All kernel failures share one code, `Status.delegated`; the kernel's own status travels in the
word after it. The two directions therefore agree on every other failure (`ofStatus_status`).
-/

namespace CapServer

/-- Why an operation failed. -/
inductive Failure
  /-- No free id, slot or buffer space is left. -/
  | resourceExhausted
  /-- The id, name or death watch is unknown. -/
  | notFound
  /-- The id is free in its pool. -/
  | notAllocated
  /-- The object was released before. -/
  | alreadyFreed
  /-- Ring metadata, a notification record or a message is damaged. -/
  | malformed
  /-- The request carried capabilities of the wrong shape. -/
  | permissionOrProtocol
  /-- An argument lies outside the accepted range. -/
  | invalidArgument
  /-- The server does not implement the operation. -/
  | unsupported
  /-- The kernel or another server reported this status. -/
  | kernel (status : Int32)
  deriving DecidableEq, Repr, Inhabited

/-! ## Status codes -/

namespace Status

def success : Int64 := 0
def outOfMemory : Int64 := -1
def badDescriptor : Int64 := -2
def invalidParameter : Int64 := -3
def unknownName : Int64 := -4
def malformed : Int64 := -5
def accessDenied : Int64 := -6
def unimplemented : Int64 := -7
def doubleFree : Int64 := -8

/-- The kernel reported an error of its own; its status is in the next word. -/
def delegated : Int64 := -9

end Status

namespace Failure

/-- The text of a failure. -/
def message : Failure → String
  | resourceExhausted => "resource exhausted"
  | notFound => "not found"
  | notAllocated => "not allocated"
  | alreadyFreed => "already freed"
  | malformed => "malformed data"
  | permissionOrProtocol => "permission or protocol violation"
  | invalidArgument => "invalid argument"
  | unsupported => "unsupported operation"
  | kernel status => "kernel error " ++ toString status.toInt

/-- The status code of a failure in a reply. -/
def status : Failure → Int64
  | resourceExhausted => Status.outOfMemory
  | notFound => Status.unknownName
  | notAllocated => Status.badDescriptor
  | alreadyFreed => Status.doubleFree
  | malformed => Status.malformed
  | permissionOrProtocol => Status.accessDenied
  | invalidArgument => Status.invalidParameter
  | unsupported => Status.unimplemented
  | kernel _ => Status.delegated

/-- A code read as the status of the kernel, malformed if it does not fit the kernel's width. -/
def ofKernelStatus (code : Int64) : Failure :=
  if code.toInt32.toInt64 = code then kernel code.toInt32 else malformed

/-- The meaning of a status code: success, a classified failure, or a status of the kernel. -/
def ofStatus (code : Int64) : Except Failure Unit :=
  match code.toInt with
  | 0 => .ok ()
  | -1 => .error resourceExhausted
  | -2 => .error notAllocated
  | -3 => .error invalidArgument
  | -4 => .error notFound
  | -5 => .error malformed
  | -6 => .error permissionOrProtocol
  | -7 => .error unsupported
  | -8 => .error alreadyFreed
  | _ => .error (ofKernelStatus code)

@[simp] theorem ofStatus_success : ofStatus Status.success = .ok () := rfl

theorem ofStatus_status {e : Failure} (h : ∀ n, e ≠ kernel n) : ofStatus e.status = .error e := by
  cases e with
  | kernel n => exact absurd rfl (h n)
  | _ => rfl

theorem ofKernelStatus_toInt64 (n : Int32) : ofKernelStatus n.toInt64 = kernel n := by
  simp [ofKernelStatus]

end Failure

end CapServer
