import GuestKernel.Words
import GuestKernel.Numeral
import GuestKernel.ObjectKind
import GuestKernel.Status

/-!
# Why an operation is refused

`KernelError` lists the causes for which an operation of the kernel is refused, and
`KernelError.message` gives each its one text. Two helpers wrap a lower cause: a failure of the
memory channel, and whatever kept a page of thread-local storage from being mapped.

An address sum that does not fit 64 bits and a buffer that nothing could hold are NOT refusals;
they end the whole call and are the other cases of `Fault`.
-/

set_option autoImplicit false

namespace GuestKernel

/-- What sort of failure an input or output operation of the host reports. -/
inductive IoKind where
  | notFound
  | permissionDenied
  | unexpectedEof
  | writeZero
  | invalidInput
  | invalidData
  | timedOut
  | interrupted
  | wouldBlock
  | brokenPipe
  | alreadyExists
  | unsupported
  | outOfMemory
  | other
  deriving DecidableEq

/-- The text of a failure of which only the sort is known. -/
def IoKind.text : IoKind → String
  | notFound => "entity not found"
  | permissionDenied => "permission denied"
  | unexpectedEof => "unexpected end of file"
  | writeZero => "write zero"
  | invalidInput => "invalid input parameter"
  | invalidData => "invalid data"
  | timedOut => "timed out"
  | interrupted => "operation interrupted"
  | wouldBlock => "operation would block"
  | brokenPipe => "broken pipe"
  | alreadyExists => "entity already exists"
  | unsupported => "unsupported"
  | outOfMemory => "out of memory"
  | other => "other error"

structure IoError where
  kind : IoKind
  message : String
  deriving DecidableEq

/-- A failure without a text of its own. -/
def IoError.ofKind (kind : IoKind) : IoError := ⟨kind, kind.text⟩

inductive KernelError where
  | invalidHandle (handle : Handle)
  /-- The object bound to the handle is not of the type that was asked for. -/
  | typeMismatch (handle : Handle) (expected actual : ObjectKind)
  | memoryAccessFailure (address : VirtAddr) (size : Size) (cause : IoError)
  /-- No page of thread-local storage could be mapped. -/
  | unresolvedTlsAllocation (address : VirtAddr) (reason : String)
  | regionAllocation (address : VirtAddr) (size : Size) (reason : String)
  | handlesExhausted
  /-- A page of thread-local storage has no slot of this number. -/
  | slotOutOfRange (slot : UInt8)
  /-- The status change is not a single step forward. -/
  | invalidStateTransition (current requested : ProcessStatus)
  | channelOpen (path message : String)
  deriving DecidableEq

namespace KernelError

def message : KernelError → String
  | invalidHandle handle => s!"Invalid handle: {hex handle.toNat}"
  | typeMismatch handle expected actual =>
    s!"Tried to get kernel object ({hex handle.toNat}) with different type: {expected.name} " ++
      s!"when object is {actual.name}"
  | memoryAccessFailure address size cause =>
    s!"Memory access failure at {hex address.toNat} ({size.toNat} bytes): {cause.message}"
  | unresolvedTlsAllocation address reason =>
    s!"Unable to allocate TLS page at {hex address.toNat}: {reason}"
  | regionAllocation address size reason =>
    s!"Unable to allocate region {hex address.toNat} ({hex size.toNat} bytes): {reason}"
  | handlesExhausted => "Handle table exhausted"
  | slotOutOfRange slot => s!"TLS slot out of range: {slot.toNat}"
  | invalidStateTransition current requested =>
    s!"Invalid process state transition: {current.name} -> {requested.name}"
  | channelOpen path message => s!"Unable to open memory channel {path}: {message}"

/-- The refusal to map thread-local storage at `address` because of another refusal. -/
def unresolvedTls (address : VirtAddr) (cause : KernelError) : KernelError :=
  unresolvedTlsAllocation address cause.message

end KernelError

/-- Why an operation ended without a value. -/
inductive Fault where
  | error (cause : KernelError)
  /-- It came to an address sum that 64 bits do not hold. -/
  | overflow
  /-- It asked for a larger buffer than there can be. -/
  | bufferTooLarge
  deriving DecidableEq

/-- Rewords the cause of a refusal; another fault stays what it is. -/
def Fault.reword (f : KernelError → KernelError) : Fault → Fault
  | .error cause => .error (f cause)
  | fault => fault

/-- The sum of an address and a distance, or the fault that they are too large. -/
def VirtAddr.plus (address : VirtAddr) (distance : Size) : Except Fault VirtAddr :=
  match VirtAddr.plus? address distance with
  | some sum => .ok sum
  | none => .error .overflow

section Plus
variable {address sum : VirtAddr} {distance : Size} {fault : Fault}

theorem VirtAddr.plus_eq_ok_iff :
    VirtAddr.plus address distance = .ok sum ↔ sum.toNat = address.toNat + distance.toNat := by
  unfold VirtAddr.plus
  split
  · rename_i found h
    have value := VirtAddr.toNat_of_plus? h
    rw [Except.ok.injEq]
    constructor
    · rintro rfl
      exact value
    · intro same
      exact UInt64.toNat_inj.mp (value.trans same.symm)
  · rename_i h
    have large := VirtAddr.plus?_eq_none_iff.mp h
    have small := sum.toNat_lt
    simp only [reduceCtorEq, false_iff]
    simp only [UInt64.size] at large
    omega

theorem VirtAddr.plus_eq_error_iff :
    VirtAddr.plus address distance = .error fault ↔
      fault = .overflow ∧ UInt64.size ≤ address.toNat + distance.toNat := by
  rw [← VirtAddr.plus?_eq_none_iff]
  unfold VirtAddr.plus
  split
  · rename_i found h
    simp [h]
  · rename_i h
    simp [h, eq_comm]

end Plus

end GuestKernel
