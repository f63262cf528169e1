import GuestKernel.Error

/-!
# Log records

What the kernel notes down while it works. A record names an event and its data;
`LogRecord.severity` and `LogRecord.text` give its level and its wording, and `LogRecord.line` both.
The order of the records of one operation is the order in which the events happen.
-/

set_option autoImplicit false

namespace GuestKernel

/-- How much a log record matters. -/
inductive Severity where
  | error
  | warn
  | info
  | debug
  | trace
  deriving DecidableEq

/-- The name of a level in a log line. -/
def Severity.name : Severity → String
  | error => "ERROR"
  | warn => "WARN"
  | info => "INFO"
  | debug => "DEBUG"
  | trace => "TRACE"

/-- An event worth noting. -/
inductive LogRecord where
  | statusChanged (previous current : ProcessStatus)
  | heapMapped (address : VirtAddr) (size : Size) (handle : Handle)
  | threadCreated (tid : Tid) (handle : Handle) (tls : VirtAddr) (priority : Priority)
  | tlsPageMapped (index : Nat) (address : VirtAddr)
  | handleBound (kind : ObjectKind) (handle : Handle)
  | handleDeleted (kind : ObjectKind) (handle : Handle)
  | absentHandleDeleted (handle : Handle)
  | readFailed (size : Size) (address : VirtAddr) (cause : IoError)
  | writeFailed (size : Size) (address : VirtAddr) (cause : IoError)
  | waitStarted (tid : Tid) (handle : Handle) (priority : Priority) (address : VirtAddr)
  | mutexOwnerChanged (address : VirtAddr) (tag : UInt32) (expected : Handle)
  | mutexTaken (address : VirtAddr) (handle : Handle)
  | mutexHanded (address : VirtAddr) (handle : Handle)
  | mutexAlreadyUnlocked (address : VirtAddr)
  | mutexUnlocked (address : VirtAddr) (woken : Tid)
  | conditionTimedOut (address : VirtAddr) (tid : Tid)
  | conditionSignalled (address : VirtAddr) (woken : Nat)
  deriving DecidableEq

namespace LogRecord

/-- The level of a record. -/
def severity : LogRecord → Severity
  | readFailed .. | writeFailed .. => .error
  | absentHandleDeleted .. | mutexAlreadyUnlocked .. => .warn
  | statusChanged .. => .info
  | heapMapped .. | threadCreated .. | tlsPageMapped .. | handleBound ..
  | handleDeleted .. => .debug
  | waitStarted .. | mutexOwnerChanged .. | mutexTaken .. | mutexHanded .. | mutexUnlocked ..
  | conditionTimedOut .. | conditionSignalled .. => .trace

/-- The wording of a record. -/
def text : LogRecord → String
  | statusChanged previous current => s!"Process status {previous.name} -> {current.name}"
  | heapMapped address size handle =>
    s!"Mapped heap at {hex address.toNat} ({hex size.toNat} bytes) as handle {hex handle.toNat}"
  | threadCreated tid handle tls priority =>
    s!"Created thread {tid.toNat} (handle {hex handle.toNat}, TLS {hex tls.toNat}, " ++
      s!"priority {priority.toNat})"
  | tlsPageMapped index address => s!"Allocated TLS page #{index} at {hex address.toNat}"
  | handleBound kind handle => s!"Inserted {kind.name} at handle {hex handle.toNat}"
  | handleDeleted kind handle => s!"Deleted handle {hex handle.toNat} ({kind.name})"
  | absentHandleDeleted handle => s!"Tried to delete absent handle {hex handle.toNat}"
  | readFailed size address cause =>
    s!"Failed to read {hex size.toNat} bytes at {hex address.toNat}: {cause.message}"
  | writeFailed size address cause =>
    s!"Failed to write {hex size.toNat} bytes at {hex address.toNat}: {cause.message}"
  | waitStarted tid handle priority address =>
    s!"Thread {tid.toNat} (handle {hex handle.toNat}, priority {priority.toNat}) " ++
      s!"waiting on {hex address.toNat}"
  | mutexOwnerChanged address tag expected =>
    s!"Mutex {hex address.toNat} owner changed (tag {hex tag.toNat}, " ++
      s!"expected {hex expected.toNat})"
  | mutexTaken address handle =>
    s!"Mutex {hex address.toNat} was unlocked, taken by {hex handle.toNat}"
  | mutexHanded address handle => s!"Mutex {hex address.toNat} handed to {hex handle.toNat}"
  | mutexAlreadyUnlocked address =>
    s!"Unlocking mutex {hex address.toNat} which is already unlocked"
  | mutexUnlocked address woken =>
    s!"Mutex {hex address.toNat} unlocked, woke thread {woken.toNat}"
  | conditionTimedOut address tid =>
    s!"Condition variable {hex address.toNat} wait timed out for thread {tid.toNat}"
  | conditionSignalled address woken =>
    s!"Condition variable {hex address.toNat} signalled, woke {woken}"

/-- The record as one line: its level, a blank, its wording. -/
def line (r : LogRecord) : String := s!"{r.severity.name} {r.text}"

end LogRecord

end GuestKernel
