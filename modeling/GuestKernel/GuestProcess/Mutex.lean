import GuestKernel.GuestProcess.Basic

/-!
# Guest mutexes

A guest mutex is a word in guest memory, its tag: the handle of the thread that owns it, or zero,
and a bit that is set while other threads wait for it. The guest takes and drops a mutex that
nobody else wants by itself; the kernel is called for the rest.

A call that has to wait ends here with `LockOutcome.queued`. It goes on with `mutexResume` once
`mutexUnlock` has woken its entry.
-/

set_option autoImplicit false

namespace GuestKernel

/-- The bit of a tag that is set while threads wait for the mutex. -/
def mutexWaitersBit : UInt32 := 0x40000000

/-- The bits of a tag that hold the handle of the owner. -/
def mutexOwnerMask : UInt32 := ~~~mutexWaitersBit

/-- The tag of a mutex that `owner` owns and for which threads wait or not. -/
def ownedTag (owner : Handle) (contended : Bool) : UInt32 :=
  if contended then (owner &&& mutexOwnerMask) ||| mutexWaitersBit else owner &&& mutexOwnerMask

/-- How far a call that locks a mutex has come. -/
inductive LockOutcome where
  | returned
  | queued (entry : WaitEntry)
  deriving DecidableEq

namespace GuestProcess

variable {M A F : Type} [MemoryChannel M]

/-- Locks the mutex at `address` for a thread. Unless the caller insists, the call returns at once
when the mutex is not owned by `owner` any more. A mutex whose tag is zero is taken, and for any
other the thread is queued. -/
def mutexLock (address : VirtAddr) (owner : Handle) (insist : Bool) (thread : GuestThread) :
    Action (GuestProcess M A F) LockOutcome := do
  let tag ← onChannel (GuestMemory.readValue UInt32 address)
  if !insist && tag &&& mutexOwnerMask != owner then
    .note (.mutexOwnerChanged address tag owner)
    return .returned
  else if tag = 0 then
    let p ← .current
    let contended : Bool := 0 < p.mutexes.waiters address
    onChannel (GuestMemory.writeValue address (ownedTag thread.handle contended))
    .note (.mutexTaken address thread.handle)
    return .returned
  else
    if tag &&& mutexWaitersBit = 0 then
      onChannel (GuestMemory.writeValue address (tag ||| mutexWaitersBit))
    let entry ← enterWait thread
    onMutexes (WaitQueues.push address entry)
    return .queued entry

/-- What a call that locks a mutex does after its entry was woken. -/
def mutexResume (address : VirtAddr) (entry : WaitEntry) : Action (GuestProcess M A F) Unit :=
  .note (.mutexHanded address entry.handle)

/-- Hands the mutex at `address` to the entry that is served next and wakes that; without waiting
threads the tag becomes zero. Gives the entry that was woken. -/
def mutexUnlock (address : VirtAddr) : Action (GuestProcess M A F) (Option WaitEntry) := do
  let p ← .current
  match p.mutexes.peekNext address with
  | none =>
    let tag ← onChannel (GuestMemory.readValue UInt32 address)
    if tag = 0 then .note (.mutexAlreadyUnlocked address)
    onChannel (GuestMemory.writeValue address (0 : UInt32))
    return none
  | some entry =>
    let contended : Bool := 1 < p.mutexes.waiters address
    onChannel (GuestMemory.writeValue address (ownedTag entry.handle contended))
    .update fun p => { p with
      mutexes := (p.mutexes.remove address entry).getD p.mutexes
      wakes := p.wakes.wake entry }
    .note (.mutexUnlocked address entry.tid)
    return some entry

end GuestProcess

end GuestKernel
