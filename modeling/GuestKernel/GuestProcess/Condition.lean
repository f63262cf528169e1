import GuestKernel.GuestProcess.Basic

/-!
# Guest condition variables

A condition variable is known by its address and has no word in guest memory. A call that waits is
cut in two: `conditionWait` queues its thread, and `conditionTimeout` is what it does if its time
passes. A signal that picked the entry first wins over the timeout.
-/

set_option autoImplicit false

namespace GuestKernel

def conditionSignalAll : UInt64 := 0xFFFFFFFFFFFFFFFF

namespace GuestProcess

variable {M A F : Type}

/-- Queues a thread at the condition variable at `address`; gives its entry. -/
def conditionWait (address : VirtAddr) (thread : GuestThread) :
    Action (GuestProcess M A F) WaitEntry := do
  let entry ← enterWait thread
  onConditions (WaitQueues.push address entry)
  return entry

/-- Ends the wait of an entry whose time has passed; gives whether it was signalled before. -/
def conditionTimeout (address : VirtAddr) (entry : WaitEntry) :
    Action (GuestProcess M A F) Bool := do
  let p ← .current
  if p.wakes.isWoken entry then return true
  else
    .update fun p => { p with
      conditions := (p.conditions.remove address entry).getD p.conditions }
    .note (.conditionTimedOut address entry.tid)
    return false

/-- Wakes at most `amount` threads that wait at `address`; gives their entries in the order in
which they were picked. -/
def conditionSignal (address : VirtAddr) (amount : UInt64) :
    Action (GuestProcess M A F) (List WaitEntry) := do
  let p ← .current
  let (woken, conditions) := p.conditions.popUpTo amount.toNat address
  .update fun p => { p with conditions, wakes := woken.foldl WakeBoard.wake p.wakes }
  .note (.conditionSignalled address woken.length)
  return woken

end GuestProcess

end GuestKernel
