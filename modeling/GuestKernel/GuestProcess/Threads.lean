import GuestKernel.GuestProcess.Regions

/-!
# The threads of a process

A new thread gets a slot of thread-local storage and a handle before the factory is asked for it,
and is bound and indexed only afterwards. What was given out for a thread that the factory refuses
is lost. The index goes by the host thread that runs the guest thread.
-/

set_option autoImplicit false

namespace GuestKernel

namespace GuestProcess

variable {M A F : Type}

def thread? (p : GuestProcess M A F) (tid : Tid) : Option ThreadObject := p.threads.get? tid

def mainThread? (p : GuestProcess M A F) : Option ThreadObject := p.mainThread.bind p.thread?

variable [RegionAllocator A] [ThreadFactory F]

/-- Creates a thread; gives its handle and the thread. -/
def createThread (entryPoint : VirtAddr) (entryArgument : UInt64) (stackTop : VirtAddr)
    (priority : Priority) : Action (GuestProcess M A F) (Handle × ThreadObject) := do
  let tls ← getTlsSlot
  let handle ← onHandles HandleTable.reserve
  let p ← .current
  let made ← onFactory (makeThread
    { process := p.index, handle, entryPoint, entryArgument, stackTop, tls, priority })
  onHandles (HandleTable.bind handle (.ofObject made.toObject))
  .update fun p => { p with threads := p.threads.insert made.thread.tid made }
  .note (.threadCreated made.thread.tid handle tls priority)
  return (handle, made)

/-- Creates the main thread, which has the default priority and the argument zero. -/
def createMainThread (entryPoint stackTop : VirtAddr) :
    Action (GuestProcess M A F) (Handle × ThreadObject) := do
  let p ← .current
  let (handle, made) ← createThread entryPoint 0 stackTop p.config.defaultPriority
  .update fun p => { p with mainThread := some made.thread.tid }
  return (handle, made)

end GuestProcess

end GuestKernel
