import GuestKernel.Lifecycle
import GuestKernel.Memory.Value
import GuestKernel.GuestProcess.Collaborators
import GuestKernel.Tls.PageList
import GuestKernel.Wait.Queues

/-!
# Guest processes

A `GuestProcess` is what the kernel keeps of one guest process: its life cycle, its handles, the
index of its threads, its pages of thread-local storage, its heap, its way to guest memory, and the
threads that wait for its mutexes and condition variables. It is a value; `GuestProcess.onChannel`
and its siblings run an action on one part of it.
-/

set_option autoImplicit false

namespace GuestKernel

/-- The kernel's record of a guest process, for channels `M`, allocators `A` and factories `F`. -/
structure GuestProcess (M A F : Type) where
  index : Nat
  config : ProcessConfig
  status : StatusCell
  /-- Whether the process is signalled to those who wait for it. -/
  signalled : Bool
  channel : M
  handles : HandleTable
  /-- Its threads by the host threads that run them. -/
  threads : FiniteMap Tid ThreadObject
  mainThread : Option Tid
  tlsPages : TlsPageList
  heap : Option Owner
  allocator : A
  factory : F
  mutexes : WaitQueues
  conditions : WaitQueues
  wakes : WakeBoard

namespace GuestProcess

variable {M A F α : Type}

def new (index : Nat) (config : ProcessConfig) (channel : M) (allocator : A) (factory : F) :
    GuestProcess M A F where
  index
  config
  status := .new
  signalled := false
  channel
  handles := .new config.baseHandleIndex
  threads := .empty
  mainThread := none
  tlsPages := .new config.layout.tlsBase
  heap := none
  allocator
  factory
  mutexes := .empty
  conditions := .empty
  wakes := .empty

def onChannel (a : Action M α) : Action (GuestProcess M A F) α :=
  .onPart channel (fun channel p => { p with channel }) a

def onHandles (a : Action HandleTable α) : Action (GuestProcess M A F) α :=
  .onPart handles (fun handles p => { p with handles }) a

def onAllocator (a : Action A α) : Action (GuestProcess M A F) α :=
  .onPart allocator (fun allocator p => { p with allocator }) a

def onFactory (a : Action (HandleTable × F) α) : Action (GuestProcess M A F) α :=
  .onPart (fun p => (p.handles, p.factory))
    (fun part p => { p with handles := part.1, factory := part.2 }) a

def onTlsPages (a : Action (TlsPageList × (HandleTable × A)) α) : Action (GuestProcess M A F) α :=
  .onPart (fun p => (p.tlsPages, p.handles, p.allocator))
    (fun part p => { p with tlsPages := part.1, handles := part.2.1, allocator := part.2.2 }) a

def onMutexes (a : Action WaitQueues α) : Action (GuestProcess M A F) α :=
  .onPart mutexes (fun mutexes p => { p with mutexes }) a

def onConditions (a : Action WaitQueues α) : Action (GuestProcess M A F) α :=
  .onPart conditions (fun conditions p => { p with conditions }) a

def setStatus (requested : ProcessStatus) : Action (GuestProcess M A F) Unit := do
  let p ← .current
  let (answer, status) := p.status.advance requested
  .update fun p => { p with status }
  let previous ← .done (answer.mapError .error)
  .note (.statusChanged previous requested)

def signal : Action (GuestProcess M A F) Unit := .update fun p => { p with signalled := true }

def resetSignal : Action (GuestProcess M A F) Unit := .update fun p => { p with signalled := false }

def enterWait (thread : GuestThread) : Action (GuestProcess M A F) WaitEntry := do
  let p ← .current
  let (entry, wakes) := p.wakes.enter thread
  .update fun p => { p with wakes }
  return entry

end GuestProcess

end GuestKernel
