import Mathlib
import GuestKernel.Proofs.Mutex.Calls
import GuestKernel.Proofs.Process.Run

/-!
# Calls by what they use

The configuration, the handles and the pages of a process are its core; its holdings are the core,
the heap and the index of threads. Most calls are elsewhere: `ProcessCall.keeps_holdings` says that
they leave the holdings alone. The creation of a thread is cut where the thread has its slot and its
handle, by `GuestProcess.createThread_eq`.
-/

set_option autoImplicit false

namespace GuestKernel

open GuestKernel.Action

namespace GuestProcess

variable {M A F : Type}

def core (p : GuestProcess M A F) : ProcessConfig × HandleTable × TlsPageList :=
  (p.config, p.handles, p.tlsPages)

/-- The core, the heap and the index of threads. -/
def holdings (p : GuestProcess M A F) :
    (ProcessConfig × HandleTable × TlsPageList) × Option Owner × FiniteMap Tid ThreadObject ×
      Option Tid :=
  (p.core, p.heap, p.threads, p.mainThread)

theorem keeps_setStatus (requested : ProcessStatus) :
    (setStatus requested).Keeps (holdings (M := M) (A := A) (F := F)) :=
  keeps_bind keeps_current fun _ => keeps_bind (keeps_update fun _ => rfl) fun _ =>
    keeps_bind (keeps_done _) fun _ => keeps_note _

theorem keeps_conditionTimeout (address : VirtAddr) (entry : WaitEntry) :
    (conditionTimeout address entry).Keeps (holdings (M := M) (A := A) (F := F)) := by
  refine keeps_bind keeps_current fun p => ?_
  split
  · exact keeps_pure true
  · exact keeps_bind (keeps_update fun _ => rfl) fun _ =>
      keeps_bind (keeps_note _) fun _ => keeps_pure false

section Mutex
variable [MemoryChannel M]

theorem keeps_mutexLock (address : VirtAddr) (owner : Handle) (insist : Bool)
    (thread : GuestThread) :
    (mutexLock address owner insist thread).Keeps (holdings (M := M) (A := A) (F := F)) := by
  intro p
  have exit := mutexLock_exit p address owner insist thread
  generalize (mutexLock address owner insist thread p).outcome = answer,
    (mutexLock address owner insist thread p).state = q at exit ⊢
  cases exit <;> rfl

theorem keeps_mutexUnlock (address : VirtAddr) :
    (mutexUnlock address).Keeps (holdings (M := M) (A := A) (F := F)) := by
  intro p
  have exit := mutexUnlock_exit p address
  generalize (mutexUnlock address p).outcome = answer, (mutexUnlock address p).state = q at exit ⊢
  cases exit <;> rfl

end Mutex

section Threads
variable [ThreadFactory F] (entryPoint : VirtAddr) (entryArgument : UInt64)
variable (stackTop : VirtAddr) (priority : Priority)

/-- The creation of a thread that has its slot and its handle. -/
def finishThread (tls : VirtAddr) (handle : Handle) :
    Action (GuestProcess M A F) (Handle × ThreadObject) := do
  let p ← .current
  let made ← onFactory (makeThread
    { process := p.index, handle, entryPoint, entryArgument, stackTop, tls, priority })
  onHandles (HandleTable.bind handle (.ofObject made.toObject))
  .update fun p => { p with threads := p.threads.insert made.thread.tid made }
  .note (.threadCreated made.thread.tid handle tls priority)
  return (handle, made)

theorem keeps_finishThread {γ : Type} {view : GuestProcess M A F → γ}
    (ignores : ∀ p handles factory threads, view { p with handles, factory, threads } = view p)
    (tls : VirtAddr) (handle : Handle) :
    (finishThread entryPoint entryArgument stackTop priority tls handle).Keeps view := by
  refine keeps_bind keeps_current fun p => ?_
  refine keeps_bind (fun q => ignores q _ _ q.threads) fun made => ?_
  refine keeps_bind (fun q => ignores q _ q.factory q.threads) fun _ => ?_
  refine keeps_bind (keeps_update fun q => ignores q q.handles q.factory _) fun _ => ?_
  exact keeps_bind (keeps_note _) fun _ => keeps_pure _

theorem createThread_eq [RegionAllocator A] :
    createThread entryPoint entryArgument stackTop priority = (do
      let tls ← getTlsSlot
      let handle ← onHandles HandleTable.reserve
      finishThread entryPoint entryArgument stackTop priority tls handle :
        Action (GuestProcess M A F) (Handle × ThreadObject)) := rfl

end Threads

end GuestProcess

open GuestProcess

namespace ProcessCall

variable {M A F : Type}

def isElsewhere : ProcessCall M A F → Bool
  | initializeMemory | getTlsSlot | table _ | createThread .. | createMainThread .. => false
  | _ => true

variable [MemoryChannel M] [RegionAllocator A] [ThreadFactory F] {call : ProcessCall M A F}

theorem keeps_holdings (elsewhere : call.isElsewhere = true) : call.perform.Keeps holdings := by
  cases call with
  | setStatus requested => exact keeps_setStatus requested
  | signal => exact keeps_update fun _ => rfl
  | resetSignal => exact keeps_update fun _ => rfl
  | access action => exact fun _ => rfl
  | mutexLock address owner insist thread => exact keeps_mutexLock address owner insist thread
  | mutexUnlock address => exact keeps_mutexUnlock address
  | conditionWait address thread => exact fun _ => rfl
  | conditionTimeout address entry => exact keeps_conditionTimeout address entry
  | conditionSignal address amount => exact fun _ => rfl
  | replace allocator factory => exact keeps_update fun _ => rfl
  | _ => cases elsewhere

theorem keeps_core (elsewhere : call.isElsewhere = true) : call.perform.Keeps core := fun p =>
  congrArg Prod.fst (keeps_holdings elsewhere p)

end ProcessCall

end GuestKernel
