import Mathlib
import GuestKernel.GuestProcess.Condition
import GuestKernel.GuestProcess.Mutex
import GuestKernel.GuestProcess.Threads
import GuestKernel.Proofs.Process.Frame

/-!
# Runs of a process

A `ProcessCall` is one call of the operations of a process, or a change of its collaborators that
comes from outside. A `ProcessRun` is a process with all calls that were made on it, each with the
process as the call found it, so that whatever happened in a run can be read off its calls.
-/

set_option autoImplicit false

namespace GuestKernel

/-- A call of a process with channels `M`, allocators `A` and factories `F`. -/
inductive ProcessCall (M A F : Type) where
  | setStatus (requested : ProcessStatus)
  | signal
  | resetSignal
  | initializeMemory
  /-- An access to guest memory, or a change that the guest makes to it. -/
  | access {α : Type} (action : Action M α)
  | getTlsSlot
  | table (call : TableCall)
  | createThread (entryPoint : VirtAddr) (entryArgument : UInt64) (stackTop : VirtAddr)
      (priority : Priority)
  | createMainThread (entryPoint stackTop : VirtAddr)
  | mutexLock (address : VirtAddr) (owner : Handle) (insist : Bool) (thread : GuestThread)
  | mutexUnlock (address : VirtAddr)
  | conditionWait (address : VirtAddr) (thread : GuestThread)
  | conditionTimeout (address : VirtAddr) (entry : WaitEntry)
  | conditionSignal (address : VirtAddr) (amount : UInt64)
  /-- The allocator and the factory become others. -/
  | replace (allocator : A) (factory : F)

namespace ProcessCall

variable {M A F : Type}

def Answer : ProcessCall M A F → Type
  | setStatus _ | signal | resetSignal | initializeMemory | replace _ _ => Unit
  | @access _ _ _ α _ => α
  | getTlsSlot => VirtAddr
  | table call => call.Answer
  | createThread .. | createMainThread .. => Handle × ThreadObject
  | mutexLock .. => LockOutcome
  | mutexUnlock _ => Option WaitEntry
  | conditionWait _ _ => WaitEntry
  | conditionTimeout _ _ => Bool
  | conditionSignal _ _ => List WaitEntry

variable [MemoryChannel M] [RegionAllocator A] [ThreadFactory F]

def perform : (call : ProcessCall M A F) → Action (GuestProcess M A F) call.Answer
  | setStatus requested => GuestProcess.setStatus requested
  | signal => GuestProcess.signal
  | resetSignal => GuestProcess.resetSignal
  | initializeMemory => GuestProcess.initializeMemory
  | access action => GuestProcess.onChannel action
  | getTlsSlot => GuestProcess.getTlsSlot
  | table call => GuestProcess.onHandles call.perform
  | createThread entryPoint entryArgument stackTop priority =>
    GuestProcess.createThread entryPoint entryArgument stackTop priority
  | createMainThread entryPoint stackTop => GuestProcess.createMainThread entryPoint stackTop
  | mutexLock address owner insist thread => GuestProcess.mutexLock address owner insist thread
  | mutexUnlock address => GuestProcess.mutexUnlock address
  | conditionWait address thread => GuestProcess.conditionWait address thread
  | conditionTimeout address entry => GuestProcess.conditionTimeout address entry
  | conditionSignal address amount => GuestProcess.conditionSignal address amount
  | replace allocator factory => .update fun p => { p with allocator, factory }

end ProcessCall

/-- A process and the calls that were made on it, the first one first. -/
structure ProcessRun (M A F : Type) where
  process : GuestProcess M A F
  calls : List (GuestProcess M A F × ProcessCall M A F)

namespace ProcessRun

variable {M A F : Type} [MemoryChannel M] [RegionAllocator A] [ThreadFactory F]

def after (s : ProcessRun M A F) (call : ProcessCall M A F) : ProcessRun M A F :=
  ⟨(call.perform s.process).state, s.calls ++ [(s.process, call)]⟩

/-- What is read off the calls of a run grows by what the last call gives. -/
theorem filterMap_after {β : Type} (f : GuestProcess M A F × ProcessCall M A F → Option β)
    (s : ProcessRun M A F) (call : ProcessCall M A F) :
    (s.after call).calls.filterMap f = s.calls.filterMap f ++ (f (s.process, call)).toList := by
  rw [after, List.filterMap_append]
  cases given : f (s.process, call) <;> simp [given]

/-- The runs that start with a new process of this configuration. -/
inductive Reachable (config : ProcessConfig) : ProcessRun M A F → Prop where
  | start (index : Nat) (channel : M) (allocator : A) (factory : F) :
      Reachable config ⟨.new index config channel allocator factory, []⟩
  | call {s : ProcessRun M A F} (reachable : Reachable config s) (call : ProcessCall M A F) :
      Reachable config (s.after call)

end ProcessRun

end GuestKernel
