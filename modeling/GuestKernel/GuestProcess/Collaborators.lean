import GuestKernel.HandleTable.Program

/-!
# What a process relies on

A process asks a region allocator to map its heap and its thread-local storage, and a thread factory
to make its threads. Both are parameters, each a type of states with one operation. A factory runs
inside the call that creates a thread, when the handle of the thread is given out but not bound,
and may itself use the handle table of the process as any `TableProgram` does.

Nothing else is assumed about what they do; in particular an allocator may map a region elsewhere
than asked.
-/

set_option autoImplicit false

namespace GuestKernel

/-- The operation of a region allocator whose states are of type `A`. -/
class RegionAllocator (A : Type) where
  allocate (allocator : A) (request : RegionRequest) : Except KernelError MemoryObject × A

/-- What a guest thread is made from. -/
structure ThreadParams where
  process : Nat
  handle : Handle
  entryPoint : VirtAddr
  entryArgument : UInt64
  /-- The upper end of its stack. -/
  stackTop : VirtAddr
  /-- Its slot of thread-local storage. -/
  tls : VirtAddr
  priority : Priority
  deriving DecidableEq

/-- The operation of a thread factory whose states are of type `F`. -/
class ThreadFactory (F : Type) where
  /-- Makes the thread that is described, using the handle table of its process on the way. -/
  create (factory : F) (params : ThreadParams) : TableProgram (Except Fault ThreadObject × F)

def allocateRegion {A : Type} [RegionAllocator A] (request : RegionRequest) :
    Action A MemoryObject := fun allocator =>
  ⟨(RegionAllocator.allocate allocator request).1.mapError .error,
    (RegionAllocator.allocate allocator request).2, []⟩

def makeThread {F : Type} [ThreadFactory F] (params : ThreadParams) :
    Action (HandleTable × F) ThreadObject := do
  let (_, factory) ← .current
  let (answer, factory) ← .onFirst (ThreadFactory.create factory params).run
  .onSecond (.update fun _ => factory)
  .done answer

end GuestKernel
