import GuestKernel.GuestProcess.Collaborators

/-!
# A region allocator that follows a script

A `ScriptedAllocator` writes down every request and does what its `AllocatorScript` says: it refuses
requests of a purpose, or answers with a new object of private memory, at the requested place or at
another. With the empty script it honours every request.
-/

set_option autoImplicit false

namespace GuestKernel

structure AllocatorScript where
  /-- With what it refuses to map a heap. -/
  heapRefusal : Option KernelError := none
  /-- With what it refuses to map thread-local storage. -/
  threadLocalRefusal : Option KernelError := none
  /-- Where it maps instead of at the requested address. -/
  address : Option VirtAddr := none
  /-- The size that it maps instead of the requested one. -/
  size : Option Size := none
  /-- Whether its objects do not offer their region themselves. -/
  plain : Bool := false
  deriving DecidableEq

/-- The refusal of requests with a purpose. -/
def AllocatorScript.refusal (script : AllocatorScript) : RegionPurpose → Option KernelError
  | .heap => script.heapRefusal
  | .threadLocal => script.threadLocalRefusal

structure ScriptedAllocator where
  script : AllocatorScript
  nextNumber : Nat
  requests : List RegionRequest
  deriving DecidableEq

namespace ScriptedAllocator

/-- An allocator that honours every request. -/
def new : ScriptedAllocator := ⟨{}, 9000, []⟩

def allocate (a : ScriptedAllocator) (request : RegionRequest) :
    Except KernelError MemoryObject × ScriptedAllocator :=
  let a := { a with requests := a.requests ++ [request] }
  match a.script.refusal request.purpose with
  | some cause => (.error cause, a)
  | none =>
    let region : Region :=
      ⟨a.script.address.getD request.region.address, a.script.size.getD request.region.size⟩
    let object : KernelObject :=
      { id := .numbered a.nextNumber
        type := .ordinary .privateMemory
        region := if a.script.plain then none else some region
        thread := none }
    (.ok ⟨object, region⟩, { a with nextNumber := a.nextNumber + 1 })

instance : RegionAllocator ScriptedAllocator := ⟨allocate⟩

end ScriptedAllocator

end GuestKernel
