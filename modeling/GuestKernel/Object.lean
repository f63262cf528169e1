import GuestKernel.Region

/-!
# Kernel objects

A kernel object has an identity, a type, and up to two views: as an owner of guest memory and as a
guest thread. Its type is the kind that it carries together with the implementation that it is made
of. Neither decides the other; a typed look-up wants both.

Objects hold no state here. What a process or a thread does is NOT part of the object that stands
for it.
-/

set_option autoImplicit false

namespace GuestKernel

inductive ObjectId where
  | numbered (number : Nat)
  /-- The process with this index. -/
  | process (index : Nat)
  deriving DecidableEq

/-- What a kernel object is made of. -/
inductive Implementation where
  /-- The implementation that objects of a kind usually have. -/
  | ordinary (kind : ObjectKind)
  | custom (number : Nat)
  deriving DecidableEq

/-- A type of kernel objects. -/
structure ObjectType where
  kind : ObjectKind
  implementation : Implementation
  deriving DecidableEq

/-- The type that objects of a kind usually have. -/
def ObjectType.ordinary (kind : ObjectKind) : ObjectType := ⟨kind, .ordinary kind⟩

/-- A guest thread as the kernel sees it. -/
structure GuestThread where
  /-- The handle that the thread was made with. -/
  handle : Handle
  priority : Priority
  tid : Tid
  /-- Its slot of thread-local storage. -/
  tls : VirtAddr
  deriving DecidableEq

structure KernelObject where
  id : ObjectId
  type : ObjectType
  /-- The region that the object offers as its own, if it does. -/
  region : Option Region
  /-- The thread that the object is, if it is one. -/
  thread : Option GuestThread
  deriving DecidableEq

/-- A kernel object in the role of guest memory, whether or not it offers the region itself. -/
structure MemoryObject where
  object : KernelObject
  region : Region
  deriving DecidableEq

/-- A kernel object that is a guest thread. -/
structure ThreadObject where
  id : ObjectId
  thread : GuestThread
  deriving DecidableEq

def ThreadObject.toObject (t : ThreadObject) : KernelObject :=
  ⟨t.id, .ordinary .thread, none, some t.thread⟩

def KernelObject.ofProcess (index : Nat) : KernelObject :=
  ⟨.process index, .ordinary .process, none, none⟩

end GuestKernel
