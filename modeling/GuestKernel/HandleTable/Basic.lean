import GuestKernel.Action
import GuestKernel.FiniteMap
import GuestKernel.Object

/-!
# Handle tables

A handle table binds handles to kernel objects. Handles come from a counter that only goes up, so a
handle is never given out twice, not even after its binding was deleted; the counter's last value is
never given out. Giving out a handle and binding it are two operations, because the object may be
built in between, and whatever builds it may use the table.

A binding keeps the region under which its object is found by address. It is the object's own one
if the object was bound as such, and the one it was bound with if it was bound as memory; a
duplicate has the region of its source.
-/

set_option autoImplicit false

namespace GuestKernel

structure Binding where
  object : KernelObject
  /-- The region under which the object is found by address. -/
  region : Option Region
  deriving DecidableEq

/-- The binding of an object with the region that it offers itself. -/
def Binding.ofObject (object : KernelObject) : Binding := ⟨object, object.region⟩

/-- The binding of an object in the role of guest memory. -/
def Binding.ofMemory (memory : MemoryObject) : Binding := ⟨memory.object, some memory.region⟩

/-- The handle under which an address is found, and what it is bound to. -/
structure Owner where
  handle : Handle
  memory : MemoryObject
  deriving DecidableEq

def Owner.least : List Owner → Option Owner
  | [] => none
  | owner :: rest =>
    match least rest with
    | none => some owner
    | some other => if other.handle < owner.handle then some other else some owner

structure HandleTable where
  next : Handle
  bindings : FiniteMap Handle Binding

namespace HandleTable

/-- A table without bindings, whose first handle is `base`. -/
def new (base : Handle) : HandleTable := ⟨base, .empty⟩

def size (table : HandleTable) : Nat := table.bindings.size

/-- Gives out the next handle without binding it. -/
def reserve : Action HandleTable Handle := fun table =>
  if table.next.toNat + 1 < UInt32.size then
    ⟨.ok table.next, { table with next := table.next + 1 }, []⟩
  else ⟨.error (.error .handlesExhausted), table, []⟩

/-- Binds a handle that was given out before. -/
def bind (handle : Handle) (binding : Binding) : Action HandleTable Unit := do
  .note (.handleBound binding.object.type.kind handle)
  .update fun table => { table with bindings := table.bindings.insert handle binding }

def insertItem (object : KernelObject) : Action HandleTable Handle := do
  let handle ← reserve
  bind handle (.ofObject object)
  return handle

/-- Binds an object in the role of guest memory to the next handle. -/
def insertMemory (memory : MemoryObject) : Action HandleTable Handle := do
  let handle ← reserve
  bind handle (.ofMemory memory)
  return handle

/-- Builds an object that knows its handle and binds it to that. If it cannot be built its handle
is lost. -/
def newHandle (build : Handle → Except KernelError KernelObject) :
    Action HandleTable (Handle × KernelObject) := do
  let handle ← reserve
  let object ← .done ((build handle).mapError .error)
  bind handle (.ofObject object)
  return (handle, object)

def getBinding (table : HandleTable) (handle : Handle) : Except KernelError Binding :=
  match table.bindings.get? handle with
  | some binding => .ok binding
  | none => .error (.invalidHandle handle)

def getObject (table : HandleTable) (handle : Handle) : Except KernelError KernelObject :=
  (table.getBinding handle).map Binding.object

/-- The object that a handle is bound to, provided that it is of a certain type. -/
def getHandle (table : HandleTable) (expected : ObjectType) (handle : Handle) :
    Except KernelError KernelObject := do
  let object ← table.getObject handle
  if object.type = expected then return object
  else .error (.typeMismatch handle expected.kind object.type.kind)

/-- Binds a second handle to what a handle is bound to. -/
def duplicateHandle (handle : Handle) : Action HandleTable Handle := do
  let table ← .current
  let binding ← .done ((table.getBinding handle).mapError .error)
  let copy ← reserve
  bind copy binding
  return copy

/-- Deletes a binding; gives the object that it had. -/
def deleteHandle (handle : Handle) : Action HandleTable (Option KernelObject) := do
  let table ← .current
  match table.bindings.get? handle with
  | some binding =>
    .update fun table => { table with bindings := table.bindings.erase handle }
    .note (.handleDeleted binding.object.type.kind handle)
    return some binding.object
  | none =>
    .note (.absentHandleDeleted handle)
    return none

def ownersOf (address : VirtAddr) (entries : List (Handle × Binding)) : List Owner :=
  entries.filterMap fun (handle, binding) =>
    match binding.region with
    | some region =>
      if region.contains address then some ⟨handle, binding.object, region⟩ else none
    | none => none

/-- Who owns an address: of several bindings the one with the smallest handle. -/
def memoryObject (table : HandleTable) (address : VirtAddr) : Option Owner :=
  Owner.least (ownersOf address table.bindings.entries)

section Laws
variable (table : HandleTable)

theorem reserve_of_lt (h : table.next.toNat + 1 < UInt32.size) :
    reserve table = ⟨.ok table.next, { table with next := table.next + 1 }, []⟩ := by
  rw [reserve, if_pos h]

theorem reserve_of_le (h : UInt32.size ≤ table.next.toNat + 1) :
    reserve table = ⟨.error (.error .handlesExhausted), table, []⟩ := by
  rw [reserve, if_neg (Nat.not_lt.mpr h)]

theorem next_lt (h : table.next.toNat + 1 < UInt32.size) : table.next < table.next + 1 := by
  rw [UInt32.lt_iff_toNat_lt, UInt32.toNat_add]
  simp only [UInt32.size] at h
  simp only [UInt32.toNat_one]
  omega

theorem bind_apply (handle : Handle) (binding : Binding) :
    bind handle binding table =
      ⟨.ok (), { table with bindings := table.bindings.insert handle binding },
        [.handleBound binding.object.type.kind handle]⟩ := rfl

end Laws

end HandleTable

end GuestKernel
