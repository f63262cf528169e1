import GuestKernel.HandleTable.Basic

/-!
# Programs that use a handle table

A `TableCall` is one call of the public operations of a handle table. A `TableProgram` makes such
calls one after the other and may choose the next one by the answers it got; `run` runs it. This is
all that someone without another way to the table can do with it: the counter and the bindings
change by calls alone.

Giving out a handle without binding it is NOT a call: only the kernel does that.
-/

set_option autoImplicit false

namespace GuestKernel

inductive TableCall where
  | newHandle (build : Handle → Except KernelError KernelObject)
  | insertItem (object : KernelObject)
  | insertMemory (memory : MemoryObject)
  | duplicateHandle (handle : Handle)
  | deleteHandle (handle : Handle)
  | getObject (handle : Handle)
  | getHandle (expected : ObjectType) (handle : Handle)
  | memoryObject (address : VirtAddr)

namespace TableCall

def Answer : TableCall → Type
  | newHandle _ => Handle × KernelObject
  | insertItem _ | insertMemory _ | duplicateHandle _ => Handle
  | deleteHandle _ => Option KernelObject
  | getObject _ | getHandle _ _ => KernelObject
  | memoryObject _ => Option Owner

def perform : (call : TableCall) → Action HandleTable call.Answer
  | newHandle build => HandleTable.newHandle build
  | insertItem object => HandleTable.insertItem object
  | insertMemory memory => HandleTable.insertMemory memory
  | duplicateHandle handle => HandleTable.duplicateHandle handle
  | deleteHandle handle => HandleTable.deleteHandle handle
  | getObject handle => .ask fun table => (table.getObject handle).mapError .error
  | getHandle expected handle =>
    .ask fun table => (table.getHandle expected handle).mapError .error
  | memoryObject address => .ask fun table => .ok (table.memoryObject address)

end TableCall

/-- Calls of a handle table that end with an `α`. -/
inductive TableProgram (α : Type) where
  | done (value : α)
  | call (call : TableCall) (next : Except Fault call.Answer → TableProgram α)

namespace TableProgram

variable {α : Type}

/-- Runs a program; a call that faults is an answer like any other. -/
def run : TableProgram α → Action HandleTable α
  | done value => pure value
  | call c next => do
    let answer ← .attempt c.perform
    run (next answer)

end TableProgram

end GuestKernel
