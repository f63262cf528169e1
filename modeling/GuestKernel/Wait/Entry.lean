import GuestKernel.Object

/-!
# Entries of waiting threads

A thread that has to wait is represented by a `WaitEntry`, which has an identity of its own: the
same thread may wait many times, and two entries with equal data are still two entries. A
`WakeBoard` gives the identities out and remembers which entries have been woken. A wake is never
taken back, so one that comes before its thread looks for it is not lost.
-/

set_option autoImplicit false

namespace GuestKernel

/-- One thread waiting once. -/
structure WaitEntry where
  id : Nat
  handle : Handle
  priority : Priority
  tid : Tid
  deriving DecidableEq

def WaitEntry.ofThread (id : Nat) (thread : GuestThread) : WaitEntry :=
  ⟨id, thread.handle, thread.priority, thread.tid⟩

/-- The entries that were ever made, by number, and those of them that were woken. -/
structure WakeBoard where
  made : Nat
  woken : List Nat
  deriving DecidableEq

namespace WakeBoard

def empty : WakeBoard := ⟨0, []⟩

def isWoken (board : WakeBoard) (entry : WaitEntry) : Bool := board.woken.contains entry.id

def enter (board : WakeBoard) (thread : GuestThread) : WaitEntry × WakeBoard :=
  (.ofThread board.made thread, { board with made := board.made + 1 })

def wake (board : WakeBoard) (entry : WaitEntry) : WakeBoard :=
  { board with woken := entry.id :: board.woken }

theorem isWoken_wake (board : WakeBoard) (entry other : WaitEntry) :
    (board.wake entry).isWoken other = true ↔ other.id = entry.id ∨ board.isWoken other = true := by
  simp [wake, isWoken]

end WakeBoard

end GuestKernel
