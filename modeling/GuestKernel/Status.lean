/-!
# Life-cycle statuses of a process

A process is created, started and torn down, in this order. `ProcessStatus.next?` is the only
move that a status allows, and `rank_next?` says that it is one step upwards.
-/

set_option autoImplicit false

namespace GuestKernel

inductive ProcessStatus where
  | created
  | started
  | exiting
  deriving DecidableEq

namespace ProcessStatus

/-- The name that messages and log records use. -/
def name : ProcessStatus → String
  | created => "Created"
  | started => "Started"
  | exiting => "Exiting"

/-- How many moves lie before the status. -/
def rank : ProcessStatus → Nat
  | created => 0
  | started => 1
  | exiting => 2

instance : Ord ProcessStatus := ⟨fun a b => compare a.rank b.rank⟩

/-- The only status that this one may move to. -/
def next? : ProcessStatus → Option ProcessStatus
  | created => some started
  | started => some exiting
  | exiting => none

theorem rank_next? {a b : ProcessStatus} (h : a.next? = some b) : b.rank = a.rank + 1 := by
  cases a <;> cases h <;> rfl

theorem rank_injective {a b : ProcessStatus} (h : a.rank = b.rank) : a = b := by
  cases a <;> cases b <;> first | rfl | cases h

end ProcessStatus

end GuestKernel
