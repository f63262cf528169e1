import Mathlib
import GuestKernel.GuestProcess.Condition
import GuestKernel.Proofs.Wait.Removal

/-!
# What the calls on a condition variable leave

None of them touches guest memory, so none of them can fault: each has an answer and a state that
depend on the queues and the wakes alone.
-/

set_option autoImplicit false

namespace GuestKernel

namespace GuestProcess

variable {M A F : Type} (p : GuestProcess M A F) (address : VirtAddr)

theorem conditionWait_outcome (thread : GuestThread) :
    (conditionWait address thread p).outcome = .ok (.ofThread p.wakes.made thread) := rfl

theorem conditionWait_state (thread : GuestThread) :
    (conditionWait address thread p).state = { p with
      wakes := (p.wakes.enter thread).2
      conditions := p.conditions.setQueue address
        (p.conditions.queueAt address ++ [.ofThread p.wakes.made thread]) } := rfl

theorem conditionSignal_outcome (amount : UInt64) :
    (conditionSignal address amount p).outcome =
      .ok (p.conditions.popUpTo amount.toNat address).1 := rfl

theorem conditionSignal_state (amount : UInt64) :
    (conditionSignal address amount p).state = { p with
      conditions := (p.conditions.popUpTo amount.toNat address).2
      wakes := (p.conditions.popUpTo amount.toNat address).1.foldl .wake p.wakes } := rfl

variable {p} {entry : WaitEntry}

/-- A signal that came first wins over the timeout. -/
theorem conditionTimeout_of_woken (woken : p.wakes.isWoken entry = true) :
    conditionTimeout address entry p = ⟨.ok true, p, []⟩ := by
  simp only [conditionTimeout, Action.bind_apply, Action.current_apply, Action.andThen_ok, woken,
    if_true, Action.pure_apply, List.nil_append]

theorem conditionTimeout_of_asleep (asleep : p.wakes.isWoken entry = false)
    (distinct : Distinct (p.conditions.queueAt address))
    (queued : entry ∈ p.conditions.queueAt address) :
    (conditionTimeout address entry p).outcome = .ok false ∧
      (conditionTimeout address entry p).state = { p with
        conditions := p.conditions.setQueue address
          (remaining [entry] (p.conditions.queueAt address)) } := by
  have removed := WaitQueues.remove_of_mem distinct queued
  simp [conditionTimeout, asleep, removed]

end GuestProcess

end GuestKernel
