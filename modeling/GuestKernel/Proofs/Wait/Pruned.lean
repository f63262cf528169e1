import Mathlib
import GuestKernel.Proofs.Condition.Calls
import GuestKernel.Proofs.Mutex.Calls
import GuestKernel.Proofs.Wait.Run

/-!
# Addresses without a queue

An address at which nobody waits has no queue: no run stores an empty one. Each change of the queues
goes through `setQueue`, and `Pruned.setQueue` is the step.
-/

set_option autoImplicit false

namespace GuestKernel

namespace WaitQueues

variable {q : WaitQueues} {address : VirtAddr}

theorem get?_setQueue_other {other : VirtAddr} (queue : List WaitEntry) (apart : other ≠ address) :
    (q.setQueue address queue).queues.get? other = q.queues.get? other := by
  rw [WaitQueues.setQueue]
  split
  · rw [FiniteMap.get?_erase, if_neg apart]
  · rw [FiniteMap.get?_insert, if_neg apart]

/-- No address has an empty queue. -/
def Pruned (q : WaitQueues) : Prop := ∀ address, q.queues.get? address ≠ some []

theorem pruned_empty : Pruned empty := by
  intro address stored
  cases stored

theorem Pruned.setQueue (h : q.Pruned) (address : VirtAddr) (queue : List WaitEntry) :
    (q.setQueue address queue).Pruned := by
  intro other
  unfold WaitQueues.setQueue
  split
  · rw [FiniteMap.get?_erase]
    split
    · simp
    · exact h other
  · rename_i waited
    rw [FiniteMap.get?_insert]
    split
    · simpa using waited
    · exact h other

theorem Pruned.get?_eq_none_iff (h : q.Pruned) :
    q.queues.get? address = none ↔ q.queueAt address = [] := by
  rw [queueAt]
  cases stored : q.queues.get? address with
  | none => simp
  | some queue =>
    have waited : queue ≠ [] := by
      rintro rfl
      exact h address stored
    simpa using waited

/-- An address has a queue exactly while somebody waits there. -/
theorem Pruned.stored_iff (h : q.Pruned) :
    q.queues.get? address ≠ none ↔ 0 < q.waiters address := by
  rw [Ne, h.get?_eq_none_iff, waiters, List.length_pos_iff]

theorem Pruned.exists_next {queue : List WaitEntry} (h : q.Pruned)
    (stored : q.queues.get? address = some queue) :
    ∃ entry rest, q.peekNext address = some entry ∧ q.popNext address = some (entry, rest) := by
  rcases q.nobody_or_selected address with nobody | ⟨before, entry, after, cut⟩
  · rw [h.get?_eq_none_iff.mpr nobody] at stored
    cases stored
  · exact ⟨entry, _, peekNext_of_selected cut, popNext_of_selected cut⟩

theorem Pruned.popUpTo (h : q.Pruned) (amount : Nat) (address : VirtAddr) :
    (WaitQueues.popUpTo amount q address).2.Pruned := by
  induction amount generalizing q with
  | zero => exact h
  | succ amount ih =>
    rcases q.nobody_or_selected address with nobody | ⟨before, entry, after, cut⟩
    · rw [popUpTo_of_nobody nobody]
      exact h
    · rw [popUpTo_of_selected cut]
      exact ih (h.setQueue address _)

theorem Pruned.remove (h : q.Pruned) (address : VirtAddr) (entry : WaitEntry) :
    ((q.remove address entry).getD q).Pruned := by
  rw [WaitQueues.remove]
  cases (q.queueAt address).findIdx? fun e => e.id == entry.id with
  | none => exact h
  | some i => exact h.setQueue address _

end WaitQueues

namespace GuestProcess

structure Pruned {M A F : Type} (p : GuestProcess M A F) : Prop where
  mutexes : p.mutexes.Pruned
  conditions : p.conditions.Pruned

variable {M A F : Type} {p : GuestProcess M A F}

theorem Pruned.of_same {q : GuestProcess M A F} (h : p.Pruned) (same : SameWaits p q) :
    q.Pruned :=
  ⟨same.mutexes ▸ h.mutexes, same.conditions ▸ h.conditions⟩

theorem Pruned.mutexLock [MemoryChannel M] (h : p.Pruned) (address : VirtAddr) (owner : Handle)
    (insist : Bool) (thread : GuestThread) :
    (GuestProcess.mutexLock address owner insist thread p).state.Pruned := by
  have exit := mutexLock_exit p address owner insist thread
  generalize (GuestProcess.mutexLock address owner insist thread p).outcome = outcome,
    (GuestProcess.mutexLock address owner insist thread p).state = q at exit ⊢
  cases exit with
  | queued => exact ⟨h.mutexes.setQueue address _, h.conditions⟩
  | _ => exact h.of_same ⟨rfl, rfl, rfl⟩

theorem Pruned.mutexUnlock [MemoryChannel M] (h : p.Pruned) (address : VirtAddr) :
    (GuestProcess.mutexUnlock address p).state.Pruned := by
  have exit := mutexUnlock_exit p address
  generalize (GuestProcess.mutexUnlock address p).outcome = outcome,
    (GuestProcess.mutexUnlock address p).state = q at exit ⊢
  cases exit with
  | handed => exact ⟨h.mutexes.remove address _, h.conditions⟩
  | _ => exact h.of_same ⟨rfl, rfl, rfl⟩

theorem Pruned.conditionTimeout (h : p.Pruned) (address : VirtAddr) (entry : WaitEntry) :
    (GuestProcess.conditionTimeout address entry p).state.Pruned := by
  cases woken : p.wakes.isWoken entry with
  | true =>
    rw [conditionTimeout_of_woken address woken]
    exact h
  | false =>
    simp only [GuestProcess.conditionTimeout, Action.bind_apply, Action.current_apply,
      Action.andThen_ok, woken]
    exact ⟨h.mutexes, h.conditions.remove address entry⟩

end GuestProcess

namespace WaitRun

open GuestProcess

variable {M A F : Type} [MemoryChannel M]

theorem Step.pruned {s t : WaitRun M A F} (step : Step s t) (h : s.process.Pruned) :
    t.process.Pruned := by
  cases step with
  | lock address owner insist thread => exact h.mutexLock address owner insist thread
  | unlock address => exact h.mutexUnlock address
  | wait address thread => exact ⟨h.mutexes, h.conditions.setQueue address _⟩
  | signal address amount => exact ⟨h.mutexes, h.conditions.popUpTo amount.toNat address⟩
  | timeout address entry => exact h.conditionTimeout address entry
  | wake => exact h
  | guest => exact h.of_same ⟨rfl, rfl, rfl⟩
  | other call keeps => exact h.of_same (keeps s.process)

theorem Reachable.pruned {s : WaitRun M A F} (reachable : Reachable s) : s.process.Pruned := by
  induction reachable with
  | start => exact ⟨WaitQueues.pruned_empty, WaitQueues.pruned_empty⟩
  | step _ step ih => exact step.pruned ih

end WaitRun

end GuestKernel
