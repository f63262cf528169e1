import Mathlib
import GuestKernel.Proofs.Condition.Calls
import GuestKernel.Proofs.Mutex.Calls
import GuestKernel.Proofs.Wait.Accounted
import GuestKernel.Proofs.Wait.CallHistory

/-!
# Two ways of taking the next entry

A mutex looks at the entry that is served next and then removes it by identity; a condition variable
takes it by position. An entry that is queued several times could make a difference: the removal
ends at its first occurrence. That one is also the occurrence that is served next, because whatever
stands before the latter has a lower priority (`remove_of_selected`).
-/

set_option autoImplicit false

namespace GuestKernel

open GuestProcess WaitEntry

namespace WaitQueues

variable {q : WaitQueues} {address : VirtAddr} {entry : WaitEntry} {before after : List WaitEntry}

/-- The entries at an address are told apart by their numbers. -/
def Identified (q : WaitQueues) (address : VirtAddr) : Prop :=
  ∀ x ∈ q.queueAt address, ∀ y ∈ q.queueAt address, x.id = y.id → x = y

theorem identified_of_distinct (h : Distinct (q.queueAt address)) : q.Identified address :=
  fun _ first _ second same => List.inj_on_of_nodup_map h first second same

/-- Removal by identity finds the occurrence that is served next. -/
theorem remove_of_selected (identified : q.Identified address)
    (cut : Selected (q.queueAt address) before entry after) :
    q.remove address entry = some (q.setQueue address (before ++ after)) := by
  apply remove_of_split cut.split
  intro e front same
  have queued : e ∈ q.queueAt address := by
    rw [cut.split]
    exact List.mem_append_left _ front
  exact cut.first (identified e queued entry cut.mem same ▸ front)

/-- Both ways of taking the next entry at an address agree. -/
structure TakesAlike (q : WaitQueues) (address : VirtAddr) : Prop where
  /-- What is seen to be next can be removed, and that gives what taking it gives. -/
  served : ∀ entry, q.peekNext address = some entry →
    ∃ rest, q.remove address entry = some rest ∧ q.popNext address = some (entry, rest)
  found : q.queueAt address ≠ [] → ∃ entry, q.peekNext address = some entry
  nothing : q.queueAt address = [] →
    q.peekNext address = none ∧ q.popNext address = none ∧
    (QueueCall.popNext address).rest q = q ∧ ∀ entry, q.remove address entry = none
  /-- Unlocking a mutex wakes whom one signal wakes, and leaves the same queues. -/
  handover : ∀ {M A F N B G : Type} [MemoryChannel M] (p : GuestProcess M A F)
    (c : GuestProcess N B G), p.mutexes = q → c.conditions = q →
    ∀ woken, (mutexUnlock address p).outcome = .ok woken →
      (conditionSignal address 1 c).outcome = .ok woken.toList ∧
      (conditionSignal address 1 c).state.conditions = (mutexUnlock address p).state.mutexes

theorem takesAlike_of_identified (identified : q.Identified address) : TakesAlike q address := by
  refine ⟨?served, ?found, ?nothing, ?handover⟩
  case served =>
    intro entry next
    obtain ⟨before, after, cut⟩ := selected_of_peekNext next
    exact ⟨_, remove_of_selected identified cut, popNext_of_selected cut⟩
  case found =>
    intro waits
    rcases q.nobody_or_selected address with nobody | ⟨_, entry, _, cut⟩
    · exact absurd nobody waits
    · exact ⟨entry, peekNext_of_selected cut⟩
  case nothing =>
    intro nobody
    have none := popNext_eq_none_iff.mpr nobody
    refine ⟨peekNext_eq_none_iff.mpr nobody, none, ?_, fun entry => ?_⟩
    · rw [QueueCall.rest, none]
      rfl
    · rw [remove_eq_none_iff, nobody]
      exact fun e mem => absurd mem List.not_mem_nil
  case handover =>
    intro M A F N B G _ p c mutexes conditions woken answer
    have once : (1 : UInt64).toNat = 0 + 1 := rfl
    rw [conditionSignal_outcome, conditionSignal_state, conditions, once]
    have exit := mutexUnlock_exit p address
    rw [answer] at exit
    generalize (mutexUnlock address p).state = left at exit ⊢
    cases exit with
    | cleared nobody =>
      rw [mutexes] at nobody
      rw [popUpTo_of_nobody nobody]
      exact ⟨rfl, mutexes.symm⟩
    | handed cut =>
      rw [mutexes] at cut
      rw [popUpTo_of_selected cut, mutexes, remove_of_selected identified cut]
      exact ⟨rfl, rfl⟩

end WaitQueues

namespace WaitRun

variable {M A F : Type} [MemoryChannel M] {s : WaitRun M A F}

/-- In a process both ways agree, for the mutexes and for the condition variables. -/
theorem Reachable.queues_takeAlike (h : Reachable s) (address : VirtAddr) :
    s.process.mutexes.TakesAlike address ∧ s.process.conditions.TakesAlike address := by
  have mutexes : s.process.mutexes.Identified address :=
    WaitQueues.identified_of_distinct (h.accounted.distinct (.mutex address))
  have conditions : s.process.conditions.Identified address :=
    WaitQueues.identified_of_distinct (h.accounted.distinct (.condition address))
  exact ⟨WaitQueues.takesAlike_of_identified mutexes, WaitQueues.takesAlike_of_identified conditions⟩

end WaitRun

namespace QueueHistory

variable {s : QueueHistory}

/-- In every history looking at the next entry and removing it is taking it. -/
theorem Reachable.takes_alike (h : Reachable s) (address : VirtAddr) :
    s.queues.TakesAlike address := by
  apply WaitQueues.takesAlike_of_identified
  intro x first y second same
  exact h.identified (h.queued_made address y second) (h.queued_made address x first) same

/-- The second entry is queued twice at one address and once more at another. -/
def repeatedCalls : List QueueCall :=
  [.push 0x2000 ⟨0, 16, 20, 1⟩, .push 0x2000 ⟨1, 32, 44, 2⟩, .push 0x2000 ⟨2, 32, 44, 2⟩,
    .push 0x3000 ⟨1, 32, 44, 2⟩, .push 0x2000 ⟨1, 32, 44, 2⟩]

def repeated : QueueHistory := repeatedCalls.foldl QueueHistory.after threeMade

theorem takes_alike_with_repeats : Reachable repeated ∧ repeated.queues.TakesAlike 0x2000 ∧
    repeated.queues.peekNext 0x2000 = some ⟨1, 32, 44, 2⟩ ∧
    ((repeated.queues.remove 0x2000 ⟨1, 32, 44, 2⟩).map fun rest => rest.queueAt 0x2000) =
      some [⟨0, 16, 20, 1⟩, ⟨2, 32, 44, 2⟩, ⟨1, 32, 44, 2⟩] ∧
    ((repeated.queues.popNext 0x2000).map fun taken => taken.2.queueAt 0x2000) =
      some [⟨0, 16, 20, 1⟩, ⟨2, 32, 44, 2⟩, ⟨1, 32, 44, 2⟩] := by
  have reachable : Reachable repeated := threeMade_reachable.calls repeatedCalls (by decide)
  exact ⟨reachable, reachable.takes_alike 0x2000, by decide, by decide, by decide⟩

end QueueHistory

end GuestKernel
