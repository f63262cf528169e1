import Mathlib
import GuestKernel.Proofs.Condition.Calls
import GuestKernel.Proofs.Wait.Erasure
import GuestKernel.Proofs.Wait.Accounted

/-!
# Two processes, one of which an entry never came to

`LacksWait x p q` says that the waiting threads of `q` are those of `p` without the entry `x`. A call
on a condition variable that does not concern `x` keeps it so when both processes get it; the arrival
of `x` and the end of its wait keep it so when only the first one does.
-/

set_option autoImplicit false

namespace GuestKernel

namespace GuestProcess

open WaitQueues

variable {M A F : Type}

/-- The threads that wait in `q` and the wakes of `q` are those of `p`, had `x` never come. -/
structure LacksWait (x : WaitEntry) (p q : GuestProcess M A F) : Prop where
  made : q.wakes.made = closeGap x.id p.wakes.made
  woken : q.wakes.woken = p.wakes.woken.map (closeGap x.id)
  asleep : x.id ∉ p.wakes.woken
  mutexes : Lack x p.mutexes q.mutexes
  conditions : Lack x p.conditions q.conditions

namespace LacksWait

variable {x e : WaitEntry} {p q : GuestProcess M A F} {address : VirtAddr}

theorem queueOf (h : LacksWait x p q) (place : WaitPlace) :
    q.queueOf place = x.without (p.queueOf place) := by
  cases place with
  | mutex address => exact h.mutexes address
  | condition address => exact h.conditions address

theorem isWoken (h : LacksWait x p q) (other : e.id ≠ x.id) :
    q.wakes.isWoken (x.renumbered e) = p.wakes.isWoken e := by
  rw [Bool.eq_iff_iff, WakeBoard.isWoken, WakeBoard.isWoken, List.contains_iff_mem,
    List.contains_iff_mem, h.woken, List.mem_map]
  constructor
  · rintro ⟨id, mem, same⟩
    have apart : id ≠ x.id := fun here => h.asleep (here ▸ mem)
    exact (closeGap_inj apart other).mp same ▸ mem
  · intro mem
    exact ⟨e.id, mem, rfl⟩

theorem isWoken_self (h : LacksWait x p q) : p.wakes.isWoken x = false := by
  rw [← Bool.not_eq_true, WakeBoard.isWoken, List.contains_iff_mem]
  exact h.asleep

theorem wait (h : LacksWait x p q) (address : VirtAddr) (thread : GuestThread)
    (other : p.wakes.made ≠ x.id) :
    (conditionWait address thread q).outcome =
        .ok (x.renumbered (.ofThread p.wakes.made thread)) ∧
      LacksWait x (conditionWait address thread p).state
        (conditionWait address thread q).state := by
  have entry : .ofThread q.wakes.made thread = x.renumbered (.ofThread p.wakes.made thread) := by
    rw [h.made]
    rfl
  have apart : .ofThread p.wakes.made thread ≠ x := fun same =>
    other (congrArg WaitEntry.id same)
  refine ⟨congrArg Except.ok entry, ?_, h.woken, h.asleep, h.mutexes, ?_⟩
  · change q.wakes.made + 1 = _
    rw [h.made]
    exact (closeGap_succ other).symm
  · rw [conditionWait_state, conditionWait_state]
    dsimp only
    rw [h.conditions address, entry, ← WaitEntry.without_singleton apart,
      ← WaitEntry.without_append]
    exact h.conditions.setQueue

theorem wait_self (h : LacksWait x p q) {thread : GuestThread}
    (self : .ofThread p.wakes.made thread = x) :
    LacksWait x (conditionWait address thread p).state q := by
  have number : p.wakes.made = x.id := congrArg WaitEntry.id self
  refine ⟨?_, h.woken, h.asleep, h.mutexes, ?_⟩
  · rw [h.made, number, closeGap_of_le (Nat.le_refl _)]
    change x.id = closeGap x.id (p.wakes.made + 1)
    rw [number, closeGap_succ_self]
  · intro other
    rw [conditionWait_state, h.conditions other, self]
    dsimp only
    rw [queueAt_setQueue]
    split
    · rename_i here
      rw [here, WaitEntry.without_append, WaitEntry.without_singleton_self, List.append_nil]
    · rfl

/-- A signal that does not serve `x` serves the same entries without it. -/
theorem signal (h : LacksWait x p q) (amount : UInt64)
    (spared : ∀ e ∈ (p.conditions.popUpTo amount.toNat address).1, e.id ≠ x.id) :
    (conditionSignal address amount q).outcome =
        .ok ((p.conditions.popUpTo amount.toNat address).1.map x.renumbered) ∧
      LacksWait x (conditionSignal address amount p).state
        (conditionSignal address amount q).state := by
  obtain ⟨taken, left⟩ := popUpTo_without h.conditions amount.toNat
    fun mem : x ∈ (p.conditions.popUpTo amount.toNat address).1 => spared x mem rfl
  refine ⟨congrArg Except.ok taken, ?_, ?_, ?_, h.mutexes, left⟩
  · rw [conditionSignal_state, conditionSignal_state]
    dsimp only
    rw [WaitRun.made_foldl_wake, WaitRun.made_foldl_wake]
    exact h.made
  · rw [conditionSignal_state, conditionSignal_state]
    dsimp only
    rw [WaitRun.woken_foldl_wake, WaitRun.woken_foldl_wake, taken, h.woken, List.map_append,
      List.map_reverse, List.map_map, List.map_map]
    rfl
  · rw [conditionSignal_state]
    dsimp only
    rw [WaitRun.woken_foldl_wake, List.mem_append, not_or, List.mem_reverse, List.mem_map]
    refine ⟨?_, h.asleep⟩
    rintro ⟨e, mem, same⟩
    exact spared e mem same

theorem timeout (h : LacksWait x p q) (address : VirtAddr) (other : e.id ≠ x.id)
    (others : ∀ e' ∈ p.conditions.queueAt address, e'.id = x.id → e' = x)
    (distinct : Distinct (p.conditions.queueAt address))
    (distinct' : Distinct (q.conditions.queueAt address))
    (queued : p.wakes.isWoken e = false → e ∈ p.conditions.queueAt address) :
    (conditionTimeout address (x.renumbered e) q).outcome =
        (conditionTimeout address e p).outcome ∧
      LacksWait x (conditionTimeout address e p).state
        (conditionTimeout address (x.renumbered e) q).state := by
  have same := h.isWoken other
  cases flag : p.wakes.isWoken e with
  | true =>
    rw [flag] at same
    rw [conditionTimeout_of_woken address flag, conditionTimeout_of_woken address same]
    exact ⟨rfl, h⟩
  | false =>
    rw [flag] at same
    have mem := queued flag
    have mem' : x.renumbered e ∈ q.conditions.queueAt address := by
      rw [h.conditions address]
      exact WaitEntry.mem_without.mpr ⟨e, mem, fun here => other (congrArg WaitEntry.id here), rfl⟩
    obtain ⟨outcome, state⟩ := conditionTimeout_of_asleep address flag distinct mem
    obtain ⟨outcome', state'⟩ := conditionTimeout_of_asleep address same distinct' mem'
    rw [outcome, outcome', state, state']
    refine ⟨rfl, h.made, h.woken, h.asleep, h.mutexes, ?_⟩
    rw [h.conditions address, ← WaitEntry.without_remaining other others]
    exact h.conditions.setQueue

/-- When the wait of `x` runs out it leaves what the other process is already. -/
theorem timeout_self (h : LacksWait x p q) (distinct : Distinct (p.conditions.queueAt address))
    (queued : x ∈ p.conditions.queueAt address) :
    LacksWait x (conditionTimeout address x p).state q := by
  obtain ⟨_, state⟩ := conditionTimeout_of_asleep address h.isWoken_self distinct queued
  rw [state]
  refine ⟨h.made, h.woken, h.asleep, h.mutexes, fun other => ?_⟩
  rw [h.conditions other, queueAt_setQueue]
  split
  · rename_i here
    rw [here, WaitEntry.without_remaining_self]
  · rfl

end LacksWait

end GuestProcess

end GuestKernel
