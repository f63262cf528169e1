import Mathlib
import GuestKernel.Memory.Window
import GuestKernel.Proofs.Condition.Calls
import GuestKernel.Proofs.Wait.Accounted
import GuestKernel.Proofs.Wait.Pruned
import GuestKernel.Proofs.Wait.ServiceOrder

/-!
# Signals add up

A signal takes the first entries of the queue in the order of service and leaves the others in the
order of arrival. Two signals take what one signal of both amounts takes: `WaitQueues.popUpTo_add`
is the induction, and the amounts are numbers of 64 bits that do not overflow.
-/

set_option autoImplicit false

namespace GuestKernel

open WaitEntry

namespace GuestProcess

variable {M A F : Type} (p : GuestProcess M A F) (address : VirtAddr)

/-- A call has woken these entries, in this order, and no other one. -/
structure HasWoken (p : GuestProcess M A F) (address : VirtAddr) (woken : List WaitEntry)
    (ended : Effect (GuestProcess M A F) (List WaitEntry)) : Prop where
  answer : ended.outcome = .ok woken
  awake : ∀ e, ended.state.wakes.isWoken e = true ↔
    e.id ∈ woken.map WaitEntry.id ∨ p.wakes.isWoken e = true
  rest : ended.state.conditions.queueAt address = (p.conditions.queueAt address).diff woken
  ordered : (ended.state.conditions.queueAt address).Sublist (p.conditions.queueAt address)
  others : ∀ other, other ≠ address →
    ended.state.conditions.queueAt other = p.conditions.queueAt other
  untouched : ended.state =
    { p with conditions := ended.state.conditions, wakes := ended.state.wakes }

theorem conditionSignal_hasWoken (amount : UInt64) :
    HasWoken p address ((serviceOrder (p.conditions.queueAt address)).take amount.toNat)
      (conditionSignal address amount p) := by
  have rest := WaitQueues.queueAt_popUpTo_self amount.toNat p.conditions address
  rw [← WaitQueues.popUpTo_eq_take]
  refine ⟨rfl, ?_, rest, ?_, ?_, rfl⟩
  · exact WaitRun.isWoken_foldl_wake p.wakes _
  · rw [conditionSignal_state, rest]
    exact List.diff_sublist _ _
  · intro other elsewhere
    exact WaitQueues.queueAt_popUpTo_other amount.toNat p.conditions elsewhere

/-- Two signals do what one signal of both amounts does. -/
structure AddUp (p : GuestProcess M A F) (address : VirtAddr) (m n : UInt64) : Prop where
  woken : ∃ first second, (conditionSignal address m p).outcome = .ok first ∧
    (conditionSignal address n (conditionSignal address m p).state).outcome = .ok second ∧
    (conditionSignal address (m + n) p).outcome = .ok (first ++ second)
  state : (conditionSignal address n (conditionSignal address m p).state).state =
    (conditionSignal address (m + n) p).state

theorem conditionSignal_add {m n : UInt64} (fits : m.toNat + n.toNat < UInt64.size) :
    AddUp p address m n := by
  have sum : (m + n).toNat = m.toNat + n.toNat := by
    rw [UInt64.toNat_add]
    exact Nat.mod_eq_of_lt fits
  have split := WaitQueues.popUpTo_add m.toNat n.toNat p.conditions address
  rw [← sum] at split
  refine ⟨⟨_, _, rfl, rfl, ?_⟩, ?_⟩
  · rw [conditionSignal_outcome, split]
    rfl
  · rw [conditionSignal_state p address (m + n), split, List.foldl_append]
    rfl

/-- Whoever waits is woken, so that the address has no queue any more. -/
structure Drained (p : GuestProcess M A F) (address : VirtAddr)
    (ended : Effect (GuestProcess M A F) (List WaitEntry)) : Prop where
  woken : ended.outcome = .ok (serviceOrder (p.conditions.queueAt address))
  nobody : ended.state.conditions.queueAt address = []
  unstored : p.Pruned → ended.state.conditions.queues.get? address = none

theorem conditionSignalAll_drains (fits : p.conditions.waiters address < UInt64.size) :
    Drained p address (conditionSignal address conditionSignalAll p) := by
  have enough : p.conditions.waiters address ≤ conditionSignalAll.toNat := Nat.le_of_lt_succ fits
  have nobody := WaitQueues.queueAt_popUpTo_of_enough enough
  refine ⟨?_, nobody, ?_⟩
  · rw [(conditionSignal_hasWoken p address conditionSignalAll).answer, List.take_of_length_le]
    rw [length_serviceOrder]
    exact enough
  · intro pruned
    have kept := pruned.conditions.popUpTo conditionSignalAll.toNat address
    exact kept.get?_eq_none_iff.mpr nobody

structure SignalLaws (p : GuestProcess M A F) (address : VirtAddr) : Prop where
  one : ∀ amount : UInt64,
    HasWoken p address ((serviceOrder (p.conditions.queueAt address)).take amount.toNat)
      (conditionSignal address amount p)
  count : ∀ amount : UInt64,
    ((serviceOrder (p.conditions.queueAt address)).take amount.toNat).length =
      min amount.toNat (p.conditions.waiters address)
  two : ∀ m n : UInt64, m.toNat + n.toNat < UInt64.size → AddUp p address m n
  /-- A number of threads fits into 64 bits. -/
  all : p.conditions.waiters address < UInt64.size →
    Drained p address (conditionSignal address conditionSignalAll p)

/-- Signals add up, and each wakes the first of the order of service and leaves the others. -/
theorem signalLaws (p : GuestProcess M A F) (address : VirtAddr) : SignalLaws p address where
  one := conditionSignal_hasWoken p address
  count amount := by rw [List.length_take, length_serviceOrder, WaitQueues.waiters]
  two _ _ := conditionSignal_add p address
  all := conditionSignalAll_drains p address

end GuestProcess

namespace WaitRun

open GuestProcess

/-- Three threads wait, and the one with the highest priority arrived last. -/
theorem signalLaws_of_three : ∃ s : WaitRun Window Unit Unit, Reachable s ∧
    s.process.conditions.queueAt 0x10 = [⟨0, 6, 1, 101⟩, ⟨1, 7, 1, 102⟩, ⟨2, 8, 5, 103⟩] ∧
    HasWoken s.process 0x10 [⟨2, 8, 5, 103⟩, ⟨0, 6, 1, 101⟩]
      (conditionSignal 0x10 2 s.process) ∧
    AddUp s.process 0x10 1 1 ∧
    Drained s.process 0x10 (conditionSignal 0x10 conditionSignalAll s.process) ∧
    (conditionSignal 0x10 conditionSignalAll s.process).state.conditions.queues.get? 0x10 =
      none := by
  have first := Reachable.start 0 {} (Window.new 0x1000 0x1000) () ()
  have second := first.step (.wait _ 0x10 ⟨6, 1, 101, 0⟩)
  have third := second.step (.wait _ 0x10 ⟨7, 1, 102, 0⟩)
  have waiting := third.step (.wait _ 0x10 ⟨8, 5, 103, 0⟩)
  refine ⟨_, waiting, rfl, ?two, ?sum, ?all, ?none⟩
  case two =>
    convert (signalLaws _ 0x10).one 2 using 1
    rw [← WaitQueues.popUpTo_eq_take]
    rfl
  case sum => exact (signalLaws _ 0x10).two 1 1 (by decide)
  case all => exact (signalLaws _ 0x10).all (by decide)
  case none => exact ((signalLaws _ 0x10).all (by decide)).unstored waiting.pruned

end WaitRun

end GuestKernel
