import Mathlib
import GuestKernel.Proofs.Mutex.Failure
import GuestKernel.Proofs.Mutex.TagUpdate

/-!
# The bit of the waiters

The guest may leave any tag at the address of a mutex. Still, each call that takes the mutex, queues
its thread or unlocks leaves the bit of the waiters set if and only if threads are queued there. All
other calls leave tag and queue as they are (`mutexLock_settles`, `mutexUnlock_settles`), so that bit
and queue agree until the guest writes to the tag again.
-/

set_option autoImplicit false

namespace GuestKernel

open GuestMemory

namespace GuestProcess

variable {M A F : Type} [ByteChannel M] {p q : GuestProcess M A F} {address : VirtAddr}
variable {owner : Handle} {insist : Bool} {thread : GuestThread}

/-- The bit of the waiters says whether threads are queued. -/
def InSync (p : GuestProcess M A F) (address : VirtAddr) : Prop :=
  wordAt p.channel address &&& mutexWaitersBit ≠ 0 ↔ p.mutexes.queueAt address ≠ []

structure SameMutex (address : VirtAddr) (p q : GuestProcess M A F) : Prop where
  tag : wordAt q.channel address = wordAt p.channel address
  queue : q.mutexes.queueAt address = p.mutexes.queueAt address

theorem InSync.of_same (sync : InSync p address) (same : SameMutex address p q) :
    InSync q address := by
  rw [InSync, same.tag, same.queue]
  exact sync

theorem sameMutex_of_traceless {α : Type} {ended : Effect (GuestProcess M A F) α}
    (traceless : Traceless p address ended) : SameMutex address p ended.state := by
  refine ⟨wordAt_congr traceless.bytes, ?_⟩
  rw [traceless.process]

theorem LockDone.inSync {answer : LockOutcome}
    (done : LockDone p address owner insist thread answer q)
    (passed : insist = true ∨ wordAt p.channel address &&& mutexOwnerMask = owner) :
    InSync q address := by
  cases done with
  | turnedAway asked other => exact absurd ⟨asked, other⟩ (not_away passed)
  | taken _ _ tag =>
    rw [InSync, tag, takingTag, ownedTag_and_bit_ne_zero_iff, decide_eq_true_iff,
      WaitQueues.waiters, List.length_pos_iff]
  | queued _ _ tag =>
    have longer : p.mutexes.queueAt address ++ [WaitEntry.ofThread p.wakes.made thread] ≠ [] := by
      simp
    rw [InSync, withQueued, tag, or_bit_and_bit, WaitQueues.queueAt_setQueue_self]
    exact iff_of_true mutexWaitersBit_ne_zero longer

theorem UnlockDone.inSync {answer : Option WaitEntry} (done : UnlockDone p address answer q) :
    InSync q address := by
  cases done with
  | cleared nobody tag => simp [InSync, tag, nobody]
  | @handed c entry queued tag =>
    -- the bit was computed before the entry left, so it speaks of more than one
    have fewer := WaitQueues.waiters_remove_of_mem queued
    rw [InSync, tag, ownedTag_and_bit_ne_zero_iff, decide_eq_true_iff, ← List.length_pos_iff]
    change 1 < p.mutexes.waiters address ↔
      0 < ((p.mutexes.remove address entry).getD p.mutexes).waiters address
    omega

theorem mutexLock_settles (p : GuestProcess M A F) (address : VirtAddr) (owner : Handle)
    (insist : Bool) (thread : GuestThread) :
    SameMutex address p (mutexLock address owner insist thread p).state ∨
      InSync (mutexLock address owner insist thread p).state address := by
  cases outcome : (mutexLock address owner insist thread p).outcome with
  | error fault => exact .inl (sameMutex_of_traceless (mutexLock_traceless outcome))
  | ok answer =>
    have done := mutexLock_done outcome
    by_cases passed : insist = true ∨ wordAt p.channel address &&& mutexOwnerMask = owner
    · exact .inr (done.inSync passed)
    · generalize (mutexLock address owner insist thread p).state = q at done ⊢
      cases done with
      | turnedAway _ _ kept => exact .inl ⟨wordAt_congr kept, rfl⟩
      | taken _ through | queued _ through => exact absurd through passed

theorem mutexUnlock_settles (p : GuestProcess M A F) (address : VirtAddr) :
    SameMutex address p (mutexUnlock address p).state ∨
      InSync (mutexUnlock address p).state address := by
  cases outcome : (mutexUnlock address p).outcome with
  | error fault => exact .inl (sameMutex_of_traceless (mutexUnlock_traceless outcome))
  | ok answer => exact .inr (mutexUnlock_done outcome).inSync

theorem inSync_of_settles (sync : InSync p address)
    (settles : SameMutex address p q ∨ InSync q address) : InSync q address := by
  rcases settles with same | synced
  · exact sync.of_same same
  · exact synced

/-- The process after calls on the mutex at an address, and others that leave its tag and its queue
as they are. -/
inductive MutexUse (address : VirtAddr) (p : GuestProcess M A F) : GuestProcess M A F → Prop where
  | start : MutexUse address p p
  | lock {q : GuestProcess M A F} (before : MutexUse address p q) (owner : Handle) (insist : Bool)
      (thread : GuestThread) : MutexUse address p (mutexLock address owner insist thread q).state
  | unlock {q : GuestProcess M A F} (before : MutexUse address p q) :
      MutexUse address p (mutexUnlock address q).state
  | elsewhere {q r : GuestProcess M A F} (before : MutexUse address p q)
      (same : SameMutex address q r) : MutexUse address p r

theorem MutexUse.inSync (run : MutexUse address p q) (sync : InSync p address) :
    InSync q address := by
  induction run with
  | start => exact sync
  | lock before owner insist thread ih =>
    exact inSync_of_settles ih (mutexLock_settles _ address owner insist thread)
  | unlock before ih => exact inSync_of_settles ih (mutexUnlock_settles _ address)
  | elsewhere before same ih => exact ih.of_same same

structure Resynchronises (p : GuestProcess M A F) (address : VirtAddr) : Prop where
  answers : Accessible p.channel address →
    (∀ owner insist thread, ∃ answer,
      (mutexLock address owner insist thread p).outcome = .ok answer) ∧
    ∃ answer, (mutexUnlock address p).outcome = .ok answer
  /-- A call that finds another owner changes neither memory nor queues. -/
  turnedAway : ∀ owner thread answer, wordAt p.channel address &&& mutexOwnerMask ≠ owner →
    (mutexLock address owner false thread p).outcome = .ok answer →
    answer = .returned ∧
      ByteChannel.byteAt (mutexLock address owner false thread p).state.channel =
        ByteChannel.byteAt p.channel ∧
      (mutexLock address owner false thread p).state.mutexes = p.mutexes
  locked : ∀ owner insist thread answer,
    insist = true ∨ wordAt p.channel address &&& mutexOwnerMask = owner →
    (mutexLock address owner insist thread p).outcome = .ok answer →
    InSync (mutexLock address owner insist thread p).state address
  unlocked : ∀ answer, (mutexUnlock address p).outcome = .ok answer →
    InSync (mutexUnlock address p).state address
  lasting : InSync p address → ∀ q, MutexUse address p q → InSync q address

theorem unchanged_of_turnedAway {answer : LockOutcome}
    (done : LockDone p address owner false thread answer q)
    (other : wordAt p.channel address &&& mutexOwnerMask ≠ owner) :
    answer = .returned ∧ ByteChannel.byteAt q.channel = ByteChannel.byteAt p.channel ∧
      q.mutexes = p.mutexes := by
  cases done with
  | turnedAway _ _ kept => exact ⟨rfl, kept, rfl⟩
  | taken _ passed | queued _ passed => exact absurd ⟨rfl, other⟩ (not_away passed)

/-- Whatever tag the guest has left, each call on a mutex puts the bit of the waiters right. -/
theorem resynchronises (p : GuestProcess M A F) (address : VirtAddr) :
    Resynchronises p address where
  answers accessible := ⟨mutexLock_answers accessible, mutexUnlock_answers accessible⟩
  turnedAway _ _ _ other ok := unchanged_of_turnedAway (mutexLock_done ok) other
  locked _ _ _ _ passed ok := (mutexLock_done ok).inSync passed
  unlocked _ ok := (mutexUnlock_done ok).inSync
  lasting sync _ run := run.inSync sync

end GuestProcess

namespace ProcessRun

open GuestProcess

/-- The guest has cleared the bit although a thread is queued, and either call puts it right. -/
theorem resynchronises_cleared_bit :
    ∃ s : ProcessRun Window ScriptedAllocator ScriptedFactory, Reachable {} s ∧
      ¬ InSync s.process 0x1000 ∧
      InSync (mutexLock 0x1000 5 false ⟨7, 1, 102, 0⟩ s.process).state 0x1000 ∧
      InSync (mutexUnlock 0x1000 s.process).state 0x1000 := by
  have fresh : Reachable {} _ :=
    .start 0 (Window.new 0x1000 0x1000) ScriptedAllocator.new ScriptedFactory.new
  have owned := fresh.call (.mutexLock 0x1000 0 true ⟨5, 1, 100, 0⟩)
  have queued := owned.call (.mutexLock 0x1000 5 false ⟨6, 1, 101, 0⟩)
  have cleared := queued.call (.access (writeValue 0x1000 (5 : UInt32)))
  refine ⟨_, cleared, ?stale, ?locked, ?unlocked⟩
  case stale =>
    intro sync
    exact absurd (sync.mpr (by decide)) (by decide)
  case locked =>
    exact (resynchronises _ 0x1000).locked 5 false ⟨7, 1, 102, 0⟩ (.queued ⟨1, 7, 1, 102⟩)
      (.inr (by decide)) (by decide)
  case unlocked => exact (resynchronises _ 0x1000).unlocked (some ⟨0, 6, 1, 101⟩) (by decide)

end ProcessRun

end GuestKernel
