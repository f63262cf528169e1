import Mathlib
import GuestKernel.Proofs.Mutex.TagUpdate
import GuestKernel.Proofs.Process.Run
import GuestKernel.Scripted.Allocator
import GuestKernel.Scripted.Factory

/-!
# Locking a mutex without an owner

Two tags have no owner: zero, and the bit of the waiters alone. A call that is not turned away takes
a mutex with the first one at once. With the second one it queues its thread, and `Locking` runs show
that no number of calls that lock the mutex gives it an owner again.
-/

set_option autoImplicit false

namespace GuestKernel

open GuestMemory

namespace GuestProcess

variable {M A F : Type} [ByteChannel M] {p q : GuestProcess M A F} {address : VirtAddr}
variable {owner : Handle} {insist : Bool} {thread : GuestThread}

/-- A call has taken the mutex for its thread, who was not queued. -/
structure Acquires (p : GuestProcess M A F) (address : VirtAddr) (thread : GuestThread)
    (ended : Effect (GuestProcess M A F) LockOutcome) : Prop where
  returned : ended.outcome = .ok .returned
  queues : ended.state.mutexes = p.mutexes
  wakes : ended.state.wakes = p.wakes
  tag : wordAt ended.state.channel address =
    (thread.handle &&& mutexOwnerMask) |||
      (if p.mutexes.queueAt address = [] then 0 else mutexWaitersBit)
  owner : FitsTag thread.handle → Names (wordAt ended.state.channel address) thread.handle

/-- The process after any number of calls that lock the mutex at an address. -/
inductive Locking (address : VirtAddr) (p : GuestProcess M A F) : GuestProcess M A F → Prop where
  | start : Locking address p p
  | lock {q : GuestProcess M A F} (before : Locking address p q) (owner : Handle) (insist : Bool)
      (thread : GuestThread) :
      Locking address p (mutexLock address owner insist thread q).state

/-- A call has queued its thread at a mutex without an owner. -/
structure Strands (p : GuestProcess M A F) (address : VirtAddr) (thread : GuestThread)
    (ended : Effect (GuestProcess M A F) LockOutcome) : Prop where
  blocked : ended.outcome = .ok (.queued (.ofThread p.wakes.made thread))
  queue : ended.state.mutexes.queueAt address =
    p.mutexes.queueAt address ++ [.ofThread p.wakes.made thread]
  /-- The mutex stays without an owner, and nobody is woken, however often it is locked. -/
  forsaken : ∀ q, Locking address ended.state q →
    wordAt q.channel address = mutexWaitersBit ∧ q.wakes.woken = p.wakes.woken

omit [ByteChannel M] in
theorem takingTag_eq (p : GuestProcess M A F) (address : VirtAddr) (thread : GuestThread) :
    p.takingTag address thread = (thread.handle &&& mutexOwnerMask) |||
      (if p.mutexes.queueAt address = [] then 0 else mutexWaitersBit) := by
  rw [takingTag, WaitRun.ownedTag_eq, WaitQueues.waiters]
  cases p.mutexes.queueAt address with
  | nil => rfl
  | cons e rest => simp

theorem acquires_of_zero (accessible : Accessible p.channel address)
    (zero : wordAt p.channel address = 0)
    (passed : insist = true ∨ wordAt p.channel address &&& mutexOwnerMask = owner) :
    Acquires p address thread (mutexLock address owner insist thread p) := by
  obtain ⟨answer, ok⟩ := mutexLock_answers accessible owner insist thread
  have done := mutexLock_done ok
  generalize mutexLock address owner insist thread p = ended at ok done ⊢
  obtain ⟨outcome, q, log⟩ := ended
  cases done with
  | turnedAway asked other => exact absurd ⟨asked, other⟩ (not_away passed)
  | taken _ _ tag =>
    refine ⟨ok, rfl, rfl, tag.trans (takingTag_eq p address thread), ?_⟩
    intro fits
    apply (names_iff_of_field ?_).mpr fits
    rw [tag]
    exact ownedTag_and_mask _ _
  | queued owned => exact absurd zero owned

/-- No call that locks a mutex changes the tag that is the bit of the waiters alone. -/
theorem forsaken_of_lock (bare : wordAt p.channel address = mutexWaitersBit) (owner : Handle)
    (insist : Bool) (thread : GuestThread) :
    wordAt (mutexLock address owner insist thread p).state.channel address = mutexWaitersBit ∧
      (mutexLock address owner insist thread p).state.wakes.woken = p.wakes.woken := by
  have exit := mutexLock_exit p address owner insist thread
  generalize (mutexLock address owner insist thread p).outcome = outcome,
    (mutexLock address owner insist thread p).state = q at exit ⊢
  cases exit with
  | unread read | turnedAway read =>
    exact ⟨(wordAt_of_readWord read).trans bare, rfl⟩
  | untaken read write | unmarked read write =>
    exact ⟨((wordAt_of_writeWord_error write).trans (wordAt_of_readWord read)).trans bare, rfl⟩
  | taken read =>
    have zero := eq_wordAt_of_readWord read
    rw [bare] at zero
    exact absurd zero.symm mutexWaitersBit_ne_zero
  | queued read _ _ marking =>
    have found := (wordAt_of_readWord read).trans (eq_wordAt_of_readWord read).symm
    rw [← eq_wordAt_of_readWord read] at bare
    subst bare
    exact ⟨marking.wordAt found, rfl⟩

theorem Locking.forsaken (run : Locking address p q)
    (bare : wordAt p.channel address = mutexWaitersBit) :
    wordAt q.channel address = mutexWaitersBit ∧ q.wakes.woken = p.wakes.woken := by
  induction run with
  | start => exact ⟨bare, rfl⟩
  | lock before owner insist thread ih =>
    obtain ⟨still, woken⟩ := forsaken_of_lock ih.1 owner insist thread
    exact ⟨still, woken.trans ih.2⟩

theorem strands_of_bare (accessible : Accessible p.channel address)
    (bare : wordAt p.channel address = mutexWaitersBit)
    (passed : insist = true ∨ wordAt p.channel address &&& mutexOwnerMask = owner) :
    Strands p address thread (mutexLock address owner insist thread p) := by
  obtain ⟨answer, ok⟩ := mutexLock_answers accessible owner insist thread
  have done := mutexLock_done ok
  have first := forsaken_of_lock bare owner insist thread
  generalize mutexLock address owner insist thread p = ended at ok done first ⊢
  obtain ⟨outcome, q, log⟩ := ended
  cases done with
  | turnedAway asked other => exact absurd ⟨asked, other⟩ (not_away passed)
  | taken zero =>
    rw [bare] at zero
    exact absurd zero mutexWaitersBit_ne_zero
  | queued =>
    refine ⟨ok, WaitQueues.queueAt_setQueue_self _, ?_⟩
    intro q run
    obtain ⟨still, woken⟩ := run.forsaken first.1
    exact ⟨still, woken.trans first.2⟩

/-- A mutex without an owner is taken at once, unless its tag is the bit of the waiters alone. -/
theorem mutexLock_of_ownerless (accessible : Accessible p.channel address)
    (ownerless : wordAt p.channel address &&& mutexOwnerMask = 0)
    (passed : insist = true ∨ wordAt p.channel address &&& mutexOwnerMask = owner) :
    (Acquires p address thread (mutexLock address owner insist thread p) ↔
        wordAt p.channel address ≠ mutexWaitersBit) ∧
      (wordAt p.channel address = mutexWaitersBit →
        Strands p address thread (mutexLock address owner insist thread p)) := by
  refine ⟨⟨?_, ?_⟩, fun bare => strands_of_bare accessible bare passed⟩
  · intro acquires bare
    have stranded : Strands p address thread (mutexLock address owner insist thread p) :=
      strands_of_bare accessible bare passed
    have blocked := stranded.blocked
    rw [acquires.returned] at blocked
    cases blocked
  · intro marked
    have zero := (and_mask_eq_zero_iff.mp ownerless).resolve_right marked
    exact acquires_of_zero accessible zero passed

end GuestProcess

namespace ProcessRun

open GuestProcess

/-- A thread is queued, the guest clears the tag, and a third thread takes the mutex before it. -/
theorem acquires_before_queued : ∃ s : ProcessRun Window ScriptedAllocator ScriptedFactory,
    Reachable {} s ∧ s.process.mutexes.queueAt 0x1000 = [⟨0, 6, 1, 101⟩] ∧
    Accessible s.process.channel 0x1000 ∧ wordAt s.process.channel 0x1000 &&& mutexOwnerMask = 0 ∧
    Acquires s.process 0x1000 ⟨7, 1, 102, 0⟩
      (mutexLock 0x1000 0 false ⟨7, 1, 102, 0⟩ s.process) ∧
    wordAt (mutexLock 0x1000 0 false ⟨7, 1, 102, 0⟩ s.process).state.channel 0x1000 =
      0x40000007 := by
  have start : Reachable {} _ :=
    .start 0 (Window.new 0x1000 0x1000) ScriptedAllocator.new ScriptedFactory.new
  have owned := start.call (.mutexLock 0x1000 0 true ⟨5, 1, 100, 0⟩)
  have queued := owned.call (.mutexLock 0x1000 5 false ⟨6, 1, 101, 0⟩)
  have cleared := queued.call (.access (writeValue 0x1000 (0 : UInt32)))
  refine ⟨_, cleared, by decide, ?accessible, ?ownerless, ?acquires, by decide⟩
  case accessible => exact Window.accessible (by decide) (by decide) (by decide)
  case ownerless => decide
  case acquires =>
    exact (mutexLock_of_ownerless (Window.accessible (by decide) (by decide) (by decide))
      (by decide) (.inr (by decide))).1.mpr (by decide)

/-- Nobody owns the mutex and nobody is queued at it, but the thread that locks it is blocked. -/
theorem blocked_without_owner : ∃ s : ProcessRun Window ScriptedAllocator ScriptedFactory,
    Reachable {} s ∧ wordAt s.process.channel 0x1000 = 0x40000000 ∧
    wordAt s.process.channel 0x1000 &&& mutexOwnerMask = 0 ∧
    s.process.mutexes.queueAt 0x1000 = [] ∧ Accessible s.process.channel 0x1000 ∧
    FitsTag 0xD010 ∧
    (mutexLock 0x1000 0 false ⟨0xD010, 44, 1, 0⟩ s.process).outcome =
      .ok (.queued ⟨0, 0xD010, 44, 1⟩) ∧
    ¬ Acquires s.process 0x1000 ⟨0xD010, 44, 1, 0⟩
      (mutexLock 0x1000 0 false ⟨0xD010, 44, 1, 0⟩ s.process) := by
  have start : Reachable {} _ :=
    .start 0 (Window.new 0x1000 0x1000) ScriptedAllocator.new ScriptedFactory.new
  have written := start.call (.access (writeValue 0x1000 (0x40000000 : UInt32)))
  refine ⟨_, written, by decide, by decide, by decide, ?_, ⟨by decide, by decide⟩, by decide, ?_⟩
  · exact Window.accessible (by decide) (by decide) (by decide)
  · intro acquires
    exact absurd acquires.returned (by decide)

end ProcessRun

end GuestKernel
