import Mathlib
import GuestKernel.Memory.Window
import GuestKernel.Proofs.Memory.Word
import GuestKernel.Proofs.Mutex.Calls
import GuestKernel.Proofs.Mutex.Tag
import GuestKernel.Proofs.Process.Counter
import GuestKernel.Scripted.Allocator
import GuestKernel.Scripted.Factory

/-!
# Whom a tag names

The owner field of a tag is one bit narrower than a handle, and nothing keeps a process from giving
out handles that it cannot hold. A mutex that is taken by a thread, or handed to it, names the thread
exactly if its handle fits. All handles fit that a process gives out from a first one above zero
until its counter has passed the bit of the waiters.
-/

set_option autoImplicit false

namespace GuestKernel

open GuestMemory

namespace GuestProcess

variable {M A F : Type} [ByteChannel M] {p : GuestProcess M A F} {address : VirtAddr}

theorem field_of_taken {owner : Handle} {insist : Bool} {thread : GuestThread}
    (free : wordAt p.channel address = 0) (passed : insist = true ∨ owner = 0)
    (h : (mutexLock address owner insist thread p).outcome = .ok .returned) :
    wordAt (mutexLock address owner insist thread p).state.channel address &&& mutexOwnerMask =
      thread.handle &&& mutexOwnerMask := by
  have exit := mutexLock_exit p address owner insist thread
  rw [h] at exit
  generalize (mutexLock address owner insist thread p).state = q at exit ⊢
  cases exit with
  | turnedAway read asked other =>
    rw [eq_wordAt_of_readWord read, free, UInt32.zero_and] at other
    rcases passed with insists | rfl
    · rw [asked] at insists
      cases insists
    · exact absurd rfl other
  | taken read _ write =>
    dsimp only
    rw [wordAt_of_writeWord_ok write]
    exact ownedTag_and_mask _ _

theorem field_of_handed {entry : WaitEntry}
    (h : (mutexUnlock address p).outcome = .ok (some entry)) :
    wordAt (mutexUnlock address p).state.channel address &&& mutexOwnerMask =
      entry.handle &&& mutexOwnerMask := by
  have exit := mutexUnlock_exit p address
  rw [h] at exit
  generalize (mutexUnlock address p).state = q at exit ⊢
  cases exit with
  | handed cut write =>
    dsimp only
    rw [wordAt_of_writeWord_ok write]
    exact ownedTag_and_mask _ _

end GuestProcess

open GuestProcess

namespace ProcessRun

variable {M A F : Type} [ByteChannel M] [RegionAllocator A] [ThreadFactory F]

/-- Which threads the tags of a process name as owners. -/
structure OwnersNamed (config : ProcessConfig) (s : ProcessRun M A F) : Prop where
  taken : ∀ (address : VirtAddr) (owner : Handle) (insist : Bool) (thread : GuestThread),
    wordAt s.process.channel address = 0 → (insist = true ∨ owner = 0) →
    (mutexLock address owner insist thread s.process).outcome = .ok .returned →
      (Names (wordAt (mutexLock address owner insist thread s.process).state.channel address)
        thread.handle ↔ FitsTag thread.handle)
  handed : ∀ (address : VirtAddr) (entry : WaitEntry),
    (mutexUnlock address s.process).outcome = .ok (some entry) →
      (Names (wordAt (mutexUnlock address s.process).state.channel address) entry.handle ↔
        FitsTag entry.handle)
  threads : ∀ handle ∈ s.threadHandles,
    config.baseHandleIndex ≤ handle ∧ handle < s.process.handles.next
  fits : 0 < config.baseHandleIndex → s.process.handles.next ≤ mutexWaitersBit →
    ∀ handle, config.baseHandleIndex ≤ handle → handle < s.process.handles.next → FitsTag handle
  apart : ∀ handle other, FitsTag handle → FitsTag other →
    handle &&& mutexOwnerMask = other &&& mutexOwnerMask → handle = other

/-- A tag names the thread that owns the mutex if the handle of the thread fits. -/
theorem Reachable.ownersNamed {config : ProcessConfig} {s : ProcessRun M A F}
    (h : Reachable config s) : OwnersNamed config s := by
  obtain ⟨_, range⟩ := h.threadHandles_range
  refine ⟨?_, ?_, ?_, ?_, ?_⟩
  · intro address owner insist thread free passed taken
    exact names_iff_of_field (field_of_taken free passed taken)
  · intro address entry handed
    exact names_iff_of_field (field_of_handed handed)
  · intro handle mem
    obtain ⟨low, high⟩ := range handle mem
    exact ⟨UInt32.le_iff_toNat_le.mpr low, UInt32.lt_iff_toNat_lt.mpr high⟩
  · intro positive few handle low high
    rw [UInt32.lt_iff_toNat_lt] at positive high
    rw [UInt32.le_iff_toNat_le] at few low
    exact fitsTag_of_lt (Nat.lt_of_lt_of_le positive low) (Nat.lt_of_lt_of_le high few)
  · intro handle other first second same
    rwa [masked_of_clear first.clear, masked_of_clear second.clear] at same

/-- Two threads are made, the first takes a mutex, and the second waits for it. -/
theorem ownersNamed_with_waiter : ∃ s : ProcessRun Window ScriptedAllocator ScriptedFactory,
    s.threadHandles = [0x11, 0x12] ∧ wordAt s.process.channel 0x1000 = 0x40000011 ∧
    OwnersNamed { baseHandleIndex := 0x10 } s := by
  let config : ProcessConfig := { baseHandleIndex := 0x10 }
  have start : Reachable config _ :=
    .start 0 (Window.new 0x1000 0x1000) ScriptedAllocator.new ScriptedFactory.new
  have made := (start.call (.createThread 0 0 0 5)).call (.createThread 0 0 0 5)
  have taken := made.call (.mutexLock 0x1000 0 true ⟨0x11, 5, 1000, 0x06000200⟩)
  have queued := taken.call (.mutexLock 0x1000 0x11 false ⟨0x12, 5, 1001, 0x06000400⟩)
  exact ⟨_, by decide, by decide, queued.ownersNamed⟩

/-- The first thread of this process takes a mutex, the word still says that nobody owns it, and the
second thread takes it as well. -/
theorem taken_twice : ∃ s t : ProcessRun Window ScriptedAllocator ScriptedFactory,
    Reachable { baseHandleIndex := 0x3FFFFFFF } s ∧
    s.threadHandles = [0x40000000, 0x40000001] ∧ wordAt s.process.channel 0x1000 = 0 ∧
    (mutexLock 0x1000 0 true ⟨0x40000000, 5, 1000, 0x06000200⟩ s.process).outcome =
      .ok .returned ∧
    t = s.after (.mutexLock 0x1000 0 true ⟨0x40000000, 5, 1000, 0x06000200⟩) ∧
    wordAt t.process.channel 0x1000 = 0 ∧
    (mutexLock 0x1000 0 true ⟨0x40000001, 5, 1001, 0x06000400⟩ t.process).outcome =
      .ok .returned := by
  have start : Reachable { baseHandleIndex := 0x3FFFFFFF } _ :=
    .start 0 (Window.new 0x1000 0x1000) ScriptedAllocator.new ScriptedFactory.new
  have made := (start.call (.createThread 0 0 0 5)).call (.createThread 0 0 0 5)
  exact ⟨_, _, made, by decide, by decide, by decide, rfl, by decide, by decide⟩

end ProcessRun

end GuestKernel
