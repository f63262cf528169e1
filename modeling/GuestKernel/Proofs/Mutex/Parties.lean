import Mathlib
import GuestKernel.Proofs.Memory.Word
import GuestKernel.Proofs.Wait.Run

/-!
# Threads that share a mutex

A `MutexRun` is a run of a process together with who owns the mutex at one address and with the
entry with which each thread was queued last. A thread owns the mutex from when it takes it, itself
or by a call, or is handed it, until it gives it up, itself or by a call. What a call does for its
thread is told by the answer alone, whatever the call leaves in memory. Every access to memory of a
call may fail.

The guest takes and drops the mutex without a call: it replaces a word that is zero by its handle,
and a word that is exactly its handle by zero. Besides, the process may do anything that leaves the
word and the queue of the mutex alone.
-/

set_option autoImplicit false

namespace GuestKernel

open GuestMemory

structure MutexParty (ι : Type) where
  handle : ι → Handle
  distinct : Function.Injective handle
  ne_zero : ∀ i, handle i ≠ 0
  /-- No handle has the bit of the waiters. -/
  clear : ∀ i, handle i &&& mutexWaitersBit = 0

structure MutexRun (M A F ι : Type) where
  run : WaitRun M A F
  owners : Set ι
  /-- The entry with which a thread was queued at the mutex last. -/
  entryOf : ι → Option WaitEntry

namespace MutexRun

open GuestProcess WaitRun

variable {M A F ι : Type}

/-- A thread is blocked while the entry with which it was queued is not woken. -/
def Blocked (s : MutexRun M A F ι) (i : ι) : Prop :=
  ∃ e, s.entryOf i = some e ∧ s.run.process.wakes.isWoken e = false

def queue (s : MutexRun M A F ι) (address : VirtAddr) : List WaitEntry :=
  s.run.process.mutexes.queueAt address

variable [ByteChannel M]

def word (s : MutexRun M A F ι) (address : VirtAddr) : UInt32 :=
  wordAt s.run.process.channel address

/-- A call to lock the mutex takes it if it returns, other than because `owner` has the mutex no
more and the caller does not insist. -/
def Takes (s : MutexRun M A F ι) (address : VirtAddr) (owner : Handle) (insist : Bool)
    (thread : GuestThread) : Prop :=
  (mutexLock address owner insist thread s.run.process).outcome = .ok .returned ∧
    (insist = true ∨ s.word address &&& mutexOwnerMask = owner)

def locked [DecidableEq ι] (s : MutexRun M A F ι) (address : VirtAddr) (i : ι) (owner : Handle)
    (insist : Bool) (thread : GuestThread) : MutexRun M A F ι where
  run := s.run.after (mutexLock address owner insist thread) (lockEvents address)
  owners := {j | j ∈ s.owners ∨ j = i ∧ s.Takes address owner insist thread}
  entryOf := match (mutexLock address owner insist thread s.run.process).outcome with
    | .ok (.queued e) => Function.update s.entryOf i (some e)
    | _ => s.entryOf

/-- Who owns the mutex after a thread called to unlock it; a call that faults has not. -/
def heirs (s : MutexRun M A F ι) (i : ι) : Except Fault (Option WaitEntry) → Set ι
  | .ok (some e) => {j | j ∈ s.owners ∧ j ≠ i ∨ s.entryOf j = some e}
  | .ok none => {j | j ∈ s.owners ∧ j ≠ i}
  | .error _ => s.owners

def unlocked (s : MutexRun M A F ι) (address : VirtAddr) (i : ι) : MutexRun M A F ι where
  run := s.run.after (mutexUnlock address) (unlockEvents address)
  owners := s.heirs i (mutexUnlock address s.run.process).outcome
  entryOf := s.entryOf

def withChannel (s : MutexRun M A F ι) (channel : M) (owners : Set ι) : MutexRun M A F ι where
  run := ⟨{ s.run.process with channel }, s.run.events⟩
  owners
  entryOf := s.entryOf

/-- The word under an address is replaced, and no other byte. -/
def Overwritten (c : M) (address : VirtAddr) (value : UInt32) (d : M) : Prop :=
  ByteChannel.byteAt d =
    overwrite (ByteChannel.byteAt c) address.toNat (GuestValue.encode value)

/-- One step of the threads that share the mutex at an address. -/
inductive Step [DecidableEq ι] (party : MutexParty ι) (address : VirtAddr) :
    MutexRun M A F ι → MutexRun M A F ι → Prop where
  | lock (s : MutexRun M A F ι) (i : ι) (owner : Handle) (insist : Bool) (thread : GuestThread)
      (own : thread.handle = party.handle i) (without : i ∉ s.owners) (runs : ¬ s.Blocked i) :
      Step party address s (s.locked address i owner insist thread)
  | unlock (s : MutexRun M A F ι) (i : ι) (owns : i ∈ s.owners) :
      Step party address s (s.unlocked address i)
  | acquire (s : MutexRun M A F ι) (i : ι) (channel : M) (runs : ¬ s.Blocked i)
      (free : s.word address = 0)
      (written : Overwritten s.run.process.channel address (party.handle i) channel) :
      Step party address s (s.withChannel channel (insert i s.owners))
  | release (s : MutexRun M A F ι) (i : ι) (channel : M) (owns : i ∈ s.owners)
      (bare : s.word address = party.handle i)
      (written : Overwritten s.run.process.channel address 0 channel) :
      Step party address s (s.withChannel channel (s.owners \ {i}))
  | elsewhere (s : MutexRun M A F ι) (run : WaitRun M A F) (step : s.run.Step run)
      (word : wordAt run.process.channel address = s.word address)
      (queue : run.process.mutexes.queueAt address = s.queue address) :
      Step party address s { s with run }

/-- The runs in which the mutex is free at first and nobody is queued at it. -/
inductive Reachable [DecidableEq ι] (party : MutexParty ι) (address : VirtAddr) :
    MutexRun M A F ι → Prop where
  | start (run : WaitRun M A F) (reachable : run.Reachable)
      (free : wordAt run.process.channel address = 0)
      (nobody : run.process.mutexes.queueAt address = []) :
      Reachable party address ⟨run, ∅, fun _ => none⟩
  | step {s t : MutexRun M A F ι} (reachable : Reachable party address s)
      (step : Step party address s t) : Reachable party address t

end MutexRun

end GuestKernel
