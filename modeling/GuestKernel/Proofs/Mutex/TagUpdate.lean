import Mathlib
import GuestKernel.Proofs.Mutex.Handover

/-!
# What the calls on a mutex make of its tag

`LockDone` and `UnlockDone` list the ways in which a call that succeeds can end, by the tag that it
found in memory and the tag that it leaves there. Both calls succeed if their accesses do.
-/

set_option autoImplicit false

namespace GuestKernel

open GuestMemory

namespace GuestProcess

section Answers
variable {M A F : Type} [MemoryChannel M] {p : GuestProcess M A F} {address : VirtAddr}

theorem mutexLock_answers (accessible : Accessible p.channel address) (owner : Handle)
    (insist : Bool) (thread : GuestThread) :
    ∃ answer, (mutexLock address owner insist thread p).outcome = .ok answer := by
  obtain ⟨tag, readable⟩ := accessible.read
  have exit := mutexLock_exit p address owner insist thread
  generalize (mutexLock address owner insist thread p).outcome = outcome,
    (mutexLock address owner insist thread p).state = q at exit ⊢
  cases exit with
  | unread read =>
    rw [read] at readable
    cases readable
  | turnedAway | taken | queued => exact ⟨_, rfl⟩
  | untaken read write =>
    have done := accessible.rewrite (p.takingTag address thread)
    rw [read, write] at done
    cases done
  | @unmarked found _ _ _ _ _ read write =>
    have done := accessible.rewrite (found ||| mutexWaitersBit)
    rw [read, write] at done
    cases done

theorem mutexUnlock_answers (accessible : Accessible p.channel address) :
    ∃ answer, (mutexUnlock address p).outcome = .ok answer := by
  obtain ⟨tag, readable⟩ := accessible.read
  have exit := mutexUnlock_exit p address
  generalize (mutexUnlock address p).outcome = outcome, (mutexUnlock address p).state = q at exit ⊢
  cases exit with
  | unread _ read =>
    rw [read] at readable
    cases readable
  | uncleared _ read write =>
    have done := accessible.rewrite 0
    rw [read, write] at done
    cases done
  | unhanded _ write =>
    have done := congrArg Effect.outcome write
    rw [accessible.write] at done
    cases done
  | cleared | handed => exact ⟨_, rfl⟩

end Answers

section Tags
variable {M A F : Type} [ByteChannel M] {p : GuestProcess M A F} {address : VirtAddr}
variable {owner : Handle} {insist : Bool} {thread : GuestThread}

theorem Marking.wordAt {tag : UInt32} {c d : M} (marking : Marking address tag c d)
    (found : wordAt c address = tag) : wordAt d address = tag ||| mutexWaitersBit := by
  cases marking with
  | marked bit => rw [found, or_bit_of_marked bit]
  | written bare write => exact wordAt_of_writeWord_ok write

inductive LockDone (p : GuestProcess M A F) (address : VirtAddr) (owner : Handle) (insist : Bool)
    (thread : GuestThread) : LockOutcome → GuestProcess M A F → Prop where
  | turnedAway {c : M} (asked : insist = false)
      (other : wordAt p.channel address &&& mutexOwnerMask ≠ owner)
      (kept : ByteChannel.byteAt c = ByteChannel.byteAt p.channel) :
      LockDone p address owner insist thread .returned { p with channel := c }
  | taken {c : M} (free : wordAt p.channel address = 0)
      (passed : insist = true ∨ wordAt p.channel address &&& mutexOwnerMask = owner)
      (tag : wordAt c address = p.takingTag address thread) :
      LockDone p address owner insist thread .returned { p with channel := c }
  | queued {c : M} (owned : wordAt p.channel address ≠ 0)
      (passed : insist = true ∨ wordAt p.channel address &&& mutexOwnerMask = owner)
      (tag : wordAt c address = wordAt p.channel address ||| mutexWaitersBit) :
      LockDone p address owner insist thread (.queued (.ofThread p.wakes.made thread))
        (p.withQueued address thread c)

/-- A call that the check of the owner lets through is not turned away by it. -/
theorem not_away {field : UInt32} (passed : insist = true ∨ field = owner) :
    ¬ (insist = false ∧ field ≠ owner) := by
  rintro ⟨asked, other⟩
  rcases passed with insists | same
  · rw [asked] at insists
    cases insists
  · exact other same

theorem mutexLock_done {answer : LockOutcome}
    (ok : (mutexLock address owner insist thread p).outcome = .ok answer) :
    LockDone p address owner insist thread answer
      (mutexLock address owner insist thread p).state := by
  have exit := mutexLock_exit p address owner insist thread
  rw [ok] at exit
  generalize (mutexLock address owner insist thread p).state = q at exit ⊢
  cases exit with
  | turnedAway read asked other =>
    rw [eq_wordAt_of_readWord read] at other
    exact .turnedAway asked other (byteAt_of_readWord read)
  | taken read passed write =>
    have found := eq_wordAt_of_readWord read
    rw [found] at passed
    exact .taken found.symm passed (wordAt_of_writeWord_ok write)
  | queued read passed owned marking =>
    have found := eq_wordAt_of_readWord read
    have tag := marking.wordAt ((wordAt_of_readWord read).trans found.symm)
    rw [found] at owned passed tag
    exact .queued owned passed tag

inductive UnlockDone (p : GuestProcess M A F) (address : VirtAddr) :
    Option WaitEntry → GuestProcess M A F → Prop where
  | cleared {c : M} (nobody : p.mutexes.queueAt address = []) (tag : wordAt c address = 0) :
      UnlockDone p address none { p with channel := c }
  | handed {c : M} {entry : WaitEntry} (queued : entry ∈ p.mutexes.queueAt address)
      (tag : wordAt c address = ownedTag entry.handle (1 < p.mutexes.waiters address)) :
      UnlockDone p address (some entry)
        { p with
          channel := c
          mutexes := (p.mutexes.remove address entry).getD p.mutexes
          wakes := p.wakes.wake entry }

theorem mutexUnlock_done {answer : Option WaitEntry}
    (ok : (mutexUnlock address p).outcome = .ok answer) :
    UnlockDone p address answer (mutexUnlock address p).state := by
  have exit := mutexUnlock_exit p address
  rw [ok] at exit
  generalize (mutexUnlock address p).state = q at exit ⊢
  cases exit with
  | cleared nobody _ write => exact .cleared nobody (wordAt_of_writeWord_ok write)
  | handed cut write => exact .handed cut.mem (wordAt_of_writeWord_ok write)

end Tags

end GuestProcess

end GuestKernel
