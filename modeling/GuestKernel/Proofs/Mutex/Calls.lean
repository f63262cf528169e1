import Mathlib
import GuestKernel.GuestProcess.Mutex
import GuestKernel.Proofs.Wait.Selection

/-!
# What the calls on a mutex leave

`LockExit` and `UnlockExit` list the ways in which a call that locks or unlocks a mutex can end,
each with everything that the call has changed. Every later fact about these calls is read off the
two lists; the calls themselves are opened here only.
-/

set_option autoImplicit false

namespace GuestKernel

namespace GuestProcess

open GuestMemory

variable {M A F : Type} [MemoryChannel M]

/-- The bit of the waiters is set in a tag that was read: it was, or it is written. -/
inductive Marking (address : VirtAddr) (tag : UInt32) (c : M) : M → Prop where
  | marked (bit : tag &&& mutexWaitersBit ≠ 0) : Marking address tag c c
  | written {d : M} {log : List LogRecord} (bare : tag &&& mutexWaitersBit = 0)
      (write : writeValue address (tag ||| mutexWaitersBit) c = ⟨.ok (), d, log⟩) :
      Marking address tag c d

/-- The process after a thread was queued at a mutex. -/
def withQueued (p : GuestProcess M A F) (address : VirtAddr) (thread : GuestThread) (c : M) :
    GuestProcess M A F :=
  { p with
    channel := c
    wakes := (p.wakes.enter thread).2
    mutexes := p.mutexes.setQueue address
      (p.mutexes.queueAt address ++ [.ofThread p.wakes.made thread]) }

/-- The tag with which a thread takes a mutex at which others may be queued. -/
def takingTag (p : GuestProcess M A F) (address : VirtAddr) (thread : GuestThread) : UInt32 :=
  ownedTag thread.handle (0 < p.mutexes.waiters address)

/-- The ends of a call that locks a mutex. -/
inductive LockExit (p : GuestProcess M A F) (address : VirtAddr) (owner : Handle) (insist : Bool)
    (thread : GuestThread) : Except Fault LockOutcome → GuestProcess M A F → Prop where
  | unread {fault : Fault} {c : M} {log : List LogRecord}
      (read : readValue UInt32 address p.channel = ⟨.error fault, c, log⟩) :
      LockExit p address owner insist thread (.error fault) { p with channel := c }
  | turnedAway {tag : UInt32} {c : M} {log : List LogRecord}
      (read : readValue UInt32 address p.channel = ⟨.ok tag, c, log⟩)
      (asked : insist = false) (other : tag &&& mutexOwnerMask ≠ owner) :
      LockExit p address owner insist thread (.ok .returned) { p with channel := c }
  | untaken {fault : Fault} {c d : M} {log log' : List LogRecord}
      (read : readValue UInt32 address p.channel = ⟨.ok 0, c, log⟩)
      (write : writeValue address (p.takingTag address thread) c = ⟨.error fault, d, log'⟩) :
      LockExit p address owner insist thread (.error fault) { p with channel := d }
  | taken {c d : M} {log log' : List LogRecord}
      (read : readValue UInt32 address p.channel = ⟨.ok 0, c, log⟩)
      (passed : insist = true ∨ 0 &&& mutexOwnerMask = owner)
      (write : writeValue address (p.takingTag address thread) c = ⟨.ok (), d, log'⟩) :
      LockExit p address owner insist thread (.ok .returned) { p with channel := d }
  | unmarked {tag : UInt32} {fault : Fault} {c d : M} {log log' : List LogRecord}
      (read : readValue UInt32 address p.channel = ⟨.ok tag, c, log⟩)
      (write : writeValue address (tag ||| mutexWaitersBit) c = ⟨.error fault, d, log'⟩) :
      LockExit p address owner insist thread (.error fault) { p with channel := d }
  | queued {tag : UInt32} {c d : M} {log : List LogRecord}
      (read : readValue UInt32 address p.channel = ⟨.ok tag, c, log⟩)
      (passed : insist = true ∨ tag &&& mutexOwnerMask = owner) (owned : tag ≠ 0)
      (marking : Marking address tag c d) :
      LockExit p address owner insist thread (.ok (.queued (.ofThread p.wakes.made thread)))
        (p.withQueued address thread d)

/-- A call that locks a mutex ends in one of these ways. -/
theorem mutexLock_exit (p : GuestProcess M A F) (address : VirtAddr) (owner : Handle)
    (insist : Bool) (thread : GuestThread) :
    LockExit p address owner insist thread (mutexLock address owner insist thread p).outcome
      (mutexLock address owner insist thread p).state := by
  unfold mutexLock
  simp only [Action.bind_apply, onChannel, Action.onPart_apply]
  rcases read : readValue UInt32 address p.channel with ⟨answer, c, log⟩
  cases answer with
  | error fault => exact .unread read
  | ok tag =>
    simp only [Action.andThen_ok]
    split
    · rename_i away
      simp only [Bool.and_eq_true, Bool.not_eq_true', bne_iff_ne] at away
      exact .turnedAway read away.1 away.2
    · rename_i stays
      have passed : insist = true ∨ tag &&& mutexOwnerMask = owner := by
        cases insist <;> simp_all
      split
      · rename_i free
        subst free
        rcases write : writeValue address (p.takingTag address thread) c with ⟨done, d, log'⟩
        have write' := write
        rw [takingTag] at write'
        simp only [Action.bind_apply, Action.current_apply, Action.andThen_ok,
          Action.onPart_apply, write']
        cases done with
        | error fault => exact .untaken read write
        | ok done => exact .taken read passed write
      · rename_i owned
        split
        · rename_i bare
          rcases write : writeValue address (tag ||| mutexWaitersBit) c with ⟨done, d, log'⟩
          simp only [Action.bind_apply, Action.onPart_apply, write]
          cases done with
          | error fault => exact .unmarked read write
          | ok done => exact .queued read passed owned (.written bare write)
        · rename_i bit
          exact .queued read passed owned (.marked bit)

/-- The ends of a call that unlocks a mutex. -/
inductive UnlockExit (p : GuestProcess M A F) (address : VirtAddr) :
    Except Fault (Option WaitEntry) → GuestProcess M A F → Prop where
  | unread {fault : Fault} {c : M} {log : List LogRecord}
      (nobody : p.mutexes.queueAt address = [])
      (read : readValue UInt32 address p.channel = ⟨.error fault, c, log⟩) :
      UnlockExit p address (.error fault) { p with channel := c }
  | uncleared {tag : UInt32} {fault : Fault} {c d : M} {log log' : List LogRecord}
      (nobody : p.mutexes.queueAt address = [])
      (read : readValue UInt32 address p.channel = ⟨.ok tag, c, log⟩)
      (write : writeValue address (0 : UInt32) c = ⟨.error fault, d, log'⟩) :
      UnlockExit p address (.error fault) { p with channel := d }
  | cleared {tag : UInt32} {c d : M} {log log' : List LogRecord}
      (nobody : p.mutexes.queueAt address = [])
      (read : readValue UInt32 address p.channel = ⟨.ok tag, c, log⟩)
      (write : writeValue address (0 : UInt32) c = ⟨.ok (), d, log'⟩) :
      UnlockExit p address (.ok none) { p with channel := d }
  | unhanded {before after : List WaitEntry} {entry : WaitEntry} {fault : Fault} {c : M}
      {log : List LogRecord}
      (cut : WaitEntry.Selected (p.mutexes.queueAt address) before entry after)
      (write : writeValue address (ownedTag entry.handle (1 < p.mutexes.waiters address))
        p.channel = ⟨.error fault, c, log⟩) :
      UnlockExit p address (.error fault) { p with channel := c }
  | handed {before after : List WaitEntry} {entry : WaitEntry} {c : M} {log : List LogRecord}
      (cut : WaitEntry.Selected (p.mutexes.queueAt address) before entry after)
      (write : writeValue address (ownedTag entry.handle (1 < p.mutexes.waiters address))
        p.channel = ⟨.ok (), c, log⟩) :
      UnlockExit p address (.ok (some entry))
        { p with
          channel := c
          mutexes := (p.mutexes.remove address entry).getD p.mutexes
          wakes := p.wakes.wake entry }

/-- A call that unlocks a mutex ends in one of these ways. -/
theorem mutexUnlock_exit (p : GuestProcess M A F) (address : VirtAddr) :
    UnlockExit p address (mutexUnlock address p).outcome (mutexUnlock address p).state := by
  unfold mutexUnlock
  simp only [Action.bind_apply, Action.current_apply, Action.andThen_ok]
  cases next : p.mutexes.peekNext address with
  | none =>
    have nobody := WaitQueues.peekNext_eq_none_iff.mp next
    simp only [Action.bind_apply, onChannel, Action.onPart_apply]
    rcases read : readValue UInt32 address p.channel with ⟨answer, c, log⟩
    cases answer with
    | error fault => exact .unread nobody read
    | ok tag =>
      rcases write : writeValue address (0 : UInt32) c with ⟨done, d, log'⟩
      simp only [Action.andThen_ok]
      split
      · simp only [Action.bind_apply, Action.note_apply, Action.andThen_ok, Action.onPart_apply,
          write]
        cases done with
        | error fault => exact .uncleared nobody read write
        | ok done => exact .cleared nobody read write
      · simp only [Action.bind_apply, Action.onPart_apply, write]
        cases done with
        | error fault => exact .uncleared nobody read write
        | ok done => exact .cleared nobody read write
  | some entry =>
    obtain ⟨before, after, cut⟩ := WaitQueues.selected_of_peekNext next
    rcases write : writeValue address (ownedTag entry.handle (1 < p.mutexes.waiters address))
      p.channel with ⟨done, c, log⟩
    simp only [Action.bind_apply, onChannel, Action.onPart_apply, write]
    cases done with
    | error fault => exact .unhanded cut write
    | ok done => exact .handed cut write

end GuestProcess

end GuestKernel
