import Mathlib
import GuestKernel.Memory.Window
import GuestKernel.Proofs.Memory.Word
import GuestKernel.Proofs.Mutex.Calls
import GuestKernel.Proofs.Process.Run
import GuestKernel.Scripted.Allocator
import GuestKernel.Scripted.Factory

/-!
# Calls on a mutex that fail

A call on a mutex that fails leaves the process as it was: only what the channel refuses next may be
another thing, and that is up to the channel at any time. So the calls that failed can be erased from
a run, and every other call finds the very process that it found before.
-/

set_option autoImplicit false

namespace GuestKernel

open GuestMemory

/-- A call has failed without a trace: the bytes and all of the process but its channel are the
same. -/
structure Traceless {M A F α : Type} [ByteChannel M] (p : GuestProcess M A F) (address : VirtAddr)
    (ended : Effect (GuestProcess M A F) α) : Prop where
  refusal : ∃ cause, ended.outcome = .error (.error (.memoryAccessFailure address 4 cause))
  process : ended.state = { p with channel := ended.state.channel }
  bytes : ByteChannel.byteAt ended.state.channel = ByteChannel.byteAt p.channel

namespace GuestProcess

variable {M A F : Type} [ByteChannel M] {p : GuestProcess M A F} {address : VirtAddr}

variable {fault : Fault}

theorem traceless_of_refused {α : Type} {c : M} {log : List LogRecord}
    (refusal : ∃ cause, fault = .error (accessFailure address 4 cause))
    (bytes : ByteChannel.byteAt c = ByteChannel.byteAt p.channel) :
    Traceless p address
      (⟨.error fault, { p with channel := c }, log⟩ : Effect (GuestProcess M A F) α) := by
  obtain ⟨cause, rfl⟩ := refusal
  exact ⟨⟨cause, rfl⟩, rfl, bytes⟩

theorem mutexLock_traceless {owner : Handle} {insist : Bool} {thread : GuestThread}
    (failed : (mutexLock address owner insist thread p).outcome = .error fault) :
    Traceless p address (mutexLock address owner insist thread p) := by
  have exit := mutexLock_exit p address owner insist thread
  generalize mutexLock address owner insist thread p = ended at failed exit ⊢
  obtain ⟨outcome, q, log⟩ := ended
  cases exit with
  | unread read => exact traceless_of_refused (fault_of_readWord read) (byteAt_of_readWord read)
  | untaken read write | unmarked read write =>
    apply traceless_of_refused (fault_of_writeWord write)
    exact (byteAt_of_writeWord_error write).trans (byteAt_of_readWord read)
  | turnedAway | taken | queued => cases failed

theorem mutexUnlock_traceless (failed : (mutexUnlock address p).outcome = .error fault) :
    Traceless p address (mutexUnlock address p) := by
  have exit := mutexUnlock_exit p address
  generalize mutexUnlock address p = ended at failed exit ⊢
  obtain ⟨outcome, q, log⟩ := ended
  cases exit with
  | unread _ read => exact traceless_of_refused (fault_of_readWord read) (byteAt_of_readWord read)
  | uncleared _ read write =>
    apply traceless_of_refused (fault_of_writeWord write)
    exact (byteAt_of_writeWord_error write).trans (byteAt_of_readWord read)
  | unhanded _ write =>
    exact traceless_of_refused (fault_of_writeWord write) (byteAt_of_writeWord_error write)
  | cleared | handed => cases failed

end GuestProcess

open GuestProcess

namespace ProcessCall

variable {M A F : Type} {p : GuestProcess M A F} {call : ProcessCall M A F} {address : VirtAddr}

def mutex? : ProcessCall M A F → Option VirtAddr
  | mutexLock address _ _ _ | mutexUnlock address => some address
  | _ => none

section Fails
variable [MemoryChannel M] [RegionAllocator A] [ThreadFactory F]

/-- Whether a call is on a mutex and fails when it finds this process. -/
def failsOnMutex (call : ProcessCall M A F) (p : GuestProcess M A F) : Bool :=
  call.mutex?.isSome && !(call.perform p).outcome.isOk

end Fails

variable [ByteChannel M] [RegionAllocator A] [ThreadFactory F]

theorem traceless_of_fails (fails : call.failsOnMutex p = true)
    (there : call.mutex? = some address) : Traceless p address (call.perform p) := by
  simp only [failsOnMutex, Bool.and_eq_true, Bool.not_eq_true'] at fails
  cases outcome : (call.perform p).outcome with
  | ok answer =>
    rw [outcome] at fails
    cases fails.2
  | error fault =>
    cases call with
    | mutexLock address owner insist thread =>
      cases there
      exact mutexLock_traceless outcome
    | mutexUnlock address =>
      cases there
      exact mutexUnlock_traceless outcome
    | _ => cases there

end ProcessCall

/-- The calls that lead from one process to another, each with the process that it found. Before a
call the channel may become one that refuses other accesses. -/
inductive CallsLead {M A F : Type} [ByteChannel M] [RegionAllocator A] [ThreadFactory F]
    (p : GuestProcess M A F) :
    List (GuestProcess M A F × ProcessCall M A F) → GuestProcess M A F → Prop where
  | start : CallsLead p [] p
  | call {calls : List (GuestProcess M A F × ProcessCall M A F)} {q : GuestProcess M A F}
      (before : CallsLead p calls q) (channel : M)
      (same : ByteChannel.byteAt channel = ByteChannel.byteAt q.channel)
      (call : ProcessCall M A F) :
      CallsLead p (calls ++ [({ q with channel }, call)]) (call.perform { q with channel }).state

/-- Two processes between which only what their channels refuse can make a difference. -/
structure Alike {M A F : Type} [ByteChannel M] (q r : GuestProcess M A F) : Prop where
  process : r = { q with channel := r.channel }
  bytes : ByteChannel.byteAt r.channel = ByteChannel.byteAt q.channel

theorem Alike.with_channel {M A F : Type} [ByteChannel M] {q r : GuestProcess M A F}
    (alike : Alike q r) (channel : M) : { r with channel } = { q with channel } := by
  rw [alike.process]

namespace CallsLead

variable {M A F : Type} [ByteChannel M] [RegionAllocator A] [ThreadFactory F]
variable {p q r : GuestProcess M A F} {calls : List (GuestProcess M A F × ProcessCall M A F)}

/-- The calls of a run that are not on a mutex or succeed. -/
def withoutFailures (calls : List (GuestProcess M A F × ProcessCall M A F)) :
    List (GuestProcess M A F × ProcessCall M A F) :=
  calls.filter fun made => !made.2.failsOnMutex made.1

theorem alike_of_erased (run : CallsLead p calls q) :
    ∃ r, CallsLead p (withoutFailures calls) r ∧ Alike q r := by
  induction run with
  | start => exact ⟨p, .start, rfl, rfl⟩
  | @call calls q before channel same call ih =>
    obtain ⟨r, others, alike⟩ := ih
    rw [withoutFailures, List.filter_append, ← withoutFailures]
    cases fails : call.failsOnMutex { q with channel } with
    | true =>
      -- the erased run stays where it is, and so does the process
      refine ⟨r, ?_, ?_⟩
      · simpa [fails] using others
      · obtain ⟨address, there⟩ : ∃ address, call.mutex? = some address := by
          apply Option.isSome_iff_exists.mp
          simp only [ProcessCall.failsOnMutex, Bool.and_eq_true] at fails
          exact fails.1
        have traceless := ProcessCall.traceless_of_fails fails there
        refine ⟨?_, (alike.bytes.trans same.symm).trans traceless.bytes.symm⟩
        rw [traceless.process, alike.process]
    | false =>
      have next := others.call channel (same.trans alike.bytes.symm) call
      rw [alike.with_channel] at next
      exact ⟨_, by simpa [fails] using next, rfl, rfl⟩

/-- Calls on a mutex that fail leave no trace: erasing them from a run leaves a run in which every
other call finds the same process, so that it gives the same answer. -/
theorem failures_erasable (run : CallsLead p calls q) :
    (∀ made ∈ calls, ∀ address, made.2.mutex? = some address →
      made.2.failsOnMutex made.1 = true → Traceless made.1 address (made.2.perform made.1)) ∧
    ∃ r, CallsLead p (withoutFailures calls) r ∧ Alike q r := by
  refine ⟨?_, run.alike_of_erased⟩
  intro made _ address there fails
  exact ProcessCall.traceless_of_fails fails there

theorem planned {p q : GuestProcess Window A F}
    {calls : List (GuestProcess Window A F × ProcessCall Window A F)} (run : CallsLead p calls q)
    (outage : Option Outage) (call : ProcessCall Window A F) :
    CallsLead p (calls ++ [({ q with channel := q.channel.plan .write outage }, call)])
      (call.perform { q with channel := q.channel.plan .write outage }).state :=
  run.call (q.channel.plan .write outage) rfl call

/-- A thread is queued and then served, each time by a second call after the first one failed. -/
theorem erasable_with_retries :
    ∃ (p q r : GuestProcess Window ScriptedAllocator ScriptedFactory) (calls : List _),
      CallsLead p calls q ∧ calls.length = 5 ∧ (withoutFailures calls).length = 3 ∧
      wordAt q.channel 0x1000 = 6 ∧ CallsLead p (withoutFailures calls) r ∧ Alike q r := by
  let broken : Option Outage := some ⟨0, .ofKind .timedOut⟩
  have fresh : CallsLead (.new 0 {} (Window.new 0x1000 0x1000) ScriptedAllocator.new
    ScriptedFactory.new) [] _ := .start
  have owned := fresh.planned none (.mutexLock 0x1000 0 true ⟨5, 1, 100, 0⟩)
  have unqueued := owned.planned broken (.mutexLock 0x1000 5 false ⟨6, 1, 101, 0⟩)
  have queued := unqueued.planned none (.mutexLock 0x1000 5 false ⟨6, 1, 101, 0⟩)
  have unserved := queued.planned broken (.mutexUnlock 0x1000)
  have served := unserved.planned none (.mutexUnlock 0x1000)
  obtain ⟨r, erased, alike⟩ := served.failures_erasable.2
  exact ⟨_, _, r, _, served, rfl, by decide, by decide, erased, alike⟩

end CallsLead

end GuestKernel
