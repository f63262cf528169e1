import Mathlib
import GuestKernel.Proofs.Memory.Steady
import GuestKernel.Proofs.Wait.Accounted
import GuestKernel.Proofs.Wait.ServiceOrder

/-!
# What a step on a mutex or a condition variable depends on

A step looks at one place only: at the queue there, at the word of a mutex, at what the channel
refuses for that word, and at one flag. `respond` is the step as a function of such a glance, and
`perform_takes` says that the calls of a process do just that and leave everything else alone.
-/

set_option autoImplicit false

namespace GuestKernel

inductive SyncStep where
  | lock (address : VirtAddr) (owner : Handle) (insist : Bool) (thread : GuestThread)
  | unlock (address : VirtAddr)
  | wait (address : VirtAddr) (thread : GuestThread)
  | signal (address : VirtAddr) (amount : UInt64)
  | timeout (address : VirtAddr) (entry : WaitEntry)

/-- The threads that a step blocks or wakes, and what it answers otherwise. -/
inductive SyncAnswer where
  | returned
  | blocked (entry : WaitEntry)
  | woke (entries : List WaitEntry)
  | ended (signalled : Bool)
  deriving DecidableEq

def LockOutcome.answer : LockOutcome → SyncAnswer
  | returned => .returned
  | queued entry => .blocked entry

/-- What a step sees of a process. -/
@[ext]
structure Glance where
  queue : List WaitEntry
  tag : UInt32
  unreadable : Option IoError
  unwritable : Option IoError
  woken : Bool

/-- What a step does: it queues a thread or has an answer. The queue is without that thread. -/
structure Turn where
  arrives : Option GuestThread
  answer : Except Fault SyncAnswer
  queue : List WaitEntry
  written : Option UInt32
  woken : List WaitEntry

namespace Turn

def outcome (turn : Turn) (number : Nat) : Except Fault SyncAnswer :=
  match turn.arrives with
  | some thread => .ok (.blocked (.ofThread number thread))
  | none => turn.answer

def queued (turn : Turn) (number : Nat) : List WaitEntry :=
  turn.queue ++ (turn.arrives.map (WaitEntry.ofThread number)).toList

end Turn

namespace Glance

def reply (g : Glance) (answer : Except Fault SyncAnswer) : Turn :=
  ⟨none, answer, g.queue, none, []⟩

def block (g : Glance) (thread : GuestThread) : Turn :=
  ⟨some thread, .ok .returned, g.queue, none, []⟩

def wake (g : Glance) (entries : List WaitEntry) : Turn :=
  ⟨none, .ok (.woke entries), remaining entries g.queue, none, entries⟩

def refused (g : Glance) (address : VirtAddr) (cause : IoError) : Turn :=
  g.reply (.error (.error (GuestMemory.accessFailure address 4 cause)))

/-- Does something with a word stored, unless the word cannot be written. -/
def store (g : Glance) (address : VirtAddr) (word : UInt32) (turn : Turn) : Turn :=
  match g.unwritable with
  | some cause => g.refused address cause
  | none => { turn with written := some word }

end Glance

namespace Action

variable {σ α β : Type} (f : α → β) (a : Action σ α) (s : σ)

theorem outcome_map : ((f <$> a) s).outcome = (a s).outcome.map f := by
  rw [map_apply, andThen]
  cases (a s).outcome <;> rfl

theorem state_map : ((f <$> a) s).state = (a s).state := by
  rw [map_apply, andThen]
  cases (a s).outcome <;> rfl

end Action

namespace SyncStep

def place : SyncStep → WaitPlace
  | lock address _ _ _ | unlock address => .mutex address
  | wait address _ | signal address _ | timeout address _ => .condition address

def respond : SyncStep → Glance → Turn
  | lock address owner insist thread, g =>
    match g.unreadable with
    | some cause => g.refused address cause
    | none =>
      if insist = false ∧ g.tag &&& mutexOwnerMask ≠ owner then g.reply (.ok .returned)
      else if g.tag = 0 then
        g.store address (ownedTag thread.handle (0 < g.queue.length)) (g.reply (.ok .returned))
      else if g.tag &&& mutexWaitersBit = 0 then
        g.store address (g.tag ||| mutexWaitersBit) (g.block thread)
      else g.block thread
  | unlock address, g =>
    match WaitEntry.chosen g.queue with
    | some (_, entry) =>
      g.store address (ownedTag entry.handle (1 < g.queue.length)) (g.wake [entry])
    | none =>
      match g.unreadable with
      | some cause => g.refused address cause
      | none => g.store address 0 (g.reply (.ok (.woke [])))
  | wait _ thread, g => g.block thread
  | signal _ amount, g => g.wake ((WaitEntry.serviceOrder g.queue).take amount.toNat)
  | timeout _ entry, g =>
    if g.woken then g.reply (.ok (.ended true))
    else { g.reply (.ok (.ended false)) with queue := remaining [entry] g.queue }

theorem respond_unlock_of_nobody {g : Glance} {address : VirtAddr} (nobody : g.queue = [])
    (readable : g.unreadable = none) :
    (unlock address).respond g = g.store address 0 (g.reply (.ok (.woke []))) := by
  rw [respond, nobody]
  simp only [WaitEntry.chosen, readable]

theorem respond_unlock_of_selected {g : Glance} {address : VirtAddr} {entry : WaitEntry}
    {before after : List WaitEntry} (cut : WaitEntry.Selected g.queue before entry after) :
    (unlock address).respond g =
      g.store address (ownedTag entry.handle (1 < g.queue.length)) (g.wake [entry]) := by
  rw [respond, WaitEntry.chosen_of_selected cut]

variable {M A F : Type}

def perform [MemoryChannel M] : SyncStep → Action (GuestProcess M A F) SyncAnswer
  | lock address owner insist thread =>
    LockOutcome.answer <$> GuestProcess.mutexLock address owner insist thread
  | unlock address => (fun woken => .woke woken.toList) <$> GuestProcess.mutexUnlock address
  | wait address thread => .blocked <$> GuestProcess.conditionWait address thread
  | signal address amount => .woke <$> GuestProcess.conditionSignal address amount
  | timeout address entry => .ended <$> GuestProcess.conditionTimeout address entry

/-- What a step sees. A condition variable has no word. -/
def glance [SteadyChannel M] (step : SyncStep) (p : GuestProcess M A F) : Glance where
  queue := p.queueOf step.place
  tag :=
    match step.place with
    | .mutex address => GuestMemory.wordAt p.channel address
    | .condition _ => 0
  unreadable :=
    match step.place with
    | .mutex address => SteadyChannel.refusal p.channel .read address 4
    | .condition _ => none
  unwritable :=
    match step.place with
    | .mutex address => SteadyChannel.refusal p.channel .write address 4
    | .condition _ => none
  woken :=
    match step with
    | timeout _ entry => p.wakes.isWoken entry
    | _ => false

end SyncStep

def WaitPlace.address : WaitPlace → VirtAddr
  | mutex address | condition address => address

namespace GuestProcess

open GuestMemory

section Takes
variable {M A F : Type} [SteadyChannel M]

/-- A process does what a turn says, at a place and nowhere else. -/
structure Takes (p : GuestProcess M A F) (place : WaitPlace) (turn : Turn)
    (answer : Except Fault SyncAnswer) (q : GuestProcess M A F) : Prop where
  outcome : answer = turn.outcome p.wakes.made
  queue : q.queueOf place = turn.queued p.wakes.made
  others : ∀ other, other ≠ place → q.queueOf other = p.queueOf other
  channel : Stored p.channel place.address turn.written q.channel
  made : q.wakes.made = p.wakes.made + turn.arrives.toList.length
  flags : ∀ entry, q.wakes.isWoken entry = true ↔
    entry.id ∈ turn.woken.map WaitEntry.id ∨ p.wakes.isWoken entry = true

variable {p : GuestProcess M A F} {address : VirtAddr} {c : M} {thread : GuestThread}

theorem takes_reply {answer : Except Fault SyncAnswer} {written : Option UInt32}
    (place : WaitPlace) (stored : Stored p.channel place.address written c) :
    Takes p place ⟨none, answer, p.queueOf place, written, []⟩ answer { p with channel := c } := by
  refine ⟨rfl, ?_, fun other _ => ?_, stored, rfl, fun entry => by simp⟩
  · rw [Turn.queued]
    cases place <;> exact (List.append_nil _).symm
  · cases other <;> rfl

theorem takes_refused {g : Glance} {cause : IoError} (queue : g.queue = p.mutexes.queueAt address)
    (kept : Stored p.channel address none c) :
    Takes p (.mutex address) (g.refused address cause)
      (.error (.error (accessFailure address 4 cause))) { p with channel := c } := by
  rw [Glance.refused, Glance.reply, queue]
  exact takes_reply (.mutex address) kept

theorem takes_block {written : Option UInt32}
    (stored : Stored p.channel address written c) :
    Takes p (.mutex address) ⟨some thread, .ok .returned, p.mutexes.queueAt address, written, []⟩
      (.ok (.blocked (.ofThread p.wakes.made thread))) (p.withQueued address thread c) := by
  refine ⟨rfl, WaitQueues.queueAt_setQueue_self _, fun other apart => ?_, stored, rfl,
    fun entry => by simp [withQueued, WakeBoard.isWoken, WakeBoard.enter]⟩
  exact WaitRun.queueOf_of_mutexes rfl (fun _ => WaitQueues.queueAt_setQueue_other _) apart

theorem takes_handed {entry : WaitEntry} {written : Option UInt32}
    (distinct : Distinct (p.mutexes.queueAt address)) (queued : entry ∈ p.mutexes.queueAt address)
    (stored : Stored p.channel address written c) :
    Takes p (.mutex address)
      ⟨none, .ok (.woke [entry]), remaining [entry] (p.mutexes.queueAt address), written, [entry]⟩
      (.ok (.woke [entry]))
      { p with
        channel := c
        mutexes := (p.mutexes.remove address entry).getD p.mutexes
        wakes := p.wakes.wake entry } := by
  rw [WaitQueues.remove_of_mem distinct queued, Option.getD_some]
  refine ⟨rfl, ?_, fun other apart => ?_, stored, rfl, fun other => ?_⟩
  · rw [Turn.queued, Option.map_none, Option.toList_none, List.append_nil]
    exact WaitQueues.queueAt_setQueue_self _
  · exact WaitRun.queueOf_of_mutexes rfl (fun _ => WaitQueues.queueAt_setQueue_other _) apart
  · rw [WakeBoard.isWoken_wake, List.map_singleton, List.mem_singleton]

section Store
variable {g : Glance} {word : UInt32} {d : M} {log : List LogRecord}

theorem store_refused {fault : Fault}
    (unwritable : g.unwritable = SteadyChannel.refusal p.channel .write address 4)
    (before : Stored p.channel address none c)
    (write : writeValue address word c = ⟨.error fault, d, log⟩) :
    ∃ cause, fault = .error (accessFailure address 4 cause) ∧
      (∀ turn, g.store address word turn = g.refused address cause) ∧
      Stored p.channel address none d := by
  obtain ⟨cause, refusal, rfl, stored⟩ := writeWord_error write
  rw [before.refusal, ← unwritable] at refusal
  refine ⟨cause, rfl, fun turn => ?_, before.after_none stored⟩
  rw [Glance.store, refusal]

theorem store_done (unwritable : g.unwritable = SteadyChannel.refusal p.channel .write address 4)
    (before : Stored p.channel address none c)
    (write : writeValue address word c = ⟨.ok (), d, log⟩) :
    (∀ turn, g.store address word turn = { turn with written := some word }) ∧
      Stored p.channel address (some word) d := by
  obtain ⟨writable, stored⟩ := writeWord_ok write
  rw [before.refusal, ← unwritable] at writable
  refine ⟨fun turn => ?_, before.after_none stored⟩
  rw [Glance.store, writable]

end Store

theorem lock_takes (p : GuestProcess M A F) (address : VirtAddr) (owner : Handle) (insist : Bool)
    (thread : GuestThread) :
    Takes p (.mutex address)
      ((SyncStep.lock address owner insist thread).respond
        ((SyncStep.lock address owner insist thread).glance p))
      ((mutexLock address owner insist thread p).outcome.map LockOutcome.answer)
      (mutexLock address owner insist thread p).state := by
  generalize seen : (SyncStep.lock address owner insist thread).glance p = g
  have queue : g.queue = p.queueOf (.mutex address) := seen ▸ rfl
  have tagged : g.tag = wordAt p.channel address := seen ▸ rfl
  have unreadable : g.unreadable = SteadyChannel.refusal p.channel .read address 4 := seen ▸ rfl
  have unwritable : g.unwritable = SteadyChannel.refusal p.channel .write address 4 := seen ▸ rfl
  unfold mutexLock
  simp only [Action.bind_apply, onChannel, Action.onPart_apply]
  rcases read : readValue UInt32 address p.channel with ⟨answer, c, log⟩
  cases answer with
  | error fault =>
    obtain ⟨cause, refusal, rfl, stored⟩ := readWord_error read
    rw [refusal] at unreadable
    simp only [SyncStep.respond, unreadable]
    exact takes_refused queue stored
  | ok tag =>
    obtain ⟨readable, word, stored⟩ := readWord_ok read
    rw [readable] at unreadable
    rw [← word] at tagged
    simp only [Action.andThen_ok, SyncStep.respond, unreadable, tagged]
    -- from here on the call and `respond` branch alike, on the tag that was read
    by_cases away : insist = false ∧ tag &&& mutexOwnerMask ≠ owner
    · have turned : (!insist && tag &&& mutexOwnerMask != owner) = true := by
        simpa using away
      rw [if_pos away, if_pos turned, Glance.reply, queue]
      exact takes_reply (.mutex address) stored
    · have stays : ¬(!insist && tag &&& mutexOwnerMask != owner) = true := by
        simpa using away
      rw [if_neg away, if_neg stays]
      by_cases free : tag = 0
      · rw [if_pos free, if_pos free]
        rcases write : writeValue address (p.takingTag address thread) c with ⟨done, d, log'⟩
        have taking : ownedTag thread.handle (0 < g.queue.length) = p.takingTag address thread := by
          rw [queue]
          rfl
        have write' := write
        rw [takingTag] at write'
        simp only [taking, Action.bind_apply, Action.current_apply, Action.andThen_ok,
          Action.onPart_apply, write']
        cases done with
        | error fault =>
          obtain ⟨cause, rfl, refused, kept⟩ := store_refused unwritable stored write
          rw [refused]
          exact takes_refused queue kept
        | ok done =>
          obtain ⟨going, stored⟩ := store_done unwritable stored write
          rw [going, Glance.reply, queue]
          exact takes_reply (.mutex address) stored
      · rw [if_neg free, if_neg free]
        by_cases bare : tag &&& mutexWaitersBit = 0
        · rw [if_pos bare, if_pos bare]
          rcases write : writeValue address (tag ||| mutexWaitersBit) c with ⟨done, d, log'⟩
          simp only [Action.bind_apply, Action.onPart_apply, write]
          cases done with
          | error fault =>
            obtain ⟨cause, rfl, refused, kept⟩ := store_refused unwritable stored write
            rw [refused]
            exact takes_refused queue kept
          | ok done =>
            obtain ⟨going, stored⟩ := store_done unwritable stored write
            rw [going, Glance.block, queue]
            exact takes_block stored
        · rw [if_neg bare, if_neg bare, Glance.block, queue]
          exact takes_block stored

theorem unlock_takes (distinct : Distinct (p.mutexes.queueAt address)) :
    Takes p (.mutex address)
      ((SyncStep.unlock address).respond ((SyncStep.unlock address).glance p))
      ((mutexUnlock address p).outcome.map fun woken => .woke woken.toList)
      (mutexUnlock address p).state := by
  generalize seen : (SyncStep.unlock address).glance p = g
  have queue : g.queue = p.mutexes.queueAt address := seen ▸ rfl
  have unreadable : g.unreadable = SteadyChannel.refusal p.channel .read address 4 := seen ▸ rfl
  have unwritable : g.unwritable = SteadyChannel.refusal p.channel .write address 4 := seen ▸ rfl
  have handing : ∀ {before entry after},
      WaitEntry.Selected (p.mutexes.queueAt address) before entry after →
      (SyncStep.unlock address).respond g =
        g.store address (ownedTag entry.handle (1 < p.mutexes.waiters address))
          (g.wake [entry]) := by
    intro before entry after cut
    rw [WaitQueues.waiters, ← queue]
    exact SyncStep.respond_unlock_of_selected (queue ▸ cut)
  have ended := mutexUnlock_exit p address
  generalize (mutexUnlock address p).outcome = answer at ended ⊢
  generalize (mutexUnlock address p).state = q at ended ⊢
  cases ended with
  | unread nobody read =>
    obtain ⟨cause, refusal, rfl, stored⟩ := readWord_error read
    have turn : (SyncStep.unlock address).respond g = g.refused address cause := by
      rw [SyncStep.respond, queue, nobody, unreadable, refusal]
      rfl
    rw [turn]
    exact takes_refused queue stored
  | uncleared nobody read write =>
    obtain ⟨readable, -, stored⟩ := readWord_ok read
    rw [SyncStep.respond_unlock_of_nobody (queue.trans nobody) (unreadable.trans readable)]
    obtain ⟨cause, rfl, refused, kept⟩ := store_refused unwritable stored write
    rw [refused]
    exact takes_refused queue kept
  | cleared nobody read write =>
    obtain ⟨readable, -, stored⟩ := readWord_ok read
    rw [SyncStep.respond_unlock_of_nobody (queue.trans nobody) (unreadable.trans readable)]
    obtain ⟨going, stored⟩ := store_done unwritable stored write
    rw [going, Glance.reply, queue]
    exact takes_reply (.mutex address) stored
  | unhanded cut write =>
    rw [handing cut]
    obtain ⟨cause, rfl, refused, kept⟩ := store_refused unwritable (.refl _) write
    rw [refused]
    exact takes_refused queue kept
  | handed cut write =>
    rw [handing cut]
    obtain ⟨going, stored⟩ := store_done unwritable (.refl _) write
    rw [going, Glance.wake, queue]
    exact takes_handed distinct cut.mem stored

theorem wait_takes (p : GuestProcess M A F) (address : VirtAddr) (thread : GuestThread) :
    Takes p (.condition address)
      ((SyncStep.wait address thread).respond ((SyncStep.wait address thread).glance p))
      ((conditionWait address thread p).outcome.map .blocked)
      (conditionWait address thread p).state := by
  rw [conditionWait_outcome, conditionWait_state]
  refine ⟨rfl, WaitQueues.queueAt_setQueue_self _, fun other apart => ?_, .refl _, rfl,
    fun entry => ?_⟩
  · exact WaitRun.queueOf_of_conditions rfl (fun _ => WaitQueues.queueAt_setQueue_other _) apart
  · simp [SyncStep.respond, Glance.block, WakeBoard.isWoken, WakeBoard.enter]

theorem signal_takes (distinct : Distinct (p.conditions.queueAt address)) (amount : UInt64) :
    Takes p (.condition address)
      ((SyncStep.signal address amount).respond ((SyncStep.signal address amount).glance p))
      ((conditionSignal address amount p).outcome.map .woke)
      (conditionSignal address amount p).state := by
  have taken := WaitQueues.taken_popUpTo amount.toNat distinct
  have picked := WaitQueues.popUpTo_eq_take amount.toNat p.conditions address
  rw [conditionSignal_outcome, conditionSignal_state, SyncStep.respond, Glance.wake]
  rw [picked] at taken ⊢
  refine ⟨rfl, ?_, fun other apart => ?_, .refl _, WaitRun.made_foldl_wake _ _,
    fun entry => ?_⟩
  · rw [Turn.queued, Option.map_none, Option.toList_none, List.append_nil]
    exact taken.left
  · exact WaitRun.queueOf_of_conditions rfl taken.others apart
  · exact WaitRun.isWoken_foldl_wake p.wakes _ entry

theorem timeout_takes {entry : WaitEntry} (distinct : Distinct (p.conditions.queueAt address))
    (queued : p.wakes.isWoken entry = false → entry ∈ p.conditions.queueAt address) :
    Takes p (.condition address)
      ((SyncStep.timeout address entry).respond ((SyncStep.timeout address entry).glance p))
      ((conditionTimeout address entry p).outcome.map .ended)
      (conditionTimeout address entry p).state := by
  have seen : ((SyncStep.timeout address entry).glance p).woken = p.wakes.isWoken entry := rfl
  rw [SyncStep.respond, seen]
  cases woken : p.wakes.isWoken entry with
  | true =>
    rw [if_pos rfl, conditionTimeout_of_woken address woken]
    exact takes_reply (.condition address) (.refl _)
  | false =>
    obtain ⟨outcome, state⟩ := conditionTimeout_of_asleep address woken distinct (queued woken)
    rw [if_neg Bool.false_ne_true, outcome, state]
    refine ⟨rfl, ?_, fun other apart => ?_, .refl _, rfl, fun other => ?_⟩
    · rw [Turn.queued]
      exact (WaitQueues.queueAt_setQueue_self _).trans (List.append_nil _).symm
    · exact WaitRun.queueOf_of_conditions rfl (fun _ => WaitQueues.queueAt_setQueue_other _) apart
    · simp [Glance.reply]

/-- A step that a process has room for: no identity is queued twice, and what gives up waiting was
woken or is queued. -/
structure Fits (step : SyncStep) (p : GuestProcess M A F) : Prop where
  distinct : Distinct (p.queueOf step.place)
  listed : ∀ address entry, step = .timeout address entry → p.wakes.isWoken entry = false →
    entry ∈ p.conditions.queueAt address

/-- The calls of a process do what `respond` says. -/
theorem perform_takes {step : SyncStep} (fits : Fits step p) :
    Takes p step.place (step.respond (step.glance p)) (step.perform p).outcome
      (step.perform p).state := by
  cases step with
  | lock address owner insist thread =>
    rw [SyncStep.perform, Action.outcome_map, Action.state_map]
    exact lock_takes p address owner insist thread
  | unlock address =>
    rw [SyncStep.perform, Action.outcome_map, Action.state_map]
    exact unlock_takes fits.distinct
  | wait address thread =>
    rw [SyncStep.perform, Action.outcome_map, Action.state_map]
    exact wait_takes p address thread
  | signal address amount =>
    rw [SyncStep.perform, Action.outcome_map, Action.state_map]
    exact signal_takes fits.distinct amount
  | timeout address entry =>
    rw [SyncStep.perform, Action.outcome_map, Action.state_map]
    exact timeout_takes fits.distinct (fits.listed address entry rfl)

end Takes

end GuestProcess

end GuestKernel
