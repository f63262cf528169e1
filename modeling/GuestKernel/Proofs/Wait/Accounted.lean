import Mathlib
import GuestKernel.Proofs.Condition.Calls
import GuestKernel.Proofs.Mutex.Calls
import GuestKernel.Proofs.Wait.Ledger

/-!
# The account of every entry

`Accounted` ties the queues and the flags of a process to the events of its run: a queue holds what
arrived there and is not gone, and a flag is set exactly for what was woken. A step changes both
sides in one of three ways, listed in `Change`, and each of them keeps the account.
-/

set_option autoImplicit false

namespace GuestKernel

namespace WaitRun

open GuestProcess

variable {M A F : Type} {s t : WaitRun M A F} {place other : WaitPlace} {e e' : WaitEntry}

/-- The events of a run account for the queues and the flags of its process. -/
structure Accounted (s : WaitRun M A F) : Prop where
  made : (arrivals s.events).map (fun a => a.2.id) = List.range s.process.wakes.made
  queues : ∀ place, s.process.queueOf place = remaining (gone s.events) (arrivedAt s.events place)
  flags : s.process.wakes.woken = ((woken s.events).map WaitEntry.id).reverse
  once : (gone s.events).Nodup
  oneReturn : (backs s.events).Nodup
  origin : ∀ event ∈ s.events, ∀ e, e ∈ event.removed ∨ e ∈ event.back →
    (event.place, e) ∈ arrivals s.events
  answered : ∀ address e, .returned address e true ∈ s.events → e ∈ woken s.events

namespace Accounted

theorem id_lt (h : Accounted s) (arrived : (place, e) ∈ arrivals s.events) :
    e.id < s.process.wakes.made := by
  have mem : e.id ∈ (arrivals s.events).map fun a => a.2.id := List.mem_map.mpr ⟨_, arrived, rfl⟩
  rw [h.made] at mem
  exact List.mem_range.mp mem

/-- Every entry arrived at one place. -/
theorem unique (h : Accounted s) (arrived : (place, e) ∈ arrivals s.events)
    (arrived' : (other, e') ∈ arrivals s.events) (same : e.id = e'.id) :
    place = other ∧ e = e' := by
  have nodup : ((arrivals s.events).map fun a => a.2.id).Nodup := h.made ▸ List.nodup_range
  have := List.inj_on_of_nodup_map nodup arrived arrived' same
  rwa [Prod.mk.injEq] at this

theorem mem_queueOf_iff (h : Accounted s) :
    e ∈ s.process.queueOf place ↔ (place, e) ∈ arrivals s.events ∧ e ∉ gone s.events := by
  rw [h.queues, mem_remaining, mem_arrivedAt_iff]

theorem distinct (h : Accounted s) (place : WaitPlace) : Distinct (s.process.queueOf place) := by
  rw [h.queues]
  apply Distinct.remaining
  have nodup : ((arrivals s.events).map fun a => a.2.id).Nodup := h.made ▸ List.nodup_range
  have sub := (List.filter_sublist (p := fun a => decide (a.1 = place))
    (l := arrivals s.events)).map fun a : WaitPlace × WaitEntry => a.2.id
  rw [Distinct, arrivedAt, List.map_map]
  exact nodup.sublist sub

theorem arrived_of_gone (h : Accounted s) (left : e ∈ gone s.events) :
    ∃ event ∈ s.events, e ∈ event.removed ∧ (event.place, e) ∈ arrivals s.events := by
  obtain ⟨event, mem, removed⟩ := List.mem_flatMap.mp left
  exact ⟨event, mem, removed, h.origin event mem e (.inl removed)⟩

theorem count_gone_le_one (h : Accounted s) (e : WaitEntry) :
    (woken s.events).count e + (expired s.events).count e ≤ 1 := by
  rw [← count_gone]
  exact List.nodup_iff_count_le_one.mp h.once e

theorem isWoken_iff (h : Accounted s) (arrived : (place, e) ∈ arrivals s.events) :
    s.process.wakes.isWoken e = true ↔ e ∈ woken s.events := by
  rw [WakeBoard.isWoken, List.contains_iff_mem, h.flags, List.mem_reverse, List.mem_map]
  constructor
  · rintro ⟨e', woke, same⟩
    have left := (woken_sublist_gone s.events).subset woke
    obtain ⟨event, _, _, arrived'⟩ := h.arrived_of_gone left
    exact (h.unique arrived' arrived same).2 ▸ woke
  · intro woke
    exact ⟨e, woke, rfl⟩

/-- A queued entry was not woken. -/
theorem asleep_of_queued (h : Accounted s) (queued : e ∈ s.process.queueOf place) :
    s.process.wakes.isWoken e = false := by
  obtain ⟨arrived, stays⟩ := h.mem_queueOf_iff.mp queued
  rw [← Bool.not_eq_true, h.isWoken_iff arrived]
  intro woke
  exact stays ((woken_sublist_gone s.events).subset woke)

theorem returned_of_back (h : Accounted s) (arrived : (place, e) ∈ arrivals s.events)
    (back : e ∈ backs s.events) :
    ∃ address answer, place = .condition address ∧ .returned address e answer ∈ s.events := by
  obtain ⟨event, mem, back⟩ := List.mem_flatMap.mp back
  have there := h.origin event mem e (.inr back)
  cases event with
  | returned address e' answer =>
    rw [WaitEvent.back, List.mem_singleton] at back
    subst back
    exact ⟨address, answer, (h.unique arrived there rfl).1, mem⟩
  | _ => cases back

/-- A waiting call whose entry was not woken finds it in the queue. -/
theorem queued_of_waiting (h : Accounted s) {address : VirtAddr} (waiting : s.Waiting address e)
    (asleep : s.process.wakes.isWoken e = false) :
    e ∈ s.process.queueOf (.condition address) := by
  have arrived := mem_arrivals_iff.mpr waiting.arrived
  refine h.mem_queueOf_iff.mpr ⟨arrived, ?_⟩
  intro left
  rcases mem_gone_iff.mp left with woke | expired
  · rw [(h.isWoken_iff arrived).mpr woke] at asleep
    cases asleep
  · obtain ⟨address', mem⟩ := mem_expired_iff.mp expired
    have there := h.origin _ mem e (.inr (List.mem_singleton_self e))
    have same := (h.unique arrived there rfl).1
    cases same
    exact waiting.pending false mem

theorem back_of_waiting (h : Accounted s) {address : VirtAddr} (waiting : s.Waiting address e) :
    (.condition address, e) ∈ arrivals s.events ∧ e ∉ backs s.events := by
  have arrived := mem_arrivals_iff.mpr waiting.arrived
  refine ⟨arrived, fun back => ?_⟩
  obtain ⟨address', answer, same, mem⟩ := h.returned_of_back arrived back
  cases same
  exact waiting.pending answer mem

end Accounted

/-- The ways in which a step changes the waiting threads. -/
inductive Change (s : WaitRun M A F) : WaitRun M A F → Prop where
  | idle {q : GuestProcess M A F} (same : SameWaits s.process q) : Change s ⟨q, s.events⟩
  | arrival {q : GuestProcess M A F} (place : WaitPlace) (thread : GuestThread)
      (wakes : q.wakes = (s.process.wakes.enter thread).2)
      (queue : q.queueOf place =
        s.process.queueOf place ++ [.ofThread s.process.wakes.made thread])
      (others : ∀ other, other ≠ place → q.queueOf other = s.process.queueOf other) :
      Change s ⟨q, s.events ++ [.arrived place (.ofThread s.process.wakes.made thread)]⟩
  | departure {q : GuestProcess M A F} (event : WaitEvent) (nobody : event.arrival? = none)
      (queued : ∀ e ∈ event.removed, e ∈ s.process.queueOf event.place)
      (once : event.removed.Nodup)
      (left : q.queueOf event.place = remaining event.removed (s.process.queueOf event.place))
      (others : ∀ other, other ≠ event.place → q.queueOf other = s.process.queueOf other)
      (wakes : q.wakes = event.woke.foldl WakeBoard.wake s.process.wakes)
      (back : ∀ e ∈ event.back, (event.place, e) ∈ arrivals s.events ∧ e ∉ backs s.events)
      (answer : ∀ address e, event = .returned address e true →
        s.process.wakes.isWoken e = true) :
      Change s ⟨q, s.events ++ [event]⟩

section Wakes
variable (board : WakeBoard)

theorem made_foldl_wake (l : List WaitEntry) :
    (l.foldl WakeBoard.wake board).made = board.made := by
  induction l generalizing board with
  | nil => rfl
  | cons e l ih => exact ih _

theorem woken_foldl_wake (l : List WaitEntry) :
    (l.foldl WakeBoard.wake board).woken = (l.map WaitEntry.id).reverse ++ board.woken := by
  induction l generalizing board with
  | nil => rfl
  | cons e l ih =>
    rw [List.foldl_cons, ih, List.map_cons, List.reverse_cons, List.append_assoc]
    rfl

theorem isWoken_foldl_wake (l : List WaitEntry) (e : WaitEntry) :
    (l.foldl WakeBoard.wake board).isWoken e = true ↔
      e.id ∈ l.map WaitEntry.id ∨ board.isWoken e = true := by
  rw [WakeBoard.isWoken, List.contains_iff_mem, woken_foldl_wake, List.mem_append,
    List.mem_reverse, WakeBoard.isWoken, List.contains_iff_mem]

end Wakes

theorem Accounted.idle (h : Accounted s) {q : GuestProcess M A F} (same : SameWaits s.process q) :
    Accounted ⟨q, s.events⟩ := by
  refine ⟨?_, ?_, ?_, h.once, h.oneReturn, h.origin, h.answered⟩
  · rw [same.wakes]
    exact h.made
  · intro place
    rw [← h.queues]
    cases place with
    | mutex address => simp only [queueOf, same.mutexes]
    | condition address => simp only [queueOf, same.conditions]
  · rw [same.wakes]
    exact h.flags

theorem Accounted.arrival (h : Accounted s) {q : GuestProcess M A F} (place : WaitPlace)
    (thread : GuestThread) (wakes : q.wakes = (s.process.wakes.enter thread).2)
    (queue : q.queueOf place = s.process.queueOf place ++ [.ofThread s.process.wakes.made thread])
    (others : ∀ other, other ≠ place → q.queueOf other = s.process.queueOf other) :
    Accounted ⟨q, s.events ++ [.arrived place (.ofThread s.process.wakes.made thread)]⟩ := by
  have goneSame := gone_append s.events (.arrived place (.ofThread s.process.wakes.made thread))
  have wokenSame := woken_append s.events (.arrived place (.ofThread s.process.wakes.made thread))
  have backsSame := backs_append s.events (.arrived place (.ofThread s.process.wakes.made thread))
  rw [show WaitEvent.removed (.arrived _ _) = [] from rfl, List.append_nil] at goneSame
  rw [show WaitEvent.woke (.arrived _ _) = [] from rfl, List.append_nil] at wokenSame
  rw [show WaitEvent.back (.arrived _ _) = [] from rfl, List.append_nil] at backsSame
  -- what is gone has arrived before, and so has a smaller number than the newcomer
  have fresh : .ofThread s.process.wakes.made thread ∉ gone s.events := by
    intro left
    obtain ⟨_, _, _, arrived⟩ := h.arrived_of_gone left
    exact Nat.lt_irrefl _ (h.id_lt arrived)
  refine ⟨?_, ?_, ?_, ?_, ?_, ?_, ?_⟩
  · rw [arrivals_append, List.map_append, h.made, wakes]
    exact List.range_succ.symm
  · intro other
    rw [goneSame, arrivedAt_append_arrived]
    split
    · rename_i same
      subst same
      rw [queue, h.queues, remaining, remaining, List.filter_append]
      simp [fresh]
    · rename_i apart
      rw [others other apart, h.queues]
  · rw [wokenSame, wakes]
    exact h.flags
  · rw [goneSame]
    exact h.once
  · rw [backsSame]
    exact h.oneReturn
  · intro event mem e concerned
    rw [arrivals_append]
    rcases List.mem_append.mp mem with mem | mem
    · exact List.mem_append_left _ (h.origin event mem e concerned)
    · rw [List.mem_singleton] at mem
      subst mem
      rcases concerned with concerned | concerned <;> cases concerned
  · intro address e mem
    rw [wokenSame]
    rcases List.mem_append.mp mem with mem | mem
    · exact h.answered address e mem
    · rw [List.mem_singleton] at mem
      cases mem

theorem Accounted.departure (h : Accounted s) {q : GuestProcess M A F} (event : WaitEvent)
    (nobody : event.arrival? = none)
    (queued : ∀ e ∈ event.removed, e ∈ s.process.queueOf event.place)
    (once : event.removed.Nodup)
    (left : q.queueOf event.place = remaining event.removed (s.process.queueOf event.place))
    (others : ∀ other, other ≠ event.place → q.queueOf other = s.process.queueOf other)
    (wakes : q.wakes = event.woke.foldl WakeBoard.wake s.process.wakes)
    (back : ∀ e ∈ event.back, (event.place, e) ∈ arrivals s.events ∧ e ∉ backs s.events)
    (answer : ∀ address e, event = .returned address e true →
      s.process.wakes.isWoken e = true) :
    Accounted ⟨q, s.events ++ [event]⟩ := by
  have arrivalsSame : arrivals (s.events ++ [event]) = arrivals s.events := by
    rw [arrivals_append, nobody]
    exact List.append_nil _
  have apart : ∀ e ∈ event.removed, e ∉ gone s.events := fun e removed =>
    (h.mem_queueOf_iff.mp (queued e removed)).2
  refine ⟨?_, ?_, ?_, ?_, ?_, ?_, ?_⟩
  · rw [arrivalsSame, wakes, made_foldl_wake]
    exact h.made
  · intro place
    rw [gone_append, arrivedAt_of_arrivals arrivalsSame, remaining_append, ← h.queues]
    by_cases same : place = event.place
    · rw [same]
      exact left
    · -- what leaves was queued at the place of the event, so it is not in another queue
      rw [others place same]
      refine (remaining_of_absent fun e there removed => same ?_).symm
      have here := (h.mem_queueOf_iff.mp (queued e removed)).1
      exact (h.unique (h.mem_queueOf_iff.mp there).1 here rfl).1
  · rw [wakes, woken_foldl_wake, h.flags, woken_append, List.map_append, List.reverse_append]
  · rw [gone_append]
    refine List.nodup_append.mpr ⟨h.once, once, ?_⟩
    intro e gone e' removed same
    exact apart e' removed (same ▸ gone)
  · rw [backs_append]
    have single : event.back.Nodup := by cases event <;> simp [WaitEvent.back]
    refine List.nodup_append.mpr ⟨h.oneReturn, single, ?_⟩
    intro e before e' now same
    exact (back e' now).2 (same ▸ before)
  · intro event' mem e concerned
    rw [arrivalsSame]
    rcases List.mem_append.mp mem with mem | mem
    · exact h.origin event' mem e concerned
    · rw [List.mem_singleton] at mem
      subst mem
      rcases concerned with removed | returned
      · exact (h.mem_queueOf_iff.mp (queued e removed)).1
      · exact (back e returned).1
  · intro address e mem
    rw [woken_append]
    apply List.mem_append_left
    rcases List.mem_append.mp mem with mem | mem
    · exact h.answered address e mem
    · have same := (List.mem_singleton.mp mem).symm
      have arrived : (event.place, e) ∈ arrivals s.events := by
        refine (back e ?_).1
        rw [same]
        exact List.mem_singleton_self e
      exact (h.isWoken_iff arrived).mp (answer address e same)

/-- Every change keeps the account. -/
theorem Change.accounted (h : Accounted s) (change : Change s t) : Accounted t := by
  cases change with
  | idle same => exact h.idle same
  | arrival place thread wakes queue others => exact h.arrival place thread wakes queue others
  | departure event nobody queued once left others wakes back answer =>
    exact h.departure event nobody queued once left others wakes back answer

theorem Change.arrivals_subset (change : Change s t) : arrivals s.events ⊆ arrivals t.events := by
  cases change with
  | idle => exact List.Subset.refl _
  | arrival place thread =>
    rw [arrivals_append]
    exact List.subset_append_left _ _
  | departure event =>
    rw [arrivals_append]
    exact List.subset_append_left _ _

/-- While the queue of its place stays as it is, an entry is not woken. -/
theorem Change.isWoken_of_untouched (h : Accounted s) (h' : Accounted t) (change : Change s t)
    (arrived : (place, e) ∈ arrivals s.events)
    (untouched : t.process.queueOf place = s.process.queueOf place) :
    t.process.wakes.isWoken e = s.process.wakes.isWoken e := by
  cases change with
  | idle same => rw [same.wakes]
  | arrival place thread wakes queue others =>
    rw [wakes]
    rfl
  | departure event nobody queued once left others wakes back answer =>
    have arrived' : (place, e) ∈ arrivals (s.events ++ [event]) := by
      rw [arrivals_append]
      exact List.mem_append_left _ arrived
    rw [Bool.eq_iff_iff, h'.isWoken_iff arrived', h.isWoken_iff arrived, woken_append,
      List.mem_append, or_iff_left]
    intro woke
    have removed : e ∈ event.removed := List.mem_append_left _ woke
    have was := queued e removed
    obtain ⟨rfl, _⟩ := h.unique arrived (h.mem_queueOf_iff.mp was).1 rfl
    -- it was in the queue, which is as before, and yet it is removed from it
    rw [← untouched, left] at was
    exact (mem_remaining.mp was).2 removed

theorem queueOf_of_mutexes {p q : GuestProcess M A F} {address : VirtAddr}
    (conditions : q.conditions = p.conditions)
    (mutexes : ∀ there, there ≠ address → q.mutexes.queueAt there = p.mutexes.queueAt there)
    (apart : place ≠ .mutex address) : q.queueOf place = p.queueOf place := by
  cases place with
  | mutex there => exact mutexes there fun same => apart (same ▸ rfl)
  | condition there => rw [queueOf, queueOf, conditions]

theorem queueOf_of_conditions {p q : GuestProcess M A F} {address : VirtAddr}
    (mutexes : q.mutexes = p.mutexes)
    (conditions : ∀ there, there ≠ address →
      q.conditions.queueAt there = p.conditions.queueAt there)
    (apart : place ≠ .condition address) : q.queueOf place = p.queueOf place := by
  cases place with
  | mutex there => rw [queueOf, queueOf, mutexes]
  | condition there => exact conditions there fun same => apart (same ▸ rfl)

theorem after_of_ok {α : Type} {call : Action (GuestProcess M A F) α}
    {happened : α → List WaitEvent} {answer : α}
    (h : (call s.process).outcome = .ok answer) :
    s.after call happened = ⟨(call s.process).state, s.events ++ happened answer⟩ := by
  rw [after, h]

theorem change_wait (address : VirtAddr) (thread : GuestThread) :
    Change s (s.after (conditionWait address thread)
      fun entry => [.arrived (.condition address) entry]) := by
  rw [after_of_ok (conditionWait_outcome s.process address thread), conditionWait_state]
  refine .arrival (.condition address) thread rfl (WaitQueues.queueAt_setQueue_self _) ?_
  intro other apart
  exact queueOf_of_conditions rfl (fun _ => WaitQueues.queueAt_setQueue_other _) apart

theorem change_signal (h : Accounted s) (address : VirtAddr) (amount : UInt64) :
    Change s (s.after (conditionSignal address amount)
      fun woken => [.signalled address woken]) := by
  rw [after_of_ok (conditionSignal_outcome s.process address amount), conditionSignal_state]
  have taken := WaitQueues.taken_popUpTo amount.toNat (h.distinct (.condition address))
  have removed : ∀ woken, WaitEvent.removed (.signalled address woken) = woken := fun woken =>
    List.append_nil woken
  refine .departure (.signalled address _) rfl ?_ ?_ ?_ ?_ rfl (by simp [WaitEvent.back]) (by simp)
  · rw [removed]
    exact taken.queued
  · rw [removed]
    exact taken.once
  · rw [removed]
    exact taken.left
  · intro other apart
    exact queueOf_of_conditions rfl taken.others apart

/-- A return with `true` changes no queue. -/
theorem change_return (h : Accounted s) {address : VirtAddr} (waiting : s.Waiting address e)
    (woken : s.process.wakes.isWoken e = true) :
    Change s ⟨s.process, s.events ++ [.returned address e true]⟩ := by
  refine .departure (.returned address e true) rfl (by simp [WaitEvent.removed, WaitEvent.woke,
    WaitEvent.handedTo, WaitEvent.signalledTo, WaitEvent.expiry]) .nil remaining_nil.symm
    (fun _ _ => rfl) rfl ?_ ?_
  · intro e' back
    rw [List.mem_singleton.mp back]
    exact h.back_of_waiting waiting
  · intro address' e' same
    cases same
    exact woken

theorem change_timeout (h : Accounted s) {address : VirtAddr} (waiting : s.Waiting address e) :
    Change s (s.after (conditionTimeout address e)
      fun answer => [.returned address e answer]) := by
  cases woken : s.process.wakes.isWoken e with
  | true =>
    have exit := conditionTimeout_of_woken address woken
    rw [after_of_ok (by rw [exit]), exit]
    exact change_return h waiting woken
  | false =>
    have queued := h.queued_of_waiting waiting woken
    obtain ⟨outcome, state⟩ :=
      conditionTimeout_of_asleep address woken (h.distinct (.condition address)) queued
    rw [after_of_ok outcome, state]
    refine .departure (.returned address e false) rfl ?_ (List.nodup_singleton e)
      (WaitQueues.queueAt_setQueue_self _) ?_ rfl ?_ (by simp)
    · intro e' removed
      rw [List.mem_singleton.mp removed]
      exact queued
    · intro other apart
      exact queueOf_of_conditions rfl (fun _ => WaitQueues.queueAt_setQueue_other _) apart
    · intro e' back
      rw [List.mem_singleton.mp back]
      exact h.back_of_waiting waiting

section Steps
variable [MemoryChannel M]

theorem change_lock (address : VirtAddr) (owner : Handle) (insist : Bool) (thread : GuestThread) :
    Change s (s.after (mutexLock address owner insist thread) (lockEvents address)) := by
  have exit := mutexLock_exit s.process address owner insist thread
  rcases call : mutexLock address owner insist thread s.process with ⟨outcome, q, log⟩
  rw [call] at exit
  simp only [after, call]
  cases exit with
  | unread | untaken | unmarked | turnedAway | taken =>
    simp only [lockEvents, List.append_nil]
    exact .idle ⟨rfl, rfl, rfl⟩
  | queued =>
    refine .arrival (.mutex address) thread rfl (WaitQueues.queueAt_setQueue_self _) ?_
    intro other apart
    exact queueOf_of_mutexes rfl (fun _ => WaitQueues.queueAt_setQueue_other _) apart

theorem change_unlock (h : Accounted s) (address : VirtAddr) :
    Change s (s.after (mutexUnlock address) (unlockEvents address)) := by
  have exit := mutexUnlock_exit s.process address
  rcases call : mutexUnlock address s.process with ⟨outcome, q, log⟩
  rw [call] at exit
  simp only [after, call]
  cases exit with
  | unread | uncleared | unhanded | cleared =>
    simp only [unlockEvents, List.append_nil]
    exact .idle ⟨rfl, rfl, rfl⟩
  | @handed before rest entry _ _ cut _ =>
    have mem : entry ∈ s.process.queueOf (.mutex address) := cut.mem
    have removal := WaitQueues.remove_of_mem (h.distinct (.mutex address)) mem
    refine .departure (.handed address entry) rfl ?_ (List.nodup_singleton entry) ?_ ?_ rfl
      (by simp [WaitEvent.back]) (by simp)
    · intro e removed
      rw [List.mem_singleton.mp removed]
      exact mem
    · simp only [queueOf, removal, Option.getD_some, WaitEvent.place]
      exact WaitQueues.queueAt_setQueue_self _
    · intro other apart
      simp only [removal, Option.getD_some]
      exact queueOf_of_mutexes rfl (fun _ => WaitQueues.queueAt_setQueue_other _) apart

theorem Step.change (h : Accounted s) (step : Step s t) : Change s t := by
  cases step with
  | lock address owner insist thread => exact change_lock address owner insist thread
  | unlock address => exact change_unlock h address
  | wait address thread => exact change_wait address thread
  | signal address amount => exact change_signal h address amount
  | timeout address entry waiting => exact change_timeout h waiting
  | wake address entry waiting woken => exact change_return h waiting woken
  | guest channel => exact .idle ⟨rfl, rfl, rfl⟩
  | other call keeps =>
    have same := keeps s.process
    simp only [after]
    split
    · rw [List.append_nil]
      exact .idle same
    · rw [List.append_nil]
      exact .idle same

/-- The events of every run account for its process. -/
theorem Reachable.accounted (h : Reachable s) : Accounted s := by
  induction h with
  | start =>
    refine ⟨rfl, ?_, rfl, .nil, .nil, by simp, by simp⟩
    intro place
    cases place <;> rfl
  | step _ step ih => exact (step.change ih).accounted ih

end Steps

end WaitRun

end GuestKernel
