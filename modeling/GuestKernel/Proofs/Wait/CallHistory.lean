import Mathlib
import GuestKernel.Proofs.Wait.Occurrences

/-!
# Calls on wait queues and their answers

A `QueueHistory` is a map of queues with the entries that were made and with every call on the map
and its answer. A caller has no entry but one that was made, and each that is made gets a number of
its own, so that two entries with one number are the same entry (`Reachable.identified`). An entry
may be queued many times, at one address and at several, and also after it was woken.

`QueueExit` lists the ways in which a call can end, and `QueueEvent.Moves` what that is for one
queue. Unlike in a `QueueRun`, occurrences have no numbers: only what callers see is kept.
-/

set_option autoImplicit false

namespace GuestKernel

/-- A call on a map of queues, with its answer. -/
inductive QueueEvent where
  | pushed (address : VirtAddr) (entry : WaitEntry)
  | popped (address : VirtAddr) (answer : Option WaitEntry)
  | peeked (address : VirtAddr) (answer : Option WaitEntry)
  | removed (address : VirtAddr) (entry : WaitEntry) (answer : Bool)
  deriving DecidableEq

namespace QueueEvent

def address : QueueEvent → VirtAddr
  | pushed address _ | popped address _ | peeked address _ | removed address _ _ => address

/-- The entry that a call put into the queue of an address. -/
def arrivalAt (address : VirtAddr) : QueueEvent → Option WaitEntry
  | pushed there entry => if there = address then some entry else none
  | _ => none

/-- The entry that a successful call took out of the queue of an address. -/
def departureAt (address : VirtAddr) : QueueEvent → Option WaitEntry
  | popped there (some entry) => if there = address then some entry else none
  | removed there entry true => if there = address then some entry else none
  | _ => none

/-- What becomes of the queue of an address. -/
inductive Moves (event : QueueEvent) (address : VirtAddr) (queue : List WaitEntry) :
    List WaitEntry → Prop where
  | arrival {e : WaitEntry} (arrives : event.arrivalAt address = some e)
      (stays : event.departureAt address = none) : Moves event address queue (queue ++ [e])
  | departure {e : WaitEntry} (nobody : event.arrivalAt address = none)
      (leaves : event.departureAt address = some e) (queued : e ∈ queue) :
      Moves event address queue (queue.erase e)
  | still (nobody : event.arrivalAt address = none) (stays : event.departureAt address = none) :
      Moves event address queue queue

end QueueEvent

namespace QueueCall

def address : QueueCall → VirtAddr
  | push address _ | popNext address | peekNext address | remove address _ => address

/-- The entry with which a call is made. -/
def given? : QueueCall → Option WaitEntry
  | push _ entry | remove _ entry => some entry
  | popNext _ | peekNext _ => none

/-- The queues that a call leaves. -/
def rest (q : WaitQueues) : QueueCall → WaitQueues
  | push address entry => (WaitQueues.push address entry q).state
  | popNext address => ((q.popNext address).map Prod.snd).getD q
  | peekNext _ => q
  | remove address entry => (q.remove address entry).getD q

def event (q : WaitQueues) : QueueCall → QueueEvent
  | push address entry => .pushed address entry
  | popNext address => .popped address ((q.popNext address).map Prod.fst)
  | peekNext address => .peeked address (q.peekNext address)
  | remove address entry => .removed address entry (q.remove address entry).isSome

end QueueCall

/-- The ways in which a call on a map of queues can end. -/
inductive QueueExit (q : WaitQueues) : QueueEvent → WaitQueues → Prop where
  | pushed (address : VirtAddr) (entry : WaitEntry) :
      QueueExit q (.pushed address entry)
        (q.setQueue address (q.queueAt address ++ [entry]))
  | popped {address : VirtAddr} {before after : List WaitEntry} {entry : WaitEntry}
      (cut : WaitEntry.Selected (q.queueAt address) before entry after) :
      QueueExit q (.popped address (some entry)) (q.setQueue address (before ++ after))
  | unpopped {address : VirtAddr} (nobody : q.queueAt address = []) :
      QueueExit q (.popped address none) q
  | peeked (address : VirtAddr) : QueueExit q (.peeked address (q.peekNext address)) q
  /-- The first occurrence of the entry goes, whatever entries with equal data stand before it. -/
  | removed {address : VirtAddr} {before after : List WaitEntry} {entry : WaitEntry}
      (split : q.queueAt address = before ++ entry :: after)
      (first : ∀ e ∈ before, e.id ≠ entry.id) :
      QueueExit q (.removed address entry true) (q.setQueue address (before ++ after))
  | unremoved {address : VirtAddr} {entry : WaitEntry}
      (absent : ∀ e ∈ q.queueAt address, e.id ≠ entry.id) :
      QueueExit q (.removed address entry false) q

variable {q r : WaitQueues} {address : VirtAddr} {entry e : WaitEntry}

namespace QueueCall

/-- A call whose entry is the one with its number ends in one of these ways. -/
theorem exit (call : QueueCall) (known : ∀ given ∈ call.given?,
    ∀ e ∈ q.queueAt call.address, e.id = given.id → e = given) :
    QueueExit q (call.event q) (call.rest q) := by
  cases call with
  | push address entry => exact .pushed address entry
  | peekNext address => exact .peeked address
  | popNext address =>
    simp only [event, rest]
    rcases q.nobody_or_selected address with nobody | ⟨before, entry, after, cut⟩
    · rw [WaitQueues.popNext_eq_none_iff.mpr nobody]
      exact .unpopped nobody
    · rw [WaitQueues.popNext_of_selected cut]
      exact .popped cut
  | remove address entry =>
    simp only [event, rest]
    by_cases queued : entry ∈ q.queueAt address
    · obtain ⟨before, after, split, first⟩ := List.eq_append_cons_of_mem queued
      have fresh : ∀ e ∈ before, e.id ≠ entry.id := by
        intro e front same
        have there : e ∈ q.queueAt address := split ▸ List.mem_append_left _ front
        exact first (known entry rfl e there same ▸ front)
      rw [WaitQueues.remove_of_split split fresh]
      exact .removed split fresh
    · have absent : ∀ e ∈ q.queueAt address, e.id ≠ entry.id := fun e there same =>
        queued (known entry rfl e there same ▸ there)
      rw [WaitQueues.remove_eq_none_iff.mpr absent]
      exact .unremoved absent

/-- A call replaces the queue of its address at most. -/
theorem rest_cases (call : QueueCall) (q : WaitQueues) :
    call.rest q = q ∨ ∃ queue, call.rest q = q.setQueue call.address queue := by
  cases call with
  | push address entry => exact .inr ⟨_, rfl⟩
  | peekNext address => exact .inl rfl
  | popNext address =>
    simp only [rest, WaitQueues.popNext]
    cases WaitEntry.chosen (q.queueAt address) with
    | none => exact .inl rfl
    | some found => exact .inr ⟨_, rfl⟩
  | remove address entry =>
    simp only [rest, WaitQueues.remove]
    cases (q.queueAt address).findIdx? fun e => e.id == entry.id with
    | none => exact .inl rfl
    | some i => exact .inr ⟨_, rfl⟩

theorem given_of_arrival (call : QueueCall) (arrives : (call.event q).arrivalAt address = some e) :
    e ∈ call.given? := by
  cases call with
  | push there entry =>
    rw [event, QueueEvent.arrivalAt, Option.ite_none_right_eq_some] at arrives
    exact arrives.2
  | _ => cases arrives

end QueueCall

namespace QueueEvent

variable {event : QueueEvent}

theorem still_elsewhere (apart : address ≠ event.address) :
    event.arrivalAt address = none ∧ event.departureAt address = none := by
  have other := Ne.symm apart
  cases event with
  | pushed there entry => exact ⟨if_neg other, rfl⟩
  | peeked there answer => exact ⟨rfl, rfl⟩
  | popped there answer =>
    cases answer with
    | none => exact ⟨rfl, rfl⟩
    | some entry => exact ⟨rfl, if_neg other⟩
  | removed there entry answer =>
    cases answer with
    | false => exact ⟨rfl, rfl⟩
    | true => exact ⟨rfl, if_neg other⟩

/-- A move at the address of an event is its move everywhere. -/
theorem Moves.setQueue {queue : List WaitEntry}
    (moves : event.Moves event.address (q.queueAt event.address) queue) (address : VirtAddr) :
    event.Moves address (q.queueAt address)
      ((q.setQueue event.address queue).queueAt address) := by
  by_cases here : address = event.address
  · rw [here, WaitQueues.queueAt_setQueue_self]
    exact moves
  · rw [WaitQueues.queueAt_setQueue_other _ here]
    obtain ⟨nobody, stays⟩ := still_elsewhere here
    exact .still nobody stays

end QueueEvent

/-- A call moves one entry at most, and only at its address. -/
theorem QueueExit.moves {event : QueueEvent} (exit : QueueExit q event r) (address : VirtAddr) :
    event.Moves address (q.queueAt address) (r.queueAt address) := by
  cases exit with
  | pushed there entry =>
    have moves : QueueEvent.Moves (.pushed there entry) there (q.queueAt there) _ :=
      .arrival (if_pos rfl) rfl
    exact moves.setQueue address
  | @popped there before after entry cut =>
    have moves : QueueEvent.Moves (.popped there (some entry)) there (q.queueAt there) _ :=
      .departure rfl (if_pos rfl) cut.mem
    rw [← WaitEntry.erase_of_selected cut]
    exact moves.setQueue address
  | @removed there before after entry split first =>
    have queued : entry ∈ q.queueAt there := by
      rw [split]
      exact List.mem_append_right _ List.mem_cons_self
    have moves : QueueEvent.Moves (.removed there entry true) there (q.queueAt there) _ :=
      .departure rfl (if_pos rfl) queued
    rw [← WaitEntry.erase_of_split split fun front => first entry front rfl]
    exact moves.setQueue address
  | unpopped | peeked | unremoved => exact .still rfl rfl

/-- Queues, the entries that were made, and the calls on the queues in order. -/
structure QueueHistory where
  queues : WaitQueues
  made : List WaitEntry
  wakes : WakeBoard
  events : List QueueEvent

namespace QueueHistory

variable {s : QueueHistory}

def enter (s : QueueHistory) (thread : GuestThread) : QueueHistory :=
  { s with made := s.made ++ [(s.wakes.enter thread).1], wakes := (s.wakes.enter thread).2 }

def wake (s : QueueHistory) (entry : WaitEntry) : QueueHistory :=
  { s with wakes := s.wakes.wake entry }

def after (s : QueueHistory) (call : QueueCall) : QueueHistory :=
  { s with queues := call.rest s.queues, events := s.events ++ [call.event s.queues] }

/-- The call is made with an entry that there is. -/
def Possible (s : QueueHistory) (call : QueueCall) : Prop := ∀ e ∈ call.given?, e ∈ s.made

instance (s : QueueHistory) (call : QueueCall) : Decidable (s.Possible call) :=
  inferInstanceAs (Decidable (∀ e ∈ call.given?, e ∈ s.made))

/-- The histories that start with no queue and no entry. -/
inductive Reachable : QueueHistory → Prop where
  | start : Reachable ⟨.empty, [], .empty, []⟩
  | enter {s : QueueHistory} (reachable : Reachable s) (thread : GuestThread) :
      Reachable (s.enter thread)
  | wake {s : QueueHistory} (reachable : Reachable s) (entry : WaitEntry) :
      Reachable (s.wake entry)
  | call {s : QueueHistory} (reachable : Reachable s) (call : QueueCall)
      (possible : s.Possible call) : Reachable (s.after call)

namespace Reachable

theorem numbers (h : Reachable s) : s.made.map WaitEntry.id = List.range s.wakes.made := by
  induction h with
  | start => rfl
  | @enter s _ thread ih =>
    rw [QueueHistory.enter, List.map_append, ih]
    exact List.range_succ.symm
  | wake _ _ ih => exact ih
  | call _ _ _ ih => exact ih

theorem apart (h : Reachable s) : (s.made.map WaitEntry.id).Nodup := by
  rw [h.numbers]
  exact List.nodup_range

/-- The number of an entry is its identity. -/
theorem identified (h : Reachable s) (made : entry ∈ s.made) (made' : e ∈ s.made)
    (same : e.id = entry.id) : e = entry :=
  List.inj_on_of_nodup_map h.apart made' made same

/-- A call ends in one of the ways that are listed, as long as whatever is queued was made; that it
was is shown with this. -/
theorem exit_of_made (h : Reachable s) (queued : ∀ address, ∀ e ∈ s.queues.queueAt address,
    e ∈ s.made) {call : QueueCall} (possible : s.Possible call) :
    QueueExit s.queues (call.event s.queues) (call.rest s.queues) :=
  call.exit fun given mem _ there same =>
    h.identified (possible given mem) (queued call.address _ there) same

theorem queued_made (h : Reachable s) (address : VirtAddr) :
    ∀ e ∈ s.queues.queueAt address, e ∈ s.made := by
  induction h generalizing address with
  | start => exact nofun
  | enter _ _ ih => exact fun e queued => List.mem_append_left _ (ih address e queued)
  | wake _ _ ih => exact ih address
  | @call s reachable call possible ih =>
    intro e queued
    have moves := (reachable.exit_of_made ih possible).moves address
    rw [QueueHistory.after] at queued
    generalize (call.rest s.queues).queueAt address = queue at moves queued
    cases moves with
    | arrival arrives =>
      rcases List.mem_append.mp queued with queued | latest
      · exact ih address e queued
      · rw [List.mem_singleton.mp latest]
        exact possible _ (call.given_of_arrival arrives)
    | departure => exact ih address e (List.mem_of_mem_erase queued)
    | still => exact ih address e queued

theorem exit (h : Reachable s) {call : QueueCall} (possible : s.Possible call) :
    QueueExit s.queues (call.event s.queues) (call.rest s.queues) :=
  h.exit_of_made h.queued_made possible

theorem calls (h : Reachable s) (calls : List QueueCall)
    (possible : ∀ call ∈ calls, s.Possible call) :
    Reachable (calls.foldl QueueHistory.after s) := by
  induction calls generalizing s with
  | nil => exact h
  | cons call calls ih =>
    obtain ⟨first, others⟩ := List.forall_mem_cons.mp possible
    exact ih (h.call call first) others

end Reachable

/-- Three entries, of which the last two have equal data. -/
def threeMade : QueueHistory :=
  ((enter ⟨.empty, [], .empty, []⟩ ⟨16, 20, 1, 0⟩).enter ⟨32, 44, 2, 0⟩).enter ⟨32, 44, 2, 0⟩

theorem threeMade_reachable : Reachable threeMade := ((Reachable.start.enter _).enter _).enter _

end QueueHistory

end GuestKernel
