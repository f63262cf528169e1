import Mathlib
import GuestKernel.Proofs.Wait.CallHistory
import GuestKernel.Proofs.Wait.Pruned

/-!
# What comes and what goes

A queue is its arrivals without one occurrence for each entry that was taken out, in the order of
arrival. `Accounts` says so of one queue; every move keeps it, whichever call makes it. With
`Pruned`, that no empty queue is stored, these are the facts on a map of queues that do not depend
on which entry is served next.
-/

set_option autoImplicit false

namespace GuestKernel

variable {queue queue' pushed taken : List WaitEntry} {address : VirtAddr} {e : WaitEntry}

/-- A newcomer goes behind what is left of those who came before. -/
theorem diff_append_one {l t : List WaitEntry} (contained : t.Subperm l) (e : WaitEntry) :
    (l ++ [e]).diff t = l.diff t ++ [e] := by
  induction t generalizing l with
  | nil => rw [List.diff_nil, List.diff_nil]
  | cons x t ih =>
    have present : x ∈ l := contained.subset List.mem_cons_self
    have rest : t.Subperm (l.erase x) := by
      have erased := contained.erase x
      rwa [List.erase_cons_head] at erased
    rw [List.diff_cons, List.diff_cons, List.erase_append_left _ present, ih rest]

/-- A queue is what was pushed without one occurrence of each that was taken. -/
structure Accounts (queue pushed taken : List WaitEntry) : Prop where
  left : queue = pushed.diff taken
  conserved : (queue ++ taken).Perm pushed

namespace Accounts

theorem arrival (h : Accounts queue pushed taken) (e : WaitEntry) :
    Accounts (queue ++ [e]) (pushed ++ [e]) taken := by
  have contained : taken.Subperm pushed :=
    (List.sublist_append_right queue taken).subperm.trans h.conserved.subperm
  refine ⟨?_, ?_⟩
  · rw [diff_append_one contained, h.left]
  · have behind : (queue ++ [e] ++ taken).Perm (queue ++ taken ++ [e]) := by
      rw [List.append_assoc, List.append_assoc]
      exact List.perm_append_comm.append_left queue
    exact behind.trans (h.conserved.append_right [e])

theorem departure (h : Accounts queue pushed taken) (queued : e ∈ queue) :
    Accounts (queue.erase e) pushed (taken ++ [e]) := by
  refine ⟨?_, ?_⟩
  · rw [List.diff_append, ← h.left, List.diff_cons, List.diff_nil]
  · have gone : (queue.erase e ++ (taken ++ [e])).Perm (queue ++ taken) := by
      rw [← List.append_assoc]
      refine List.perm_append_comm.trans ?_
      exact (List.perm_cons_erase queued).symm.append_right taken
    exact gone.trans h.conserved

theorem move (h : Accounts queue pushed taken) {event : QueueEvent}
    (moves : event.Moves address queue queue') :
    Accounts queue' (pushed ++ (event.arrivalAt address).toList)
      (taken ++ (event.departureAt address).toList) := by
  cases moves with
  | @arrival e arrives stays =>
    rw [arrives, stays, Option.toList_none, List.append_nil]
    exact h.arrival e
  | departure nobody leaves queued =>
    rw [nobody, leaves, Option.toList_none, List.append_nil]
    exact h.departure queued
  | still nobody stays =>
    rw [nobody, stays, Option.toList_none, List.append_nil, List.append_nil]
    exact h

theorem length (h : Accounts queue pushed taken) :
    queue.length + taken.length = pushed.length := by
  rw [← List.length_append]
  exact h.conserved.length_eq

end Accounts

namespace QueueHistory

variable {s : QueueHistory}

/-- What was pushed at an address, in the order of arrival. -/
def pushedAt (s : QueueHistory) (address : VirtAddr) : List WaitEntry :=
  s.events.filterMap (QueueEvent.arrivalAt address)

/-- What successful calls took out of the queue of an address. -/
def takenAt (s : QueueHistory) (address : VirtAddr) : List WaitEntry :=
  s.events.filterMap (QueueEvent.departureAt address)

structure Kept (s : QueueHistory) : Prop where
  accounts : ∀ address,
    Accounts (s.queues.queueAt address) (s.pushedAt address) (s.takenAt address)
  pruned : s.queues.Pruned

theorem pushedAt_after (call : QueueCall) : (s.after call).pushedAt address =
    s.pushedAt address ++ ((call.event s.queues).arrivalAt address).toList := by
  rw [pushedAt, after, List.filterMap_append]
  congr 1

theorem takenAt_after (call : QueueCall) : (s.after call).takenAt address =
    s.takenAt address ++ ((call.event s.queues).departureAt address).toList := by
  rw [takenAt, after, List.filterMap_append]
  congr 1

theorem Kept.call (h : Kept s) {call : QueueCall}
    (exit : QueueExit s.queues (call.event s.queues) (call.rest s.queues)) :
    Kept (s.after call) := by
  refine ⟨fun address => ?_, ?_⟩
  · rw [pushedAt_after, takenAt_after]
    exact (h.accounts address).move (exit.moves address)
  · change (call.rest s.queues).Pruned
    rcases call.rest_cases s.queues with same | ⟨queue, replaced⟩
    · rw [same]
      exact h.pruned
    · rw [replaced]
      exact h.pruned.setQueue call.address queue

theorem Reachable.kept (h : Reachable s) : Kept s := by
  induction h with
  | start => exact ⟨fun _ => ⟨rfl, .nil⟩, WaitQueues.pruned_empty⟩
  | enter _ _ ih => exact ⟨ih.accounts, ih.pruned⟩
  | wake _ _ ih => exact ⟨ih.accounts, ih.pruned⟩
  | call reachable _ possible ih => exact ih.call (reachable.exit possible)

/-- The queues of a history hold what came and did not go, and no empty queue is stored. -/
structure Balanced (s : QueueHistory) : Prop where
  /-- One occurrence of each entry that was taken is gone from the arrivals. -/
  queue : ∀ address, s.queues.queueAt address = (s.pushedAt address).diff (s.takenAt address)
  /-- Those that are left stand in the order of arrival. -/
  order : ∀ address, (s.queues.queueAt address).Sublist (s.pushedAt address)
  conserved : ∀ address, (s.queues.queueAt address ++ s.takenAt address).Perm (s.pushedAt address)
  waiters : ∀ address,
    s.queues.waiters address + (s.takenAt address).length = (s.pushedAt address).length
  /-- Two entries have two numbers, however equal their data are. -/
  apart : (s.made.map WaitEntry.id).Nodup
  /-- In particular a removal takes the first occurrence of its entry. -/
  calls : ∀ call, s.Possible call →
    QueueExit s.queues (call.event s.queues) (call.rest s.queues)
  /-- A removal is refused exactly if the entry is not queued, and then changes nothing. -/
  refused : ∀ address, ∀ entry ∈ s.made,
    (s.queues.remove address entry = none ↔ entry ∉ s.queues.queueAt address) ∧
    (entry ∉ s.queues.queueAt address →
      (QueueCall.remove address entry).event s.queues = .removed address entry false ∧
      (QueueCall.remove address entry).rest s.queues = s.queues)
  /-- What is stored at another address stays as it is. -/
  elsewhere : ∀ call : QueueCall, ∀ other, other ≠ call.address →
    (call.rest s.queues).queues.get? other = s.queues.queues.get? other
  stored : ∀ address, s.queues.queues.get? address ≠ none ↔ 0 < s.queues.waiters address
  /-- A queue that is stored always has an entry that is served next. -/
  selects : ∀ address queue, s.queues.queues.get? address = some queue →
    ∃ entry rest, s.queues.peekNext address = some entry ∧
      s.queues.popNext address = some (entry, rest)

theorem Reachable.removal_refused_iff (h : Reachable s) {entry : WaitEntry} (made : entry ∈ s.made)
    (address : VirtAddr) :
    s.queues.remove address entry = none ↔ entry ∉ s.queues.queueAt address := by
  rw [WaitQueues.remove_eq_none_iff]
  constructor
  · intro absent queued
    exact absent entry queued rfl
  · intro missing e there same
    exact missing (h.identified made (h.queued_made address e there) same ▸ there)

/-- A history loses no entry and invents none, and its queues stay pruned. -/
theorem Reachable.balanced (h : Reachable s) : Balanced s := by
  have kept := h.kept
  refine ⟨fun address => (kept.accounts address).left, fun address => ?order,
    fun address => (kept.accounts address).conserved, fun address => (kept.accounts address).length,
    h.apart, fun call possible => h.exit possible, fun address entry made => ?refused,
    fun call other apart => ?elsewhere, fun address => kept.pruned.stored_iff,
    fun address queue stored => kept.pruned.exists_next stored⟩
  case order =>
    rw [(kept.accounts address).left]
    exact List.diff_sublist _ _
  case refused =>
    refine ⟨h.removal_refused_iff made address, fun missing => ?_⟩
    have refused := (h.removal_refused_iff made address).mpr missing
    rw [QueueCall.event, QueueCall.rest, refused]
    exact ⟨rfl, rfl⟩
  case elsewhere =>
    rcases call.rest_cases s.queues with same | ⟨queue, replaced⟩
    · rw [same]
    · rw [replaced, WaitQueues.get?_setQueue_other queue apart]

/-- Two addresses, repeated entries, a removal past an entry with equal data, a removal that is
refused, and an address that is emptied. -/
def mixedCalls : List QueueCall :=
  [.push 0x2000 ⟨0, 16, 20, 1⟩, .push 0x2000 ⟨1, 32, 44, 2⟩, .push 0x2000 ⟨2, 32, 44, 2⟩,
    .push 0x3000 ⟨1, 32, 44, 2⟩, .push 0x2000 ⟨1, 32, 44, 2⟩, .remove 0x2000 ⟨2, 32, 44, 2⟩,
    .remove 0x3000 ⟨2, 32, 44, 2⟩, .popNext 0x2000, .push 0x2000 ⟨0, 16, 20, 1⟩,
    .remove 0x2000 ⟨0, 16, 20, 1⟩, .popNext 0x3000, .popNext 0x3000]

def mixed : QueueHistory := mixedCalls.foldl QueueHistory.after threeMade

theorem balanced_with_repeats : Reachable mixed ∧ Balanced mixed ∧
    mixed.pushedAt 0x2000 =
      [⟨0, 16, 20, 1⟩, ⟨1, 32, 44, 2⟩, ⟨2, 32, 44, 2⟩, ⟨1, 32, 44, 2⟩, ⟨0, 16, 20, 1⟩] ∧
    mixed.takenAt 0x2000 = [⟨2, 32, 44, 2⟩, ⟨1, 32, 44, 2⟩, ⟨0, 16, 20, 1⟩] ∧
    mixed.queues.queueAt 0x2000 = [⟨1, 32, 44, 2⟩, ⟨0, 16, 20, 1⟩] ∧
    .removed 0x3000 ⟨2, 32, 44, 2⟩ false ∈ mixed.events ∧
    mixed.queues.queues.get? 0x3000 = none := by
  have reachable : Reachable mixed := threeMade_reachable.calls mixedCalls (by decide)
  exact ⟨reachable, reachable.balanced, by decide, by decide, by decide, by decide, by decide⟩

end QueueHistory

end GuestKernel
