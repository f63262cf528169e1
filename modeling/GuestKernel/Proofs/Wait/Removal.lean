import Mathlib
import GuestKernel.Proofs.Wait.Selection

/-!
# What is left of a queue

In a queue whose entries have distinct identities, taking entries by priority and removing one by
identity both leave `remaining gone queue`: the entries that are not gone, in the order of arrival.
-/

set_option autoImplicit false

namespace GuestKernel

/-- The entries of a queue that are not gone. -/
def remaining (gone queue : List WaitEntry) : List WaitEntry :=
  queue.filter fun e => decide (e ∉ gone)

/-- No identity occurs twice. -/
def Distinct (queue : List WaitEntry) : Prop := (queue.map WaitEntry.id).Nodup

variable {queue before after gone : List WaitEntry} {entry : WaitEntry}

theorem mem_remaining {e : WaitEntry} : e ∈ remaining gone queue ↔ e ∈ queue ∧ e ∉ gone := by
  simp [remaining]

theorem remaining_nil : remaining [] queue = queue := by simp [remaining]

theorem remaining_append (gone' : List WaitEntry) :
    remaining (gone ++ gone') queue = remaining gone' (remaining gone queue) := by
  simp only [remaining, List.filter_filter]
  apply List.filter_congr
  intro e _
  simp [Bool.and_comm]

theorem remaining_of_absent (h : ∀ e ∈ queue, e ∉ gone) : remaining gone queue = queue :=
  List.filter_eq_self.mpr fun e he => decide_eq_true (h e he)

theorem Distinct.nodup (h : Distinct queue) : queue.Nodup := List.Nodup.of_map _ h

theorem Distinct.remaining (h : Distinct queue) : Distinct (remaining gone queue) :=
  List.Nodup.sublist (List.Sublist.map _ List.filter_sublist) h

theorem Distinct.fresh_of_split (h : Distinct queue) (split : queue = before ++ entry :: after) :
    (∀ e ∈ before, e.id ≠ entry.id) ∧ ∀ e ∈ after, e.id ≠ entry.id := by
  rw [Distinct, split, List.map_append, List.map_cons, List.nodup_append] at h
  obtain ⟨_, behind, apart⟩ := h
  rw [List.nodup_cons] at behind
  constructor
  · intro e he same
    exact apart e.id (List.mem_map_of_mem he) entry.id List.mem_cons_self same
  · intro e he same
    exact behind.1 (same ▸ List.mem_map_of_mem he)

theorem remaining_of_split (h : Distinct queue) (split : queue = before ++ entry :: after) :
    remaining [entry] queue = before ++ after := by
  obtain ⟨front, back⟩ := h.fresh_of_split split
  have keep : ∀ l : List WaitEntry, (∀ e ∈ l, e.id ≠ entry.id) → remaining [entry] l = l := by
    intro l apart
    apply remaining_of_absent
    intro e he hentry
    rw [List.mem_singleton] at hentry
    exact apart e he (hentry ▸ rfl)
  have all : remaining [entry] queue =
      remaining [entry] before ++ remaining [entry] (entry :: after) := by
    rw [split]
    exact List.filter_append ..
  have head : remaining [entry] (entry :: after) = remaining [entry] after := by
    simp [remaining]
  rw [all, head, keep before front, keep after back]

namespace WaitQueues

variable {q : WaitQueues} {address : VirtAddr}

/-- Removing a queued entry by identity leaves the others. -/
theorem remove_of_mem (h : Distinct (q.queueAt address)) (mem : entry ∈ q.queueAt address) :
    q.remove address entry =
      some (q.setQueue address (remaining [entry] (q.queueAt address))) := by
  obtain ⟨before, after, split⟩ := List.append_of_mem mem
  rw [remove_of_split split (h.fresh_of_split split).1, remaining_of_split h split]

/-- What taking entries by priority gives and leaves. -/
structure Taken (q : WaitQueues) (address : VirtAddr) (taken : List WaitEntry)
    (r : WaitQueues) : Prop where
  queued : ∀ e ∈ taken, e ∈ q.queueAt address
  once : taken.Nodup
  left : r.queueAt address = remaining taken (q.queueAt address)
  others : ∀ other, other ≠ address → r.queueAt other = q.queueAt other

theorem taken_popUpTo (amount : Nat) (h : Distinct (q.queueAt address)) :
    Taken q address (popUpTo amount q address).1 (popUpTo amount q address).2 := by
  induction amount generalizing q with
  | zero => exact ⟨by simp [popUpTo], .nil, remaining_nil.symm, fun _ _ => rfl⟩
  | succ amount ih =>
    rcases q.nobody_or_selected address with nobody | ⟨before, first, after, cut⟩
    · rw [popUpTo_of_nobody nobody]
      exact ⟨by simp, .nil, remaining_nil.symm, fun _ _ => rfl⟩
    · rw [popUpTo_of_selected cut]
      have left : (q.setQueue address (before ++ after)).queueAt address =
          remaining [first] (q.queueAt address) := by
        rw [queueAt_setQueue_self, remaining_of_split h cut.split]
      have inner := ih (q := q.setQueue address (before ++ after)) (left ▸ h.remaining)
      have outer := inner.queued
      rw [left] at outer
      refine ⟨?_, ?_, ?_, ?_⟩
      · intro e he
        rcases List.mem_cons.mp he with rfl | he
        · exact cut.mem
        · exact (mem_remaining.mp (outer e he)).1
      · refine List.nodup_cons.mpr ⟨fun again => ?_, inner.once⟩
        exact (mem_remaining.mp (outer first again)).2 (List.mem_singleton_self first)
      · rw [inner.left, left, ← remaining_append]
        rfl
      · intro other hother
        rw [inner.others other hother, queueAt_setQueue_other _ hother]

end WaitQueues

end GuestKernel
