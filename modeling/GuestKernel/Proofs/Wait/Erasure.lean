import Mathlib
import GuestKernel.Proofs.Wait.Removal

/-!
# Queues without one entry

Had an entry never been made, the entries after it would have a number less. `x.without queue` is a
queue without `x`, with the numbers that the others would have. Serving goes by priority and by
arrival, so it does not see the difference unless it serves `x` itself: `popUpTo_without`.
-/

set_option autoImplicit false

namespace GuestKernel

/-- The number that stands in place of `n` when `gap` was never given out. -/
def closeGap (gap n : Nat) : Nat := if gap < n then n - 1 else n

section Gap
variable {gap m n : Nat}

theorem closeGap_of_le (h : n ≤ gap) : closeGap gap n = n := by
  unfold closeGap
  split <;> omega

theorem closeGap_succ (h : n ≠ gap) : closeGap gap (n + 1) = closeGap gap n + 1 := by
  unfold closeGap
  split <;> split <;> omega

theorem closeGap_succ_self : closeGap gap (gap + 1) = gap := by
  unfold closeGap
  split <;> omega

theorem closeGap_inj (hm : m ≠ gap) (hn : n ≠ gap) : closeGap gap m = closeGap gap n ↔ m = n := by
  unfold closeGap
  split <;> split <;> omega

end Gap

namespace WaitEntry

variable {x e e' : WaitEntry} {queue before after : List WaitEntry}

/-- An entry with the number that it has when `x` was never made. -/
def renumbered (x e : WaitEntry) : WaitEntry := { e with id := closeGap x.id e.id }

def without (x : WaitEntry) (queue : List WaitEntry) : List WaitEntry :=
  (remaining [x] queue).map x.renumbered

theorem renumbered_of_lt (h : e.id < x.id) : x.renumbered e = e := by
  rw [renumbered, closeGap_of_le (Nat.le_of_lt h)]

theorem renumbered_inj (h : e.id ≠ x.id) (h' : e'.id ≠ x.id) :
    x.renumbered e = x.renumbered e' ↔ e = e' := by
  constructor
  · intro same
    obtain ⟨number, handle, priority, tid⟩ := WaitEntry.mk.inj same
    obtain ⟨id, _⟩ := e
    rw [closeGap_inj h h'] at number
    cases number
    cases handle
    cases priority
    cases tid
    rfl
  · intro same
    rw [same]

theorem without_append : x.without (before ++ after) = x.without before ++ x.without after := by
  rw [without, remaining, List.filter_append, List.map_append]
  rfl

theorem without_singleton (h : e ≠ x) : x.without [e] = [x.renumbered e] := by
  simp [without, remaining, h]

theorem without_singleton_self : x.without [x] = [] := by
  simp [without, remaining]

theorem without_cons (h : e ≠ x) : x.without (e :: queue) = x.renumbered e :: x.without queue := by
  rw [← List.singleton_append, without_append, without_singleton h, List.singleton_append]

theorem mem_without : e ∈ x.without queue ↔ ∃ e' ∈ queue, e' ≠ x ∧ x.renumbered e' = e := by
  simp only [without, List.mem_map, mem_remaining, List.mem_singleton, and_assoc]

theorem without_of_lt (h : ∀ e ∈ queue, e.id < x.id) : x.without queue = queue := by
  have absent : remaining [x] queue = queue := by
    apply remaining_of_absent
    intro e mem here
    have small := h e mem
    rw [List.mem_singleton.mp here] at small
    exact Nat.lt_irrefl _ small
  rw [without, absent, List.map_congr_left fun e mem => renumbered_of_lt (h e mem), List.map_id']

theorem without_remaining_self : x.without (remaining [x] queue) = x.without queue := by
  rw [without, without, remaining_of_absent]
  intro e mem
  exact (mem_remaining.mp mem).2

/-- Removing another entry and leaving `x` out can change places. -/
theorem without_remaining (h : e.id ≠ x.id) (others : ∀ e' ∈ queue, e'.id = x.id → e' = x) :
    x.without (remaining [e] queue) = remaining [x.renumbered e] (x.without queue) := by
  rw [without, without, ← remaining_append, remaining, remaining, remaining, List.filter_map,
    List.filter_filter]
  apply congrArg (List.map x.renumbered)
  apply List.filter_congr
  intro e' mem
  by_cases left : e' = x
  · simp [left]
  · have apart : e'.id ≠ x.id := fun same => left (others e' mem same)
    simp [left, renumbered_inj apart h]

theorem selected_without (h : Selected queue before e after) (spared : e ≠ x) :
    Selected (x.without queue) (x.without before) (x.renumbered e) (x.without after) := by
  refine ⟨?_, ?_, ?_⟩
  · rw [h.split, without_append, without_cons spared]
  · intro e' mem
    obtain ⟨old, front, _, rfl⟩ := mem_without.mp mem
    exact h.lower old front
  · intro e' mem
    obtain ⟨old, back, _, rfl⟩ := mem_without.mp mem
    exact h.atMost old back

end WaitEntry

namespace WaitQueues

variable {x : WaitEntry} {q r : WaitQueues} {address : VirtAddr} {queue : List WaitEntry}

/-- The queues `r` are the queues `q` without `x`. -/
def Lack (x : WaitEntry) (q r : WaitQueues) : Prop :=
  ∀ address, r.queueAt address = x.without (q.queueAt address)

theorem Lack.setQueue (h : Lack x q r) :
    Lack x (q.setQueue address queue) (r.setQueue address (x.without queue)) := by
  intro other
  rw [queueAt_setQueue, queueAt_setQueue]
  split
  · rfl
  · exact h other

/-- As long as `x` is not taken itself, taking entries by priority takes the same ones without it. -/
theorem popUpTo_without (h : Lack x q r) (amount : Nat)
    (spared : x ∉ (popUpTo amount q address).1) :
    (popUpTo amount r address).1 = (popUpTo amount q address).1.map x.renumbered ∧
      Lack x (popUpTo amount q address).2 (popUpTo amount r address).2 := by
  induction amount generalizing q r with
  | zero => exact ⟨rfl, h⟩
  | succ amount ih =>
    rcases q.nobody_or_selected address with nobody | ⟨before, first, after, cut⟩
    · have empty : r.queueAt address = [] := by
        rw [h address, nobody]
        rfl
      rw [popUpTo_of_nobody nobody, popUpTo_of_nobody empty]
      exact ⟨rfl, h⟩
    · rw [popUpTo_of_selected cut] at spared ⊢
      obtain ⟨other, later⟩ := not_or.mp (mt List.mem_cons.mpr spared)
      have cut' := WaitEntry.selected_without cut (Ne.symm other)
      rw [← h address] at cut'
      rw [popUpTo_of_selected cut', ← WaitEntry.without_append]
      obtain ⟨taken, left⟩ := ih h.setQueue later
      exact ⟨congrArg (List.cons _) taken, left⟩

end WaitQueues

end GuestKernel
