import Mathlib
import GuestKernel.Proofs.Wait.Selection

/-!
# The order in which a queue is served

Serving a queue again and again gives its entries by descending priority, and entries of one
priority in the order of their arrival: the stable sort of the queue. The step is
`serviceOrder_of_selected`, that the entry served next heads the sorted queue and what is left of
the queue sorts to the tail.
-/

set_option autoImplicit false

namespace GuestKernel

namespace WaitEntry

/-- Whether priority lets `a` be served before `b`. -/
def precedes (a b : WaitEntry) : Bool := decide (b.priority ≤ a.priority)

/-- A queue sorted by descending priority, the earlier arrival first among equals. -/
def serviceOrder (queue : List WaitEntry) : List WaitEntry := queue.mergeSort precedes

theorem precedes_trans (a b c : WaitEntry) (hab : precedes a b = true) (hbc : precedes b c = true) :
    precedes a c = true := by
  simp only [precedes, decide_eq_true_eq] at *
  exact UInt8.le_trans hbc hab

theorem precedes_total (a b : WaitEntry) : (precedes a b || precedes b a) = true := by
  simp only [precedes, Bool.or_eq_true, decide_eq_true_eq]
  exact UInt8.le_total b.priority a.priority

theorem not_precedes_iff (a b : WaitEntry) :
    (!precedes a b) = true ↔ a.priority < b.priority := by
  simp [precedes]

/-- Two cuts of one list into a part with a property and a part without it are the same cut. -/
theorem append_inj_of_forall {p : WaitEntry → Prop} {l₁ l₂ m₁ m₂ : List WaitEntry}
    (h : l₁ ++ l₂ = m₁ ++ m₂) (hl₁ : ∀ x ∈ l₁, p x) (hl₂ : ∀ x ∈ l₂, ¬ p x)
    (hm₁ : ∀ x ∈ m₁, p x) (hm₂ : ∀ x ∈ m₂, ¬ p x) : l₁ = m₁ ∧ l₂ = m₂ := by
  rcases List.append_eq_append_iff.mp h with ⟨l, hl, hr⟩ | ⟨l, hl, hr⟩
  · cases l with
    | nil => exact ⟨by rw [hl, List.append_nil], hr⟩
    | cons x l =>
      exact absurd (hm₁ x (by rw [hl]; simp)) (hl₂ x (by rw [hr]; simp))
  · cases l with
    | nil => exact ⟨by rw [hl, List.append_nil], hr.symm⟩
    | cons x l =>
      exact absurd (hl₁ x (by rw [hl]; simp)) (hm₂ x (by rw [hr]; simp))

/-- How an entry that arrived first lies in the sorted queue: behind those with a higher priority
and in front of all others. -/
theorem serviceOrder_cons (e : WaitEntry) (queue : List WaitEntry) :
    ∃ higher rest, serviceOrder (e :: queue) = higher ++ e :: rest ∧
      serviceOrder queue = higher ++ rest ∧ (∀ x ∈ higher, e.priority < x.priority) ∧
      ∀ x ∈ rest, ¬ e.priority < x.priority := by
  obtain ⟨higher, rest, sorted, without, first⟩ :=
    List.mergeSort_cons precedes_trans precedes_total e queue
  refine ⟨higher, rest, sorted, without, ?_, ?_⟩
  · intro x hx
    exact (not_precedes_iff e x).mp (first x hx)
  · have ordered := List.pairwise_mergeSort precedes_trans precedes_total (e :: queue)
    rw [sorted] at ordered
    have behind := (List.pairwise_cons.mp (List.pairwise_append.mp ordered).2.1).1
    intro x hx higher
    have notBehind := (not_precedes_iff e x).mpr higher
    rw [behind x hx] at notBehind
    cases notBehind

/-- The entry that is served next heads the sorted queue. -/
theorem serviceOrder_of_selected {queue before after : List WaitEntry} {entry : WaitEntry}
    (h : Selected queue before entry after) :
    serviceOrder queue = entry :: serviceOrder (before ++ after) := by
  rw [h.split]
  have lower := h.lower
  have atMost := h.atMost
  clear h
  induction before with
  | nil =>
    obtain ⟨higher, rest, sorted, without, above, _⟩ := serviceOrder_cons entry after
    cases higher with
    | nil => rw [List.nil_append, List.nil_append, sorted, without]; rfl
    | cons x higher =>
      have member : x ∈ after := by
        apply (List.mergeSort_perm after precedes).mem_iff.mp
        rw [← serviceOrder, without]
        simp
      exact absurd (above x (by simp)) (UInt8.not_lt.mpr (atMost x member))
  | cons b before ih =>
    have inner := ih fun x hx => lower x (List.mem_cons_of_mem b hx)
    obtain ⟨l₁, l₂, sorted, without, above, below⟩ :=
      serviceOrder_cons b (before ++ entry :: after)
    obtain ⟨m₁, m₂, sorted', without', above', below'⟩ := serviceOrder_cons b (before ++ after)
    -- both cuts are at the priority of `b`, which the new head exceeds
    have same : l₁ ++ l₂ = (entry :: m₁) ++ m₂ := by
      rw [← without, inner, without', List.cons_append]
    have head : ∀ x ∈ entry :: m₁, b.priority < x.priority := by
      intro x hx
      rcases List.mem_cons.mp hx with rfl | hx
      · exact lower b List.mem_cons_self
      · exact above' x hx
    obtain ⟨rfl, rfl⟩ := append_inj_of_forall same above below head below'
    rw [List.cons_append, sorted, List.cons_append, List.cons_append, sorted']

theorem serviceOrder_nil : serviceOrder [] = [] := List.mergeSort_nil

theorem length_serviceOrder (queue : List WaitEntry) :
    (serviceOrder queue).length = queue.length := List.length_mergeSort queue

end WaitEntry

namespace WaitQueues

open WaitEntry

variable {q : WaitQueues} {address : VirtAddr}

/-- Taking entries one after the other takes the first ones in the order of service. -/
theorem popUpTo_eq_take (amount : Nat) (q : WaitQueues) (address : VirtAddr) :
    (popUpTo amount q address).1 = (serviceOrder (q.queueAt address)).take amount := by
  induction amount generalizing q with
  | zero => rfl
  | succ amount ih =>
    rcases q.nobody_or_selected address with nobody | ⟨before, entry, after, cut⟩
    · rw [popUpTo_of_nobody nobody, nobody, serviceOrder_nil, List.take_nil]
    · rw [popUpTo_of_selected cut, ih, queueAt_setQueue_self, serviceOrder_of_selected cut,
        List.take_succ_cons]

theorem waiters_popUpTo (amount : Nat) (q : WaitQueues) (address : VirtAddr) :
    (popUpTo amount q address).2.waiters address = q.waiters address - amount := by
  induction amount generalizing q with
  | zero => rfl
  | succ amount ih =>
    rcases q.nobody_or_selected address with nobody | ⟨before, entry, after, cut⟩
    · rw [popUpTo_of_nobody nobody, waiters, nobody, List.length_nil, Nat.zero_sub]
    · rw [popUpTo_of_selected cut, ih, waiters, queueAt_setQueue_self, waiters, cut.length,
        Nat.add_sub_add_right]

theorem queueAt_popUpTo_of_enough {amount : Nat} (enough : q.waiters address ≤ amount) :
    (popUpTo amount q address).2.queueAt address = [] := by
  apply List.eq_nil_of_length_eq_zero
  exact (waiters_popUpTo amount q address).trans (Nat.sub_eq_zero_of_le enough)

theorem queueAt_popUpTo_other {other : VirtAddr} (amount : Nat) (q : WaitQueues)
    (elsewhere : other ≠ address) :
    (popUpTo amount q address).2.queueAt other = q.queueAt other := by
  induction amount generalizing q with
  | zero => rfl
  | succ amount ih =>
    rcases q.nobody_or_selected address with nobody | ⟨before, entry, after, cut⟩
    · rw [popUpTo_of_nobody nobody]
    · rw [popUpTo_of_selected cut, ih, queueAt_setQueue_other _ elsewhere]

/-- The entries that are taken are cut out of the queue, and the others stay in their order. -/
theorem queueAt_popUpTo_self (amount : Nat) (q : WaitQueues) (address : VirtAddr) :
    (popUpTo amount q address).2.queueAt address =
      (q.queueAt address).diff (popUpTo amount q address).1 := by
  induction amount generalizing q with
  | zero => rfl
  | succ amount ih =>
    rcases q.nobody_or_selected address with nobody | ⟨before, entry, after, cut⟩
    · rw [popUpTo_of_nobody nobody, List.diff_nil]
    · rw [popUpTo_of_selected cut, ih, queueAt_setQueue_self, List.diff_cons,
        erase_of_selected cut]

/-- Taking entries twice takes the entries of both amounts at once. -/
theorem popUpTo_add (m n : Nat) (q : WaitQueues) (address : VirtAddr) :
    popUpTo (m + n) q address =
      ((popUpTo m q address).1 ++ (popUpTo n (popUpTo m q address).2 address).1,
        (popUpTo n (popUpTo m q address).2 address).2) := by
  induction m generalizing q with
  | zero => rw [Nat.zero_add, popUpTo, List.nil_append]
  | succ m ih =>
    rcases q.nobody_or_selected address with nobody | ⟨before, entry, after, cut⟩
    · simp only [popUpTo_of_nobody nobody, List.append_nil]
    · rw [Nat.succ_add, popUpTo_of_selected cut, popUpTo_of_selected cut, ih, List.cons_append]

end WaitQueues

end GuestKernel
