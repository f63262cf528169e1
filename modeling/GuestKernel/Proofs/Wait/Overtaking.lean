import Mathlib
import GuestKernel.Proofs.Wait.Occurrences
import GuestKernel.Proofs.Wait.ServiceOrder

/-!
# Nobody is overtaken

Who was pushed earlier and does not have the lower priority leaves earlier. `Overtaken` looks at the
whole history of a run: something was popped while an occurrence that comes before it was still
queued. A push brings only the latest occurrence, and a pop takes one that no waiting occurrence
comes before, so neither makes `Overtaken` true.
-/

set_option autoImplicit false

namespace GuestKernel

/-- Whether an occurrence has to be served before another one. -/
structure Occurrence.Before (x y : Occurrence) : Prop where
  address : x.address = y.address
  earlier : x.number < y.number
  notLower : y.entry.priority ≤ x.entry.priority

namespace QueueRun

variable {s t : QueueRun} {o x y : Occurrence} {address : VirtAddr} {before after : List Occurrence}

/-- Somewhere in the history `y` was popped while `x` was queued, which was to come before it. -/
def Overtaken (s : QueueRun) (x y : Occurrence) : Prop :=
  x ∈ s.pushed ∧ x.Before y ∧ ∃ first last,
    s.left = first ++ .popped y :: last ∧ x ∉ first.map Departure.occurrence

/-- The last of a history comes last in a cut of it, or the cut was there before. -/
theorem cut_of_append_one {l first last : List Departure} {d e : Departure}
    (h : l ++ [d] = first ++ e :: last) :
    l = first ∧ d = e ∨ ∃ rest, l = first ++ e :: rest := by
  rcases List.eq_nil_or_concat last with rfl | ⟨rest, z, rfl⟩
  · obtain ⟨same, last⟩ := List.append_inj' h rfl
    exact Or.inl ⟨same, List.singleton_inj.mp last⟩
  · rw [List.concat_eq_append, ← List.cons_append, ← List.append_assoc] at h
    exact Or.inr ⟨rest, (List.append_inj' h rfl).1⟩

/-- Nothing that waits comes before the occurrence that is popped. -/
theorem Kept.departed_of_before (h : Kept s) (split : s.waiting address = before ++ o :: after)
    (lower : ∀ z ∈ before, z.entry.priority < o.entry.priority) (pushed : x ∈ s.pushed)
    (order : x.Before o) : x ∈ s.departed := by
  by_contra queued
  have popped : o ∈ s.waiting address := by
    rw [split]
    exact List.mem_append_right _ List.mem_cons_self
  have waits : x ∈ s.waiting address :=
    mem_waiting_iff.mpr ⟨pushed, order.address.trans (mem_waiting_iff.mp popped).2.1, queued⟩
  rw [split] at waits
  rcases List.mem_append.mp waits with front | behind
  · exact absurd (lower x front) (UInt8.not_lt.mpr order.notLower)
  · have earlier := order.earlier
    rcases List.mem_cons.mp behind with rfl | behind
    · exact Nat.lt_irrefl _ earlier
    · have later := (h.apart_of_split split).2 x behind
      omega

/-- A departure overtakes nobody unless it is a pop that does so itself. -/
theorem overtaken_of_departure {queues : WaitQueues} {d : Departure}
    (h : Overtaken ⟨queues, s.pushed, s.left ++ [d]⟩ x y) :
    Overtaken s x y ∨ d = .popped y ∧ x ∉ s.departed := by
  obtain ⟨pushed, order, first, last, cut, queued⟩ := h
  rcases cut_of_append_one cut with ⟨rfl, rfl⟩ | ⟨rest, earlier⟩
  · exact Or.inr ⟨rfl, queued⟩
  · exact Or.inl ⟨pushed, order, first, rest, earlier, queued⟩

theorem overtaken_step (h : Kept s) (change : QueueChange s t) (overtaken : Overtaken t x y) :
    Overtaken s x y := by
  cases change with
  | idle => exact overtaken
  | pushed address entry =>
    obtain ⟨pushed, order, first, last, cut, queued⟩ := overtaken
    refine ⟨?_, order, first, last, cut, queued⟩
    rcases List.mem_append.mp pushed with pushed | latest
    · exact pushed
    · -- `y` left already, so it was pushed before the latest occurrence
      have gone : y ∈ s.departed := by
        apply List.mem_map_of_mem (f := Departure.occurrence) (a := Departure.popped y)
        exact cut ▸ List.mem_append_right _ List.mem_cons_self
      have number := h.number_lt (h.departed y gone)
      have earlier := order.earlier
      rw [List.mem_singleton.mp latest] at earlier
      exact absurd (Nat.lt_trans number earlier) (Nat.lt_irrefl _)
  | popped split lower atMost =>
    rcases overtaken_of_departure overtaken with before | ⟨same, queued⟩
    · exact before
    · cases same
      exact absurd (h.departed_of_before split lower overtaken.1 overtaken.2.1) queued
  | removed split fresh =>
    rcases overtaken_of_departure overtaken with before | ⟨same, _⟩
    · exact before
    · cases same

theorem Reachable.not_overtaken (h : Reachable s) : ¬ Overtaken s x y := by
  induction h with
  | start =>
    rintro ⟨pushed, _⟩
    exact absurd pushed List.not_mem_nil
  | call reachable call ih =>
    intro overtaken
    exact ih (overtaken_step reachable.kept (reachable.kept.change call) overtaken)

/-- How the queues of a run are served. -/
structure InOrder (s : QueueRun) : Prop where
  /-- Queues hold what was pushed and did not leave, in the order of the pushes. -/
  queues : ∀ address, s.queues.queueAt address = (s.waiting address).map Occurrence.entry
  arrival : ∀ address, (s.waiting address).Pairwise fun x y => x.number < y.number
  /-- A pop takes one of the highest priority, of these the one that was pushed first. -/
  pop : ∀ address entry r, s.queues.popNext address = some (entry, r) →
    ∃ o ∈ s.waiting address, o.entry = entry ∧
      (∀ x ∈ s.waiting address, x.entry.priority < o.entry.priority ∨
        x.entry.priority = o.entry.priority ∧ o.number ≤ x.number) ∧
      s.after (.popNext address) = ⟨r, s.pushed, s.left ++ [.popped o]⟩
  nothing : ∀ address, s.queues.popNext address = none ↔ s.waiting address = []
  /-- Nothing was popped while something that comes before it was queued. -/
  unovertaken : ∀ x y, ¬ Overtaken s x y
  /-- Popping until nothing is left gives the arrivals sorted by descending priority. -/
  drained : ∀ address amount, s.queues.waiters address ≤ amount →
    (s.queues.popUpTo amount address).1 =
        WaitEntry.serviceOrder ((s.waiting address).map Occurrence.entry) ∧
      (s.queues.popUpTo amount address).2.queueAt address = [] ∧
      ∀ other, other ≠ address →
        (s.queues.popUpTo amount address).2.queueAt other = s.queues.queueAt other

theorem Reachable.inOrder (h : Reachable s) : InOrder s := by
  have kept := h.kept
  refine ⟨kept.queues, kept.waiting_ordered, ?_, ?_, fun _ _ => h.not_overtaken, ?_⟩
  · intro address entry r next
    obtain ⟨before, o, after, split, rfl, lower, atMost, _, left⟩ := kept.popNext next
    refine ⟨o, split ▸ List.mem_append_right _ List.mem_cons_self, rfl, ?_, left⟩
    intro x waits
    rw [split] at waits
    rcases List.mem_append.mp waits with front | behind
    · exact Or.inl (lower x front)
    · have later : o.number ≤ x.number := by
        rcases List.mem_cons.mp behind with rfl | behind
        · exact Nat.le_refl _
        · exact Nat.le_of_lt ((kept.apart_of_split split).2 x behind)
      have bound : x.entry.priority ≤ o.entry.priority := by
        rcases List.mem_cons.mp behind with rfl | behind
        · exact UInt8.le_refl _
        · exact atMost x behind
      rcases UInt8.lt_or_eq_of_le bound with less | same
      · exact Or.inl less
      · exact Or.inr ⟨same, later⟩
  · intro address
    rw [WaitQueues.popNext_eq_none_iff, kept.queues, List.map_eq_nil_iff]
  · intro address amount enough
    refine ⟨?_, ?_, fun other elsewhere => WaitQueues.queueAt_popUpTo_other _ _ elsewhere⟩
    · rw [WaitQueues.popUpTo_eq_take, ← kept.queues]
      apply List.take_of_length_le
      rw [WaitEntry.length_serviceOrder]
      exact enough
    · apply List.length_eq_zero_iff.mp
      exact (WaitQueues.waiters_popUpTo ..).trans (Nat.sub_eq_zero_of_le enough)

/-- Three entries at one address, of which the first is pushed twice and removed once. -/
def crowdCalls : List QueueCall :=
  [.push 0x2000 ⟨0, 16, 20, 1⟩, .push 0x2000 ⟨1, 32, 44, 2⟩, .push 0x2000 ⟨0, 16, 20, 1⟩,
    .push 0x3000 ⟨3, 64, 63, 4⟩, .push 0x2000 ⟨2, 48, 44, 3⟩, .peekNext 0x2000,
    .remove 0x2000 ⟨0, 16, 20, 1⟩, .popNext 0x2000]

def crowd : QueueRun := crowdCalls.foldl QueueRun.after ⟨.empty, [], []⟩

theorem crowd_inOrder : Reachable crowd ∧ InOrder crowd ∧
    crowd.left = [.removed ⟨0, 0x2000, ⟨0, 16, 20, 1⟩⟩, .popped ⟨1, 0x2000, ⟨1, 32, 44, 2⟩⟩] ∧
    (crowd.queues.popUpTo 2 0x2000).1 = [⟨2, 48, 44, 3⟩, ⟨0, 16, 20, 1⟩] := by
  have reachable : Reachable crowd := Reachable.start.calls crowdCalls
  exact ⟨reachable, reachable.inOrder, by decide, by decide⟩

end QueueRun

end GuestKernel
