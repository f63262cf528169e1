import Mathlib
import GuestKernel.Proofs.Wait.Selection

/-!
# Occurrences in wait queues

An entry may be pushed many times; each push is an occurrence of its own, with a number. A
`QueueRun` is a map of queues with everything that was pushed into it and everything that left it
again. Which occurrence leaves is told by the position from which an entry is taken out of its
queue.

`QueueRun.Kept` says that a queue holds the occurrences that did not leave, in the order of their
pushes, and `QueueChange` lists what a call does to that.
-/

set_option autoImplicit false

namespace GuestKernel

/-- One push of an entry. -/
structure Occurrence where
  /-- How many pushes came before, at any address. -/
  number : Nat
  address : VirtAddr
  entry : WaitEntry
  deriving DecidableEq

/-- The end of an occurrence in its queue. -/
inductive Departure where
  | popped (occurrence : Occurrence)
  | removed (occurrence : Occurrence)
  deriving DecidableEq

def Departure.occurrence : Departure → Occurrence
  | popped occurrence | removed occurrence => occurrence

inductive QueueCall where
  | push (address : VirtAddr) (entry : WaitEntry)
  | popNext (address : VirtAddr)
  | peekNext (address : VirtAddr)
  | remove (address : VirtAddr) (entry : WaitEntry)

/-- Queues, what was pushed into them, and what left them, each in order. -/
structure QueueRun where
  queues : WaitQueues
  pushed : List Occurrence
  left : List Departure

namespace QueueRun

def departed (s : QueueRun) : List Occurrence := s.left.map Departure.occurrence

/-- The occurrences at an address that did not leave, in the order of their pushes. -/
def waiting (s : QueueRun) (address : VirtAddr) : List Occurrence :=
  s.pushed.filter fun o => decide (o.address = address ∧ o ∉ s.departed)

/-- The run after the queues became others, and after the occurrence at this position left. -/
def leave (s : QueueRun) (queues : WaitQueues) (how : Occurrence → Departure) (address : VirtAddr)
    (position : Option Nat) : QueueRun where
  queues
  pushed := s.pushed
  left := s.left ++ (position.bind fun i => (s.waiting address)[i]?).toList.map how

def after (s : QueueRun) : QueueCall → QueueRun
  | .push address entry =>
    { s with
      queues := (WaitQueues.push address entry s.queues).state
      pushed := s.pushed ++ [⟨s.pushed.length, address, entry⟩] }
  | .popNext address =>
    s.leave (((s.queues.popNext address).map Prod.snd).getD s.queues) .popped address
      ((WaitEntry.chosen (s.queues.queueAt address)).map Prod.fst)
  | .peekNext _ => s
  | .remove address entry =>
    s.leave ((s.queues.remove address entry).getD s.queues) .removed address
      ((s.queues.queueAt address).findIdx? fun e => e.id == entry.id)

/-- The runs that start with no queue. -/
inductive Reachable : QueueRun → Prop where
  | start : Reachable ⟨.empty, [], []⟩
  | call {s : QueueRun} (reachable : Reachable s) (call : QueueCall) : Reachable (s.after call)

/-- The queues hold what was pushed and did not leave. -/
structure Kept (s : QueueRun) : Prop where
  numbers : s.pushed.map Occurrence.number = List.range s.pushed.length
  departed : ∀ o ∈ s.departed, o ∈ s.pushed
  queues : ∀ address, s.queues.queueAt address = (s.waiting address).map Occurrence.entry

variable {s : QueueRun} {o : Occurrence} {address : VirtAddr} {before after : List Occurrence}

theorem mem_waiting_iff :
    o ∈ s.waiting address ↔ o ∈ s.pushed ∧ o.address = address ∧ o ∉ s.departed := by
  simp [waiting]

namespace Kept

theorem number_lt (h : Kept s) (pushed : o ∈ s.pushed) : o.number < s.pushed.length := by
  have mem := List.mem_map_of_mem (f := Occurrence.number) pushed
  rw [h.numbers] at mem
  exact List.mem_range.mp mem

theorem pushed_ordered (h : Kept s) :
    s.pushed.Pairwise fun o later => o.number < later.number := by
  rw [← List.pairwise_map, h.numbers]
  exact List.pairwise_lt_range

theorem waiting_ordered (h : Kept s) (address : VirtAddr) :
    (s.waiting address).Pairwise fun o later => o.number < later.number :=
  h.pushed_ordered.sublist List.filter_sublist

theorem waiting_nodup (h : Kept s) (address : VirtAddr) : (s.waiting address).Nodup :=
  (h.waiting_ordered address).imp fun lower => ne_of_apply_ne Occurrence.number (Nat.ne_of_lt lower)

theorem apart_of_split (h : Kept s) (split : s.waiting address = before ++ o :: after) :
    (∀ x ∈ before, x.number < o.number) ∧ ∀ x ∈ after, o.number < x.number := by
  have ordered := h.waiting_ordered address
  rw [split] at ordered
  obtain ⟨_, behind, across⟩ := List.pairwise_append.mp ordered
  exact ⟨fun x front => across x front o List.mem_cons_self, (List.pairwise_cons.mp behind).1⟩

end Kept

/-- What a call can do: nothing, a push, or taking out an occurrence, which is the first one of the
highest priority or the first one of an entry. -/
inductive QueueChange (s : QueueRun) : QueueRun → Prop where
  | idle : QueueChange s s
  | pushed (address : VirtAddr) (entry : WaitEntry) :
      QueueChange s
        ⟨s.queues.setQueue address (s.queues.queueAt address ++ [entry]),
          s.pushed ++ [⟨s.pushed.length, address, entry⟩], s.left⟩
  | popped {address : VirtAddr} {before after : List Occurrence} {o : Occurrence}
      (split : s.waiting address = before ++ o :: after)
      (lower : ∀ x ∈ before, x.entry.priority < o.entry.priority)
      (atMost : ∀ x ∈ after, x.entry.priority ≤ o.entry.priority) :
      QueueChange s
        ⟨s.queues.setQueue address ((before ++ after).map Occurrence.entry), s.pushed,
          s.left ++ [.popped o]⟩
  | removed {address : VirtAddr} {before after : List Occurrence} {o : Occurrence}
      (split : s.waiting address = before ++ o :: after)
      (fresh : ∀ x ∈ before, x.entry.id ≠ o.entry.id) :
      QueueChange s
        ⟨s.queues.setQueue address ((before ++ after).map Occurrence.entry), s.pushed,
          s.left ++ [.removed o]⟩

theorem leave_of_split (split : s.waiting address = before ++ o :: after) (queues : WaitQueues)
    (how : Occurrence → Departure) :
    s.leave queues how address (some before.length) = ⟨queues, s.pushed, s.left ++ [how o]⟩ := by
  rw [leave, split]
  simp

theorem leave_none (how : Occurrence → Departure) : s.leave s.queues how address none = s := by
  simp [leave]

/-- The entry that is taken belongs to an occurrence with as many others in front of it. -/
theorem Kept.popNext (h : Kept s) {entry : WaitEntry} {r : WaitQueues}
    (next : s.queues.popNext address = some (entry, r)) :
    ∃ before o after, s.waiting address = before ++ o :: after ∧ o.entry = entry ∧
      (∀ x ∈ before, x.entry.priority < o.entry.priority) ∧
      (∀ x ∈ after, x.entry.priority ≤ o.entry.priority) ∧
      r = s.queues.setQueue address ((before ++ after).map Occurrence.entry) ∧
      s.after (.popNext address) = ⟨r, s.pushed, s.left ++ [.popped o]⟩ := by
  obtain ⟨front, back, cut, rfl⟩ := WaitQueues.selected_of_popNext next
  have chosen := WaitEntry.chosen_of_selected cut
  have same := (h.queues address).symm.trans cut.split
  obtain ⟨before, rest, split, rfl, tail⟩ := List.map_eq_append_iff.mp same
  obtain ⟨o, after, rfl, rfl, rfl⟩ := List.map_eq_cons_iff.mp tail
  refine ⟨before, o, after, split, rfl, ?_, ?_, by rw [List.map_append], ?_⟩
  · exact fun x front => cut.lower _ (List.mem_map_of_mem front)
  · exact fun x back => cut.atMost _ (List.mem_map_of_mem back)
  · rw [QueueRun.after, next, chosen, List.length_map]
    exact leave_of_split split _ _

theorem Kept.change (h : Kept s) (call : QueueCall) : QueueChange s (s.after call) := by
  cases call with
  | push address entry => exact .pushed address entry
  | peekNext address => exact .idle
  | popNext address =>
    cases next : s.queues.popNext address with
    | none =>
      have nothing := WaitQueues.popNext_eq_none_iff.mp next
      rw [QueueRun.after, next, nothing]
      exact leave_none _ ▸ .idle
    | some found =>
      obtain ⟨before, o, after, split, _, lower, atMost, rest, left⟩ := h.popNext next
      rw [left, rest]
      exact .popped split lower atMost
  | remove address entry =>
    by_cases queued : ∃ x ∈ s.waiting address, x.entry.id = entry.id
    · obtain ⟨x, mem, same⟩ := queued
      obtain ⟨o, before, after, fresh, same, split, _⟩ := List.exists_of_eraseP
        (p := fun x : Occurrence => decide (x.entry.id = entry.id)) mem (decide_eq_true same)
      rw [decide_eq_true_eq] at same
      have apart : ∀ x ∈ before, x.entry.id ≠ entry.id := fun x front => of_decide_eq_false
        (Bool.eq_false_iff.mpr (fresh x front))
      have queue := h.queues address
      rw [split, List.map_append, List.map_cons] at queue
      have position := WaitEntry.findIdx?_of_split queue same
        (List.forall_mem_map.mpr apart)
      rw [QueueRun.after, WaitQueues.remove, position, Option.map_some, Option.getD_some,
        WaitEntry.eraseIdx_of_split queue, List.length_map, leave_of_split split,
        ← List.map_append]
      exact .removed split fun x front => same ▸ apart x front
    · have absent : (s.queues.queueAt address).findIdx? (fun e => e.id == entry.id) = none := by
        rw [h.queues, List.findIdx?_eq_none_iff]
        intro e mem
        obtain ⟨x, there, rfl⟩ := List.mem_map.mp mem
        exact beq_false_of_ne fun same => queued ⟨x, there, same⟩
      rw [QueueRun.after, WaitQueues.remove, absent]
      exact leave_none _ ▸ .idle

namespace Kept

/-- A push has a number that nothing else has, so it did not leave before. -/
theorem waiting_of_push (h : Kept s) (queues : WaitQueues) (entry : WaitEntry) (there : VirtAddr) :
    waiting ⟨queues, s.pushed ++ [⟨s.pushed.length, address, entry⟩], s.left⟩ there =
      s.waiting there ++ if there = address then [⟨s.pushed.length, address, entry⟩] else [] := by
  have fresh : ⟨s.pushed.length, address, entry⟩ ∉ s.departed := by
    intro left
    exact Nat.lt_irrefl _ (h.number_lt (h.departed _ left))
  change (s.pushed ++ _).filter (fun o => decide (o.address = there ∧ o ∉ s.departed)) = _
  rw [List.filter_append, List.filter_singleton]
  congr 1
  by_cases here : there = address
  · simp [here, fresh]
  · simp [here, Ne.symm here]

theorem waiting_of_departure (h : Kept s) {d : Departure} (queues : WaitQueues)
    (split : s.waiting address = before ++ d.occurrence :: after) (there : VirtAddr) :
    waiting ⟨queues, s.pushed, s.left ++ [d]⟩ there =
      if there = address then before ++ after else s.waiting there := by
  have all : waiting ⟨queues, s.pushed, s.left ++ [d]⟩ there =
      (s.waiting there).filter fun o => decide (o ≠ d.occurrence) := by
    rw [waiting, waiting, List.filter_filter]
    apply List.filter_congr
    intro o _
    have gone : o ∈ QueueRun.departed ⟨queues, s.pushed, s.left ++ [d]⟩ ↔
        o ∈ s.departed ∨ o = d.occurrence := by
      simp [QueueRun.departed]
    rw [← Bool.decide_and, decide_eq_decide, gone]
    tauto
  have mem : d.occurrence ∈ s.waiting address := by
    rw [split]
    exact List.mem_append_right _ List.mem_cons_self
  rw [all]
  split_ifs with here
  · have once := h.waiting_nodup address
    rw [here, split]
    rw [split, List.nodup_middle, List.nodup_cons, List.mem_append, not_or] at once
    obtain ⟨⟨front, back⟩, _⟩ := once
    rw [List.filter_append, List.filter_cons_of_neg (by simp), List.filter_eq_self.mpr,
      List.filter_eq_self.mpr]
    · exact fun x mem => decide_eq_true fun same => back (same ▸ mem)
    · exact fun x mem => decide_eq_true fun same => front (same ▸ mem)
  · rw [List.filter_eq_self]
    intro x there'
    apply decide_eq_true
    rintro rfl
    exact here ((mem_waiting_iff.mp there').2.1.symm.trans (mem_waiting_iff.mp mem).2.1)

theorem push (h : Kept s) (address : VirtAddr) (entry : WaitEntry) :
    Kept ⟨s.queues.setQueue address (s.queues.queueAt address ++ [entry]),
      s.pushed ++ [⟨s.pushed.length, address, entry⟩], s.left⟩ := by
  refine ⟨?_, fun o left => List.mem_append_left _ (h.departed o left), fun there => ?_⟩
  · rw [List.map_append, h.numbers, List.length_append]
    exact List.range_succ.symm
  · rw [h.waiting_of_push, WaitQueues.queueAt_setQueue]
    split
    · rename_i here
      rw [List.map_append, here, h.queues]
      rfl
    · rw [List.append_nil, h.queues]

theorem depart (h : Kept s) {d : Departure}
    (split : s.waiting address = before ++ d.occurrence :: after) :
    Kept ⟨s.queues.setQueue address ((before ++ after).map Occurrence.entry), s.pushed,
      s.left ++ [d]⟩ := by
  refine ⟨h.numbers, fun o left => ?_, fun there => ?_⟩
  · rw [QueueRun.departed, List.map_append, List.mem_append] at left
    rcases left with left | left
    · exact h.departed o left
    · have mem : d.occurrence ∈ s.waiting address := by
        rw [split]
        exact List.mem_append_right _ List.mem_cons_self
      rw [List.mem_singleton.mp left]
      exact (mem_waiting_iff.mp mem).1
  · rw [h.waiting_of_departure _ split, WaitQueues.queueAt_setQueue]
    split
    · rfl
    · exact h.queues there

theorem step (h : Kept s) {t : QueueRun} (change : QueueChange s t) : Kept t := by
  cases change with
  | idle => exact h
  | pushed address entry => exact h.push address entry
  | @popped _ _ _ o split => exact h.depart (d := .popped o) split
  | @removed _ _ _ o split => exact h.depart (d := .removed o) split

end Kept

theorem Reachable.calls (h : Reachable s) (calls : List QueueCall) :
    Reachable (calls.foldl QueueRun.after s) := by
  induction calls generalizing s with
  | nil => exact h
  | cons call calls ih => exact ih (h.call call)

theorem Reachable.kept (h : Reachable s) : Kept s := by
  induction h with
  | start => exact ⟨rfl, nofun, fun _ => rfl⟩
  | call _ call ih => exact ih.step (ih.change call)

end QueueRun

end GuestKernel
