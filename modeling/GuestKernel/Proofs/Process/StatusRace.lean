import Mathlib
import GuestKernel.Lifecycle

/-!
# Calls that race for the status of a process

Any number of calls move one status cell, and their looks and replacements follow each other in any
order. The cell goes through its statuses in order, each of its moves is the success of exactly one
call, and whoever comes too late once is refused the next time. All of this rests on one invariant:
the rank of a value of the cell is the number of values before it.

Looks and replacements are indivisible here, and all calls see them in the same order.
-/

set_option autoImplicit false

namespace GuestKernel

/-- No two statuses have the same next one. -/
theorem ProcessStatus.eq_of_next? {a b next : ProcessStatus} (left : a.next? = some next)
    (right : b.next? = some next) : a = b := by
  have above := rank_next? left
  rw [rank_next? right] at above
  exact rank_injective (Nat.succ_injective above.symm)

namespace AdvanceCall

/-- Whether the next step is a replacement that comes too late. -/
def comesTooLate (cell : StatusCell) : AdvanceCall → Bool
  | holding requested seen => seen.next? = some requested && cell.status ≠ seen
  | _ => false

variable (cell : StatusCell) {requested seen : ProcessStatus}

theorem step_of_refused (other : seen.next? ≠ some requested) :
    (holding requested seen).step cell =
      (finished (.error (.invalidStateTransition seen requested)), cell) := by
  simp only [step, ProcessStatus.advance, if_neg other]

theorem step_of_tooLate (next : seen.next? = some requested) (gone : cell.status ≠ seen) :
    (holding requested seen).step cell = (holding requested cell.status, cell) := by
  simp only [step, ProcessStatus.advance, if_pos next, if_neg gone]

theorem step_of_replaced (next : cell.status.next? = some requested) :
    (holding requested cell.status).step cell =
      (finished (.ok cell.status), ⟨requested⟩) := by
  simp only [step, ProcessStatus.advance, if_pos next, if_true]

theorem comesTooLate_holding : (holding requested seen).comesTooLate cell =
    (decide (seen.next? = some requested) && decide (cell.status ≠ seen)) := rfl

end AdvanceCall

open AdvanceCall

/-- A call that takes part in a race. Positions count the values that the cell had before. -/
structure Contender where
  requested : ProcessStatus
  progress : AdvanceCall
  /-- The position of the value that the cell had when the call came in. -/
  arrival : Nat
  /-- The position of the value that the cell had when the call made its last step. -/
  latest : Nat
  /-- The number of its replacements that came too late. -/
  losses : Nat
  moves : Nat

namespace Contender

/-- A call that has just come in. -/
def new (requested : ProcessStatus) (position : Nat) : Contender :=
  ⟨requested, .entered requested, position, position, 0, 0⟩

/-- The call after one step. -/
def after (call : Contender) (cell : StatusCell) (position : Nat) : Contender :=
  { call with
    progress := (call.progress.step cell).1
    latest := position
    losses := call.losses + (call.progress.comesTooLate cell).toNat
    moves := call.moves + 1 }

def succeeded (call : Contender) : Bool :=
  match call.progress with
  | .finished (.ok _) => true
  | _ => false

theorem succeeded_iff (call : Contender) :
    call.succeeded = true ↔ ∃ previous, call.progress = .finished (.ok previous) := by
  unfold succeeded
  split
  · rename_i previous ended
    exact ⟨fun _ => ⟨previous, ended⟩, fun _ => rfl⟩
  · rename_i other
    refine iff_of_false Bool.false_ne_true ?_
    rintro ⟨previous, ended⟩
    exact other previous ended

theorem unanswered_of_holding {call : Contender} {requested seen : ProcessStatus}
    (progress : call.progress = .holding requested seen) (answer : Except KernelError ProcessStatus) :
    call.progress ≠ .finished answer := by
  rw [progress]
  exact nofun

/-- The cell had this value while the call was under way. -/
def Met (call : Contender) (values : List ProcessStatus) (seen : ProcessStatus) : Prop :=
  ∃ k, call.arrival ≤ k ∧ k ≤ call.latest ∧ values[k]? = some seen

end Contender

/-- A cell with all calls that move it. -/
structure StatusRace where
  cell : StatusCell
  /-- What the cell has held, its value now last. -/
  values : List ProcessStatus
  calls : List Contender
  /-- The calls whose steps changed the cell, by their numbers. -/
  makers : List Nat

namespace StatusRace

/-- One step of a call. -/
def move (r : StatusRace) (i : Nat) (call : Contender) : StatusRace :=
  let cell := (call.progress.step r.cell).2
  { cell
    values := if cell = r.cell then r.values else r.values ++ [cell.status]
    calls := r.calls.set i (call.after r.cell (r.values.length - 1))
    makers := if cell = r.cell then r.makers else r.makers ++ [i] }

inductive Step : StatusRace → StatusRace → Prop where
  | joins (r : StatusRace) (requested : ProcessStatus) :
      Step r { r with calls := r.calls ++ [.new requested (r.values.length - 1)] }
  | moves (r : StatusRace) {i : Nat} {call : Contender} (here : r.calls[i]? = some call)
      (unanswered : ∀ answer, call.progress ≠ .finished answer) : Step r (r.move i call)

inductive Reachable : StatusRace → Prop where
  | start : Reachable ⟨.new, [StatusCell.new.status], [], []⟩
  | step {r t : StatusRace} (reachable : Reachable r) (step : Step r t) : Reachable t

theorem getElem?_append_of_some {α : Type} {l : List α} {k : Nat} {a : α} (more : List α)
    (h : l[k]? = some a) : (l ++ more)[k]? = some a := by
  obtain ⟨inside, _⟩ := List.getElem?_eq_some_iff.mp h
  rw [List.getElem?_append_left inside, h]

theorem getElem?_concat_cases {α : Type} {l : List α} {k : Nat} {a b : α}
    (there : (l ++ [a])[k]? = some b) : l[k]? = some b ∨ k = l.length ∧ a = b := by
  rcases Nat.lt_or_ge k l.length with inside | beyond
  · rw [List.getElem?_append_left inside] at there
    exact .inl there
  · obtain ⟨bound, _⟩ := List.getElem?_eq_some_iff.mp there
    rw [List.length_append, List.length_singleton] at bound
    have position : k = l.length := by omega
    subst position
    rw [List.getElem?_concat_length] at there
    exact .inr ⟨rfl, Option.some.inj there⟩

theorem getElem?_set_cases {α : Type} {l : List α} {i j : Nat} {a b c : α} (here : l[i]? = some a)
    (there : (l.set i b)[j]? = some c) : i = j ∧ b = c ∨ i ≠ j ∧ l[j]? = some c := by
  by_cases same : i = j
  · subst same
    obtain ⟨inside, _⟩ := List.getElem?_eq_some_iff.mp here
    rw [List.getElem?_set_self inside] at there
    exact .inl ⟨rfl, Option.some.inj there⟩
  · rw [List.getElem?_set_ne same] at there
    exact .inr ⟨same, there⟩

/-- How far a call has come, and what it took. -/
inductive Stage (values : List ProcessStatus) (makers : List Nat) (i : Nat) (call : Contender) :
    Prop where
  | entered (progress : call.progress = .entered call.requested) (losses : call.losses = 0)
      (moves : call.moves = 0)
  | looked {seen : ProcessStatus} (progress : call.progress = .holding call.requested seen)
      (met : call.Met values seen) (losses : call.losses = 0) (moves : call.moves = 1)
  | tooLate {seen : ProcessStatus} (progress : call.progress = .holding call.requested seen)
      (met : call.Met values seen) (other : seen.next? ≠ some call.requested)
      (losses : call.losses = 1) (moves : call.moves = 2)
  | refused {seen : ProcessStatus}
      (progress : call.progress =
        .finished (.error (.invalidStateTransition seen call.requested)))
      (met : call.Met values seen) (other : seen.next? ≠ some call.requested)
      (losses : call.losses ≤ 1) (moves : call.moves = call.losses + 2)
  | won {k : Nat} {previous : ProcessStatus} (progress : call.progress = .finished (.ok previous))
      (made : makers[k]? = some i) (left : values[k]? = some previous)
      (reached : values[k + 1]? = some call.requested) (losses : call.losses = 0)
      (moves : call.moves = 2)

/-- What is known of the call with number `i`. -/
structure Sound (values : List ProcessStatus) (makers : List Nat) (i : Nat) (call : Contender) :
    Prop where
  arrived : call.arrival ≤ call.latest
  present : call.latest < values.length
  stage : Stage values makers i call

section Growth
variable {values : List ProcessStatus} {makers : List Nat} {i : Nat} {call : Contender}

theorem met_append {seen : ProcessStatus} (h : call.Met values seen) (more : List ProcessStatus) :
    call.Met (values ++ more) seen := by
  obtain ⟨k, low, high, there⟩ := h
  exact ⟨k, low, high, getElem?_append_of_some more there⟩

theorem Sound.append (h : Sound values makers i call) (more : List ProcessStatus)
    (others : List Nat) : Sound (values ++ more) (makers ++ others) i call := by
  refine ⟨h.arrived, ?_, ?_⟩
  · have present := h.present
    rw [List.length_append]
    omega
  · cases h.stage with
    | entered progress losses moves => exact .entered progress losses moves
    | looked progress met losses moves => exact .looked progress (met_append met more) losses moves
    | tooLate progress met other losses moves =>
      exact .tooLate progress (met_append met more) other losses moves
    | refused progress met other losses moves =>
      exact .refused progress (met_append met more) other losses moves
    | won progress made left reached losses moves =>
      exact .won progress (getElem?_append_of_some others made)
        (getElem?_append_of_some more left) (getElem?_append_of_some more reached) losses moves

end Growth

structure Kept (r : StatusRace) : Prop where
  length : r.values.length = r.makers.length + 1
  current : r.values[r.makers.length]? = some r.cell.status
  /-- Every value has as many before it as its rank says. -/
  rank : ∀ (k : Nat) (value : ProcessStatus), r.values[k]? = some value → value.rank = k
  sound : ∀ (i : Nat) (call : Contender), r.calls[i]? = some call → Sound r.values r.makers i call
  made : ∀ k i : Nat, r.makers[k]? = some i → ∃ (call : Contender) (previous : ProcessStatus),
    r.calls[i]? = some call ∧ r.values[k]? = some previous ∧
      call.progress = .finished (.ok previous)

namespace Kept

variable {r t : StatusRace} {i : Nat} {call : Contender}

theorem start : Kept ⟨.new, [StatusCell.new.status], [], []⟩ := by
  refine ⟨rfl, rfl, ?_, nofun, nofun⟩
  rintro (_ | k) value there
  · cases there
    rfl
  · cases there

theorem joins (h : Kept r) (requested : ProcessStatus) :
    Kept { r with calls := r.calls ++ [.new requested (r.values.length - 1)] } := by
  have length := h.length
  refine ⟨h.length, h.current, h.rank, fun i call here => ?_, fun k i there => ?_⟩
  · rcases getElem?_concat_cases here with old | ⟨_, rfl⟩
    · exact h.sound i call old
    · refine ⟨Nat.le_refl _, ?_, .entered rfl rfl rfl⟩
      change r.values.length - 1 < r.values.length
      omega
  · obtain ⟨call, previous, here, left, ended⟩ := h.made k i there
    exact ⟨call, previous, getElem?_append_of_some _ here, left, ended⟩

theorem rank_current (h : Kept r) : r.cell.status.rank = r.makers.length :=
  h.rank _ _ h.current

/-- A call without an answer has not changed the cell. -/
theorem ne_of_made (h : Kept r) (here : r.calls[i]? = some call)
    (unanswered : ∀ answer, call.progress ≠ .finished answer) {k j : Nat}
    (made : r.makers[k]? = some j) : i ≠ j := by
  rintro rfl
  obtain ⟨maker, previous, there, _, ended⟩ := h.made k i made
  cases here.symm.trans there
  exact unanswered _ ended

/-- What a call has met it still has after a step. -/
theorem met_after (h : Kept r) (here : r.calls[i]? = some call) {seen : ProcessStatus}
    (met : call.Met r.values seen) :
    (call.after r.cell (r.values.length - 1)).Met r.values seen := by
  obtain ⟨k, low, high, there⟩ := met
  have present := (h.sound i call here).present
  refine ⟨k, low, ?_, there⟩
  change k ≤ r.values.length - 1
  omega

theorem met_current (h : Kept r) (here : r.calls[i]? = some call) :
    (call.after r.cell (r.values.length - 1)).Met r.values r.cell.status := by
  obtain ⟨arrived, present, _⟩ := h.sound i call here
  have length := h.length
  refine ⟨r.makers.length, ?_, ?_, h.current⟩
  · change call.arrival ≤ r.makers.length
    omega
  · change r.makers.length ≤ r.values.length - 1
    omega

/-- A step that leaves the cell alone changes only what is known of its call. -/
theorem moves_still (h : Kept r) (here : r.calls[i]? = some call)
    (unanswered : ∀ answer, call.progress ≠ .finished answer)
    (same : (call.progress.step r.cell).2 = r.cell)
    (stage : Stage r.values r.makers i (call.after r.cell (r.values.length - 1))) :
    Kept (r.move i call) := by
  have moved : r.move i call =
      { r with calls := r.calls.set i (call.after r.cell (r.values.length - 1)) } := by
    simp only [move, same, if_true]
  obtain ⟨arrived, present, _⟩ := h.sound i call here
  rw [moved]
  refine ⟨h.length, h.current, h.rank, fun j other there => ?_, fun k j there => ?_⟩
  · rcases getElem?_set_cases here there with ⟨rfl, rfl⟩ | ⟨_, there⟩
    · refine ⟨?_, ?_, stage⟩
      · change call.arrival ≤ r.values.length - 1
        omega
      · change r.values.length - 1 < r.values.length
        omega
    · exact h.sound j other there
  · obtain ⟨maker, previous, found, left, ended⟩ := h.made k j there
    exact ⟨maker, previous, (List.getElem?_set_ne (h.ne_of_made here unanswered there)).trans found,
      left, ended⟩

/-- Once it has seen a status that may not be followed by the requested one, a call is refused. -/
theorem moves_refused (h : Kept r) (here : r.calls[i]? = some call) {seen : ProcessStatus}
    (progress : call.progress = .holding call.requested seen) (met : call.Met r.values seen)
    (other : seen.next? ≠ some call.requested) (losses : call.losses ≤ 1)
    (moves : call.moves = call.losses + 1) : Kept (r.move i call) := by
  have unanswered := Contender.unanswered_of_holding progress
  have stepped : call.progress.step r.cell =
      (.finished (.error (.invalidStateTransition seen call.requested)), r.cell) := by
    rw [progress, step_of_refused r.cell other]
  have lost : (call.after r.cell (r.values.length - 1)).losses = call.losses := by
    simp [Contender.after, progress, comesTooLate_holding, other]
  refine h.moves_still here unanswered (congrArg Prod.snd stepped) ?_
  refine .refused (congrArg Prod.fst stepped) (h.met_after here met) other ?_ ?_
  · rw [lost]
    exact losses
  · rw [lost]
    exact congrArg Nat.succ moves

/-- A replacement in time is a move of the cell, and the success of its call. -/
theorem moves_replaced (h : Kept r) (here : r.calls[i]? = some call)
    (progress : call.progress = .holding call.requested r.cell.status)
    (next : r.cell.status.next? = some call.requested) (losses : call.losses = 0)
    (moves : call.moves = 1) : Kept (r.move i call) := by
  have unanswered := Contender.unanswered_of_holding progress
  have up := ProcessStatus.rank_next? next
  have rank := h.rank_current
  have length := h.length
  have stepped : call.progress.step r.cell =
      (.finished (.ok r.cell.status), ⟨call.requested⟩) := by
    rw [progress, step_of_replaced r.cell next]
  have changed : (⟨call.requested⟩ : StatusCell) ≠ r.cell := by
    intro same
    rw [← same] at up
    exact absurd up (Nat.ne_of_lt (Nat.lt_succ_self _))
  have moved : r.move i call =
      ⟨⟨call.requested⟩, r.values ++ [call.requested],
        r.calls.set i (call.after r.cell (r.values.length - 1)), r.makers ++ [i]⟩ := by
    simp only [move, stepped, if_neg changed]
  have last : (r.values ++ [call.requested])[r.makers.length + 1]? = some call.requested := by
    rw [← length, List.getElem?_concat_length]
  have left : (r.values ++ [call.requested])[r.makers.length]? = some r.cell.status :=
    getElem?_append_of_some _ h.current
  obtain ⟨arrived, present, _⟩ := h.sound i call here
  rw [moved]
  refine ⟨by simp only [List.length_append, List.length_singleton, length], ?_, ?_, ?_, ?_⟩
  · rw [List.length_append, List.length_singleton]
    exact last
  · intro k value there
    rcases getElem?_concat_cases there with old | ⟨position, rfl⟩
    · exact h.rank k value old
    · omega
  · intro j other there
    rcases getElem?_set_cases here there with ⟨rfl, rfl⟩ | ⟨_, there⟩
    · refine ⟨?_, ?_, .won (k := r.makers.length) (congrArg Prod.fst stepped) ?_ left last ?_ ?_⟩
      · change call.arrival ≤ r.values.length - 1
        omega
      · change r.values.length - 1 < (r.values ++ [call.requested]).length
        rw [List.length_append]
        omega
      · exact List.getElem?_concat_length
      · simp [Contender.after, progress, comesTooLate_holding, losses]
      · simp only [Contender.after, moves]
    · exact (h.sound j other there).append _ _
  · intro k j there
    rcases getElem?_concat_cases there with old | ⟨rfl, rfl⟩
    · obtain ⟨maker, previous, found, was, ended⟩ := h.made k j old
      exact ⟨maker, previous, (List.getElem?_set_ne (h.ne_of_made here unanswered old)).trans found,
        getElem?_append_of_some _ was, ended⟩
    · obtain ⟨bound, _⟩ := List.getElem?_eq_some_iff.mp here
      exact ⟨_, _, List.getElem?_set_self bound, left, congrArg Prod.fst stepped⟩

theorem moves (h : Kept r) (here : r.calls[i]? = some call)
    (unanswered : ∀ answer, call.progress ≠ .finished answer) : Kept (r.move i call) := by
  cases (h.sound i call here).stage with
  | entered progress losses moves =>
    have stepped : call.progress.step r.cell =
        (.holding call.requested r.cell.status, r.cell) := by
      rw [progress]
      rfl
    refine h.moves_still here unanswered (congrArg Prod.snd stepped) ?_
    refine .looked (congrArg Prod.fst stepped) (h.met_current here) ?_ (congrArg Nat.succ moves)
    simp [Contender.after, progress, comesTooLate, losses]
  | @looked seen progress met losses moves =>
    by_cases next : seen.next? = some call.requested
    · by_cases same : r.cell.status = seen
      · subst same
        exact h.moves_replaced here progress next losses moves
      · have stepped : call.progress.step r.cell =
            (.holding call.requested r.cell.status, r.cell) := by
          rw [progress, step_of_tooLate r.cell next same]
        have other : r.cell.status.next? ≠ some call.requested := fun again =>
          same (ProcessStatus.eq_of_next? again next)
        refine h.moves_still here unanswered (congrArg Prod.snd stepped) ?_
        refine .tooLate (congrArg Prod.fst stepped) (h.met_current here) other ?_
          (congrArg Nat.succ moves)
        simp [Contender.after, progress, comesTooLate_holding, losses, next, same]
    · exact h.moves_refused here progress met next (by omega) (by omega)
  | tooLate progress met other losses moves =>
    exact h.moves_refused here progress met other (by omega) (by omega)
  | refused progress => exact absurd progress (unanswered _)
  | won progress => exact absurd progress (unanswered _)

theorem step (h : Kept r) (step : Step r t) : Kept t := by
  cases step with
  | joins requested => exact h.joins requested
  | moves here unanswered => exact h.moves here unanswered

end Kept

theorem Reachable.kept {r : StatusRace} (h : Reachable r) : Kept r := by
  induction h with
  | start => exact .start
  | step _ step ih => exact ih.step step

/-- The numbers of the calls that succeeded. -/
def winners (r : StatusRace) : List Nat :=
  (List.range r.calls.length).filter fun i => (r.calls[i]?).any Contender.succeeded

section Winners
variable {r : StatusRace} {i : Nat}

theorem mem_winners_iff : i ∈ r.winners ↔ ∃ (call : Contender) (previous : ProcessStatus),
    r.calls[i]? = some call ∧ call.progress = .finished (.ok previous) := by
  rw [winners, List.mem_filter, List.mem_range, Option.any_eq_true]
  constructor
  · rintro ⟨_, call, here, succeeded⟩
    obtain ⟨previous, ended⟩ := call.succeeded_iff.mp succeeded
    exact ⟨call, previous, here, ended⟩
  · rintro ⟨call, previous, here, ended⟩
    obtain ⟨inside, _⟩ := List.getElem?_eq_some_iff.mp here
    exact ⟨inside, call, here, call.succeeded_iff.mpr ⟨previous, ended⟩⟩

/-- A call that succeeded has made the move that its answer names. -/
theorem Kept.won (h : Kept r) {call : Contender} {previous : ProcessStatus}
    (here : r.calls[i]? = some call) (ended : call.progress = .finished (.ok previous)) :
    r.makers[previous.rank]? = some i ∧ r.values[previous.rank]? = some previous ∧
      r.values[previous.rank + 1]? = some call.requested := by
  cases (h.sound i call here).stage with
  | entered progress => cases progress.symm.trans ended
  | looked progress => cases progress.symm.trans ended
  | tooLate progress => cases progress.symm.trans ended
  | refused progress => cases progress.symm.trans ended
  | won progress made left reached =>
    cases progress.symm.trans ended
    rw [h.rank _ _ left]
    exact ⟨made, left, reached⟩

theorem Kept.makers_nodup (h : Kept r) : r.makers.Nodup := by
  rw [List.nodup_iff_getElem?_ne_getElem?]
  intro k j before inside same
  have maker := List.getElem?_eq_getElem inside
  obtain ⟨call, previous, here, left, ended⟩ := h.made j _ maker
  obtain ⟨other, earlier, there, was, ended'⟩ := h.made k _ (same.trans maker)
  cases here.symm.trans there
  cases ended.symm.trans ended'
  have position := h.rank _ _ left
  have position' := h.rank _ _ was
  omega

theorem Kept.winners_perm (h : Kept r) : r.winners.Perm r.makers := by
  have apart : r.winners.Nodup := List.nodup_range.filter _
  apply (List.perm_ext_iff_of_nodup apart h.makers_nodup).mpr
  intro i
  rw [mem_winners_iff]
  constructor
  · rintro ⟨call, previous, here, ended⟩
    exact List.mem_of_getElem? (h.won here ended).1
  · intro mem
    obtain ⟨k, made⟩ := List.mem_iff_getElem?.mp mem
    obtain ⟨call, previous, here, _, ended⟩ := h.made k i made
    exact ⟨call, previous, here, ended⟩

theorem getElem?_rank (status : ProcessStatus) :
    [ProcessStatus.created, .started, .exiting][status.rank]? = some status := by
  cases status <;> rfl

/-- The values of the cell are the statuses in order, as far as it has come. -/
theorem Kept.values_prefix (h : Kept r) :
    r.values <+: [ProcessStatus.created, .started, .exiting] := by
  rw [List.prefix_iff_eq_take]
  apply List.ext_getElem?
  intro k
  rw [List.getElem?_take]
  split
  · rename_i inside
    obtain ⟨value, there⟩ : ∃ value, r.values[k]? = some value :=
      ⟨_, List.getElem?_eq_getElem inside⟩
    rw [there, ← h.rank k value there, getElem?_rank]
  · rename_i beyond
    rw [List.getElem?_eq_none (Nat.le_of_not_lt beyond)]

end Winners

/-- The cell moves in order, and each of its moves is the work of one call. -/
structure Orderly (r : StatusRace) : Prop where
  order : r.values <+: [ProcessStatus.created, .started, .exiting]
  current : r.values.getLast? = some r.cell.status
  /-- As many calls succeed as the cell has made moves. -/
  count : r.winners.length + 1 = r.values.length
  /-- Every move was made by one call, whose answer is the value that the cell left, and by no
  other. -/
  claimed : ∀ (k : Nat) (previous next : ProcessStatus), r.values[k]? = some previous →
    r.values[k + 1]? = some next → ∃ (i : Nat) (call : Contender),
      r.makers[k]? = some i ∧ r.calls[i]? = some call ∧ call.requested = next ∧
      call.progress = .finished (.ok previous) ∧
      ∀ (j : Nat) (other : Contender), r.calls[j]? = some other →
        other.progress = .finished (.ok previous) → j = i
  won : ∀ (i : Nat) (call : Contender) (previous : ProcessStatus), r.calls[i]? = some call →
    call.progress = .finished (.ok previous) → ∃ k, r.makers[k]? = some i ∧
      r.values[k]? = some previous ∧ r.values[k + 1]? = some call.requested
  /-- A call that is refused has moved nothing, and names a status that it met. -/
  refused : ∀ (i : Nat) (call : Contender) (cause : KernelError), r.calls[i]? = some call →
    call.progress = .finished (.error cause) → i ∉ r.makers ∧
      ∃ seen, cause = .invalidStateTransition seen call.requested ∧ call.Met r.values seen ∧
        seen.next? ≠ some call.requested
  /-- A call that came too late once is refused by its next step, whatever the cell holds then. -/
  losses : ∀ call ∈ r.calls, call.losses ≤ 1 ∧ (call.losses = 1 → ∀ cell, ∃ cause,
    call.progress.step cell = (.finished (.error cause), cell))
  ends : ∀ call ∈ r.calls, call.moves ≤ 3 ∧
    (call.moves = 3 → ∃ answer, call.progress = .finished answer)

section Contenders
variable {values : List ProcessStatus} {makers : List Nat} {i : Nat} {call : Contender}

theorem Stage.losses (h : Stage values makers i call) :
    call.losses ≤ 1 ∧ (call.losses = 1 → ∀ cell, ∃ cause,
      call.progress.step cell = (.finished (.error cause), cell)) := by
  cases h with
  | entered progress losses moves => exact ⟨by omega, fun lost => by omega⟩
  | looked progress met losses moves => exact ⟨by omega, fun lost => by omega⟩
  | @tooLate seen progress met other losses moves =>
    refine ⟨Nat.le_of_eq losses, fun _ cell => ⟨.invalidStateTransition seen call.requested, ?_⟩⟩
    rw [progress, step_of_refused cell other]
  | @refused seen progress met other losses moves =>
    refine ⟨losses, fun _ cell => ⟨.invalidStateTransition seen call.requested, ?_⟩⟩
    rw [progress]
    rfl
  | won progress made left reached losses moves => exact ⟨by omega, fun lost => by omega⟩

theorem Stage.ends (h : Stage values makers i call) :
    call.moves ≤ 3 ∧ (call.moves = 3 → ∃ answer, call.progress = .finished answer) := by
  cases h with
  | entered progress losses moves => exact ⟨by omega, fun last => by omega⟩
  | looked progress met losses moves => exact ⟨by omega, fun last => by omega⟩
  | tooLate progress met other losses moves => exact ⟨by omega, fun last => by omega⟩
  | refused progress met other losses moves => exact ⟨by omega, fun _ => ⟨_, progress⟩⟩
  | won progress made left reached losses moves => exact ⟨by omega, fun _ => ⟨_, progress⟩⟩

end Contenders

/-- Whoever races for it, a status cell moves in order, once for each call that succeeds. -/
theorem Reachable.moves_once {r : StatusRace} (h : Reachable r) : Orderly r := by
  have kept := h.kept
  have length := kept.length
  refine ⟨kept.values_prefix, ?_, ?_, ?_, ?_, ?_, ?_, ?_⟩
  · rw [List.getLast?_eq_getElem?, length]
    exact kept.current
  · rw [kept.winners_perm.length_eq, length]
  · intro k previous next left reached
    have inside : k < r.makers.length := by
      obtain ⟨bound, _⟩ := List.getElem?_eq_some_iff.mp reached
      omega
    have maker := List.getElem?_eq_getElem inside
    obtain ⟨call, was, here, found, ended⟩ := kept.made k _ maker
    cases left.symm.trans found
    have target := (kept.won here ended).2.2
    rw [kept.rank k _ left] at target
    refine ⟨_, call, maker, here, Option.some.inj (target.symm.trans reached), ended, ?_⟩
    intro j other there same
    have other := (kept.won there same).1
    rw [kept.rank k _ left] at other
    exact Option.some.inj (other.symm.trans maker)
  · intro i call previous here ended
    exact ⟨_, kept.won here ended⟩
  · intro i call cause here ended
    cases (kept.sound i call here).stage with
    | entered progress => cases progress.symm.trans ended
    | looked progress => cases progress.symm.trans ended
    | tooLate progress => cases progress.symm.trans ended
    | won progress => cases progress.symm.trans ended
    | refused progress met other =>
      cases progress.symm.trans ended
      refine ⟨fun mem => ?_, _, rfl, met, other⟩
      obtain ⟨k, made⟩ := List.mem_iff_getElem?.mp mem
      obtain ⟨maker, previous, there, _, succeeded⟩ := kept.made k i made
      cases here.symm.trans there
      cases progress.symm.trans succeeded
  · intro call mem
    obtain ⟨i, here⟩ := List.mem_iff_getElem?.mp mem
    exact (kept.sound i call here).stage.losses
  · intro call mem
    obtain ⟨i, here⟩ := List.mem_iff_getElem?.mp mem
    exact (kept.sound i call here).stage.ends

/-- Two calls want to start the process and both see that it may be started; a third one ends it. -/
theorem moves_once_with_loss : ∃ r : StatusRace, r.values = [.created, .started, .exiting] ∧
    r.makers = [1, 2] ∧ r.calls.map Contender.losses = [1, 0, 0] ∧
    r.calls.map Contender.moves = [3, 2, 2] ∧ Orderly r := by
  have first := Reachable.start.step (.joins _ .started)
  have second := (first.step (.joins _ .started)).step (.moves _ (i := 0) rfl nofun)
  have won := (second.step (.moves _ (i := 1) rfl nofun)).step (.moves _ (i := 1) rfl nofun)
  have late := won.step (.moves _ (i := 0) rfl nofun)
  have third := (late.step (.joins _ .exiting)).step (.moves _ (i := 2) rfl nofun)
  have last := (third.step (.moves _ (i := 2) rfl nofun)).step (.moves _ (i := 0) rfl nofun)
  exact ⟨_, rfl, rfl, rfl, rfl, last.moves_once⟩

end StatusRace

end GuestKernel
