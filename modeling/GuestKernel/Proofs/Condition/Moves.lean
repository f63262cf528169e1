import Mathlib
import GuestKernel.Proofs.Wait.Accounted

/-!
# Runs at condition variables

A `ConditionMove` is a call on a condition variable, or the return of one, together with what it
answers. `Moves s moves t` says that these moves, one after the other, lead from one run to the
next; a part of the moves leads part of the way.
-/

set_option autoImplicit false

namespace GuestKernel

/-- What threads do at condition variables, with the answers that they get. -/
inductive ConditionMove where
  | wait (address : VirtAddr) (thread : GuestThread) (entry : WaitEntry)
  | signal (address : VirtAddr) (amount : UInt64) (woken : List WaitEntry)
  | timeout (address : VirtAddr) (entry : WaitEntry) (answer : Bool)
  /-- A thread that waits returns because it finds that it was woken. -/
  | wake (address : VirtAddr) (entry : WaitEntry)
  deriving DecidableEq

namespace WaitRun

open GuestProcess

variable {M A F : Type}

inductive Move : WaitRun M A F → ConditionMove → WaitRun M A F → Prop where
  | wait (s : WaitRun M A F) (address : VirtAddr) (thread : GuestThread) {entry : WaitEntry}
      (made : (conditionWait address thread s.process).outcome = .ok entry) :
      Move s (.wait address thread entry)
        (s.after (conditionWait address thread) fun entry => [.arrived (.condition address) entry])
  | signal (s : WaitRun M A F) (address : VirtAddr) (amount : UInt64) {woken : List WaitEntry}
      (picked : (conditionSignal address amount s.process).outcome = .ok woken) :
      Move s (.signal address amount woken)
        (s.after (conditionSignal address amount) fun woken => [.signalled address woken])
  | timeout (s : WaitRun M A F) (address : VirtAddr) (entry : WaitEntry) {answer : Bool}
      (waiting : s.Waiting address entry)
      (ended : (conditionTimeout address entry s.process).outcome = .ok answer) :
      Move s (.timeout address entry answer)
        (s.after (conditionTimeout address entry)
          fun answer => [.returned address entry answer])
  | wake (s : WaitRun M A F) (address : VirtAddr) (entry : WaitEntry)
      (waiting : s.Waiting address entry) (woken : s.process.wakes.isWoken entry = true) :
      Move s (.wake address entry) ⟨s.process, s.events ++ [.returned address entry true]⟩

/-- The moves of a run that goes on from `s`. -/
inductive Moves (s : WaitRun M A F) : List ConditionMove → WaitRun M A F → Prop where
  | start : Moves s [] s
  | snoc {moves : List ConditionMove} {move : ConditionMove} {t u : WaitRun M A F}
      (run : Moves s moves t) (last : Move t move u) : Moves s (moves ++ [move]) u

end WaitRun

/-- What a move adds to the events of a run. -/
def ConditionMove.event : ConditionMove → WaitEvent
  | wait address _ entry => .arrived (.condition address) entry
  | signal address _ woken => .signalled address woken
  | timeout address entry answer => .returned address entry answer
  | wake address entry => .returned address entry true

namespace WaitRun

open GuestProcess

variable {M A F : Type} {s t u : WaitRun M A F} {move : ConditionMove}
variable {moves : List ConditionMove}

theorem Move.events (h : Move s move t) : t.events = s.events ++ [move.event] := by
  cases h with
  | wait address thread made => rw [after_of_ok made]; rfl
  | signal address amount picked => rw [after_of_ok picked]; rfl
  | timeout address entry waiting ended => rw [after_of_ok ended]; rfl
  | wake address entry waiting woken => rfl

theorem Moves.events (h : Moves s moves t) :
    t.events = s.events ++ moves.map ConditionMove.event := by
  induction h with
  | start => simp
  | snoc run last ih => rw [last.events, ih, List.map_append, List.append_assoc]; rfl

theorem Moves.take (h : Moves s moves t) (k : Nat) :
    ∃ u, Moves s (moves.take k) u ∧ u.events <+: t.events := by
  induction h with
  | start => exact ⟨s, by rw [List.take_nil]; exact .start, List.prefix_rfl⟩
  | @snoc moves move t u run last ih =>
    by_cases whole : moves.length < k
    · refine ⟨u, ?_, List.prefix_rfl⟩
      rw [List.take_of_length_le]
      · exact .snoc run last
      · rw [List.length_append]
        exact whole
    · obtain ⟨v, part, before⟩ := ih
      refine ⟨v, ?_, before.trans ⟨[move.event], last.events.symm⟩⟩
      rw [List.take_append_of_le_length (Nat.le_of_not_lt whole)]
      exact part

variable [MemoryChannel M]

theorem Move.step (h : Move s move t) : Step s t := by
  cases h with
  | wait address thread made => exact .wait s address thread
  | signal address amount picked => exact .signal s address amount
  | timeout address entry waiting ended => exact .timeout s address entry waiting
  | wake address entry waiting woken => exact .wake s address entry waiting woken

theorem Moves.reachable (h : Moves s moves t) (start : Reachable s) : Reachable t := by
  induction h with
  | start => exact start
  | snoc run last ih => exact ih.step last.step

end WaitRun

end GuestKernel
