import GuestKernel.Error

/-!
# Moving through the life cycle

A process moves one status forward at a time. `ProcessStatus.advance` refuses every other change;
`advance_eq_ok_iff` says exactly which changes it allows. `StatusCell.advance` is a call that nobody
disturbs. Several threads may move one cell at once: `AdvanceCall.step` cuts such a call into its
indivisible steps, and `step_step_of_entered` says that a call whose steps follow each other
directly is the undisturbed one.

This module does NOT say in which order the steps of several calls happen.
-/

set_option autoImplicit false

namespace GuestKernel

namespace ProcessStatus

/-- Moves from one status to another; gives the status that was left. -/
def advance (current requested : ProcessStatus) : Except KernelError ProcessStatus :=
  if current.next? = some requested then .ok current
  else .error (.invalidStateTransition current requested)

theorem advance_eq_ok_iff {current requested previous : ProcessStatus} :
    advance current requested = .ok previous ↔
      current.next? = some requested ∧ previous = current := by
  unfold advance
  split
  · rename_i h
    simp [h, eq_comm]
  · rename_i h
    simp [h]

end ProcessStatus

/-- A status that only moves one step forward at a time. -/
structure StatusCell where
  status : ProcessStatus
  deriving DecidableEq

namespace StatusCell

def new : StatusCell := ⟨.created⟩

/-- Moves on to `requested`; gives the status that was left and the cell afterwards. -/
def advance (cell : StatusCell) (requested : ProcessStatus) :
    Except KernelError ProcessStatus × StatusCell :=
  match cell.status.advance requested with
  | .ok previous => (.ok previous, ⟨requested⟩)
  | .error cause => (.error cause, cell)

end StatusCell

/-- How far a call that moves a cell has come. -/
inductive AdvanceCall where
  /-- It has not looked at the cell yet. -/
  | entered (requested : ProcessStatus)
  /-- It last saw the cell in the status `seen`. -/
  | holding (requested seen : ProcessStatus)
  /-- It has its answer. -/
  | finished (answer : Except KernelError ProcessStatus)

namespace AdvanceCall

/-- One indivisible step: a look at the cell, or its replacement provided that it is still in the
status that was seen. A replacement that comes too late is a new look. -/
def step (cell : StatusCell) : AdvanceCall → AdvanceCall × StatusCell
  | entered requested => (holding requested cell.status, cell)
  | holding requested seen =>
    match seen.advance requested with
    | .error cause => (finished (.error cause), cell)
    | .ok previous =>
      if cell.status = seen then (finished (.ok previous), ⟨requested⟩)
      else (holding requested cell.status, cell)
  | finished answer => (finished answer, cell)

theorem step_step_of_entered (cell : StatusCell) (requested : ProcessStatus) :
    step (step cell (entered requested)).2 (step cell (entered requested)).1 =
      (finished (cell.advance requested).1, (cell.advance requested).2) := by
  simp only [step, StatusCell.advance]
  split <;> simp_all

end AdvanceCall

end GuestKernel
