import Mathlib
import GuestKernel.Proofs.Process.Core

/-!
# Calls that add no addresses

An action that comes to no address sum which 64 bits cannot hold `Fits`. The operations of a handle
table and the mapping of the heap do, and so does the creation of a thread apart from its slot of
thread-local storage and from what the factory does.
-/

set_option autoImplicit false

namespace GuestKernel

namespace Action

variable {σ τ α β : Type}

def Fits (a : Action σ α) : Prop := ∀ s, (a s).outcome ≠ .error .overflow

theorem fits_bind {a : Action σ α} {next : α → Action σ β} (first : Fits a)
    (h : ∀ x, Fits (next x)) : Fits (a >>= next) := by
  intro s failed
  rcases bind_eq_error failed with failed | ⟨x, _, failed⟩
  · exact first s failed
  · exact h x _ failed

theorem outcome_bind_of_error {a : Action σ α} {next : α → Action σ β} {s : σ} {fault : Fault}
    (failed : (a s).outcome = .error fault) : ((a >>= next) s).outcome = .error fault := by
  rw [bind_apply, andThen, failed]

theorem outcome_bind_of_ok {a : Action σ α} {next : α → Action σ β} {s : σ} {x : α}
    (done : (a s).outcome = .ok x) :
    ((a >>= next) s).outcome = (next x (a s).state).outcome := by
  rw [bind_apply, andThen, done]

theorem fits_pure (x : α) : Fits (pure x : Action σ α) := fun _ => nofun

theorem fits_current : Fits (current : Action σ σ) := fun _ => nofun

theorem fits_update (f : σ → σ) : Fits (update f) := fun _ => nofun

theorem fits_note (record : LogRecord) : Fits (note record : Action σ Unit) := fun _ => nofun

theorem mapError_error_ne_overflow (answer : Except KernelError α) :
    answer.mapError Fault.error ≠ .error .overflow := by
  cases answer <;> nofun

theorem fits_done (answer : Except KernelError α) :
    Fits (done (answer.mapError Fault.error) : Action σ α) := fun _ =>
  mapError_error_ne_overflow answer

theorem fits_onPart {part : σ → τ} {replace : τ → σ → σ} {a : Action τ α} (h : Fits a) :
    Fits (onPart part replace a) := fun s => h (part s)

end Action

open GuestKernel.Action

namespace HandleTable

theorem fits_reserve : Fits reserve := by
  intro table
  unfold reserve
  split <;> nofun

theorem fits_bind (handle : Handle) (binding : Binding) : Fits (bind handle binding) :=
  Action.fits_bind (fits_note _) fun _ => fits_update _

theorem fits_insertMemory (memory : MemoryObject) : Fits (insertMemory memory) :=
  Action.fits_bind fits_reserve fun _ => Action.fits_bind (fits_bind _ _) fun _ => fits_pure _

end HandleTable

theorem TableCall.fits_perform (call : TableCall) : Fits call.perform := by
  cases call with
  | newHandle build =>
    exact fits_bind HandleTable.fits_reserve fun _ => fits_bind (fits_done _) fun _ =>
      fits_bind (HandleTable.fits_bind _ _) fun _ => fits_pure _
  | insertItem object =>
    exact fits_bind HandleTable.fits_reserve fun _ => fits_bind (HandleTable.fits_bind _ _)
      fun _ => fits_pure _
  | insertMemory memory => exact HandleTable.fits_insertMemory memory
  | duplicateHandle handle =>
    exact fits_bind fits_current fun _ => fits_bind (fits_done _) fun _ =>
      fits_bind HandleTable.fits_reserve fun _ => fits_bind (HandleTable.fits_bind _ _)
        fun _ => fits_pure _
  | deleteHandle handle =>
    refine fits_bind fits_current fun table => ?_
    split
    · exact fits_bind (fits_update _) fun _ => fits_bind (fits_note _)
        fun _ => fits_pure _
    · exact fits_bind (fits_note _) fun _ => fits_pure _
  | getObject handle => exact fun _ => mapError_error_ne_overflow _
  | getHandle expected handle => exact fun _ => mapError_error_ne_overflow _
  | memoryObject address => exact fun _ => nofun

namespace GuestProcess

variable {M A F α : Type}

theorem fits_onHandles {a : Action HandleTable α} (h : Fits a) :
    Fits (onHandles a : Action (GuestProcess M A F) α) := fits_onPart h

theorem fits_mapHeap [RegionAllocator A] : Fits (mapHeap : Action (GuestProcess M A F) Unit) := by
  refine fits_bind fits_current fun p => ?_
  dsimp only
  split
  · refine fits_bind (fits_onPart fun _ => mapError_error_ne_overflow _) fun memory => ?_
    refine fits_bind (fits_onHandles (HandleTable.fits_insertMemory memory)) fun handle => ?_
    exact fits_bind (fits_note _) fun _ => fits_update _
  · exact fits_pure ()

variable [ThreadFactory F] {p : GuestProcess M A F} {entryPoint stackTop : VirtAddr}
variable {entryArgument : UInt64} {priority : Priority}

theorem finishThread_overflow {tls : VirtAddr} {handle : Handle}
    (h : (finishThread entryPoint entryArgument stackTop priority tls handle p).outcome =
      .error .overflow) :
    ∃ params table, (makeThread params (table, p.factory)).outcome = .error .overflow := by
  rcases bind_eq_error h with failed | ⟨q, current, h⟩
  · exact absurd failed (fits_current _)
  cases current
  rcases bind_eq_error h with failed | ⟨made, _, h⟩
  · exact ⟨_, _, failed⟩
  · refine absurd h (fits_bind (fits_onHandles (HandleTable.fits_bind _ _)) (fun _ => ?_) _)
    exact fits_bind (fits_update _) fun _ => fits_bind (fits_note _) fun _ => fits_pure _

variable [RegionAllocator A]

/-- Once a thread has its slot, only the factory may come to a sum that does not fit. -/
theorem createThread_overflow (slot : (getTlsSlot p).outcome ≠ .error .overflow)
    (h : (createThread entryPoint entryArgument stackTop priority p).outcome = .error .overflow) :
    ∃ params table, (makeThread params (table, p.factory)).outcome = .error .overflow := by
  rw [createThread_eq] at h
  rcases bind_eq_error h with failed | ⟨tls, _, h⟩
  · exact absurd failed slot
  rcases bind_eq_error h with failed | ⟨handle, _, h⟩
  · exact absurd failed (fits_onHandles HandleTable.fits_reserve _)
  · obtain ⟨params, table, failed⟩ := finishThread_overflow h
    exact ⟨params, table, failed⟩

theorem createMainThread_overflow
    (slot : (getTlsSlot p).outcome ≠ .error .overflow)
    (h : (createMainThread entryPoint stackTop p).outcome = .error .overflow) :
    ∃ params table, (makeThread params (table, p.factory)).outcome = .error .overflow := by
  rcases bind_eq_error h with failed | ⟨q, current, h⟩
  · exact absurd failed (fits_current _)
  cases current
  rcases bind_eq_error h with failed | ⟨made, _, h⟩
  · exact createThread_overflow slot failed
  · exact absurd h (fits_bind (fits_update _) (fun _ => fits_pure _) _)

end GuestProcess

end GuestKernel
