import Mathlib
import GuestKernel.Proofs.Process.Stable

/-!
# The counter of handles along a run

No call lowers the counter from which a process gives out handles, whatever the factory does with
the table meanwhile. So the handle of a thread lies between the first handle of its process and the
counter, however long ago the thread was made.
-/

set_option autoImplicit false

namespace GuestKernel

open GuestKernel.Action GuestKernel.HandleTable

namespace HandleTable

def counter (table : HandleTable) : Nat := table.next.toNat

theorem counter_advance (table : HandleTable) (room : table.next.toNat + 1 < UInt32.size) :
    table.advance.counter = table.counter + 1 := toNat_next_advance room

theorem counter_reserve {table : HandleTable} {handle : Handle}
    (h : (reserve table).outcome = .ok handle) :
    handle.toNat = table.counter ∧ (reserve table).state.counter = table.counter + 1 := by
  obtain ⟨room, rfl, after⟩ := reserve_eq_ok h
  exact ⟨rfl, after ▸ table.counter_advance room⟩

/-- The counter does not go down, whatever is deleted. -/
theorem stable_counter (n : Nat) : Stable (fun _ => True) fun table => n ≤ table.counter := by
  refine ⟨?_, fun _ _ => id, fun _ => id⟩
  intro table low
  rcases table.reserve_cases with ⟨_, reserved⟩ | ⟨_, full⟩
  · have up := (counter_reserve (congrArg Effect.outcome reserved)).2
    omega
  · rwa [full]

end HandleTable

namespace GuestProcess

variable {M A F : Type}

def counter (p : GuestProcess M A F) : Nat := p.handles.counter

section Threads
variable [ThreadFactory F] {entryPoint : VirtAddr} {entryArgument : UInt64}
variable {stackTop : VirtAddr} {priority : Priority}

theorem finishThread_handle {tls : VirtAddr} {handle given : Handle} {made : ThreadObject}
    {p : GuestProcess M A F}
    (h : (finishThread entryPoint entryArgument stackTop priority tls handle p).outcome =
      .ok (given, made)) : given = handle := by
  obtain ⟨_, _, h, _⟩ := bind_eq_ok h
  obtain ⟨_, _, h, _⟩ := bind_eq_ok h
  obtain ⟨_, _, h, _⟩ := bind_eq_ok h
  obtain ⟨_, _, h, _⟩ := bind_eq_ok h
  obtain ⟨_, _, h, _⟩ := bind_eq_ok h
  cases h
  rfl

variable [RegionAllocator A]

/-- The handle of a new thread is one that the counter passes meanwhile. -/
theorem createThread_handle {p : GuestProcess M A F} {handle : Handle} {made : ThreadObject}
    (h : (createThread entryPoint entryArgument stackTop priority p).outcome =
      .ok (handle, made)) :
    p.counter ≤ handle.toNat ∧
      handle.toNat < (createThread entryPoint entryArgument stackTop priority p).state.counter := by
  rw [createThread_eq] at h ⊢
  obtain ⟨tls, _, h, after⟩ := bind_eq_ok h
  obtain ⟨given, reserved, h, after'⟩ := bind_eq_ok h
  have before := (stable_counter p.counter).getTlsSlot p (Nat.le_refl _)
  obtain ⟨number, up⟩ := counter_reserve reserved
  obtain rfl := finishThread_handle h
  rw [after, after']
  have passed : handle.toNat + 1 ≤ (onHandles reserve (getTlsSlot p).state).state.counter := by
    change _ ≤ (reserve (getTlsSlot p).state.handles).state.counter
    omega
  refine ⟨number ▸ before, ?_⟩
  exact (stable_counter (handle.toNat + 1)).finishThread tls
    (fun _ => TableProgram.deletesOnly (fun _ => trivial) _) (fun _ _ => id) passed

theorem createMainThread_handle {p : GuestProcess M A F} {handle : Handle} {made : ThreadObject}
    (h : (createMainThread entryPoint stackTop p).outcome = .ok (handle, made)) :
    p.counter ≤ handle.toNat ∧
      handle.toNat < (createMainThread entryPoint stackTop p).state.counter := by
  unfold createMainThread at h ⊢
  obtain ⟨_, current, h, after⟩ := bind_eq_ok h
  cases current
  obtain ⟨_, created, h, after'⟩ := bind_eq_ok h
  obtain ⟨_, _, h, _⟩ := bind_eq_ok h
  cases h
  rw [after, after']
  exact createThread_handle created

end Threads

end GuestProcess

open GuestProcess

namespace ProcessCall

variable {M A F : Type} [RegionAllocator A] [ThreadFactory F]

def threadHandle? (p : GuestProcess M A F) : ProcessCall M A F → Option Handle
  | createThread entryPoint entryArgument stackTop priority =>
    (GuestProcess.createThread entryPoint entryArgument stackTop priority p).outcome.toOption.map
      Prod.fst
  | createMainThread entryPoint stackTop =>
    (GuestProcess.createMainThread entryPoint stackTop p).outcome.toOption.map Prod.fst
  | _ => none

variable [MemoryChannel M] {p : GuestProcess M A F}

theorem counter_le (call : ProcessCall M A F) : p.counter ≤ (call.perform p).state.counter :=
  (stable_counter p.counter).perform (call.deletesOnly (fun _ => trivial) p) (Nat.le_refl _)

theorem threadHandle_range {call : ProcessCall M A F} {handle : Handle}
    (h : call.threadHandle? p = some handle) :
    p.counter ≤ handle.toNat ∧ handle.toNat < (call.perform p).state.counter := by
  have made : ∀ outcome : Except Fault (Handle × ThreadObject),
      outcome.toOption.map Prod.fst = some handle → ∃ thread, outcome = .ok (handle, thread) := by
    rintro (fault | ⟨given, thread⟩) found
    · cases found
    · cases found
      exact ⟨thread, rfl⟩
  cases call with
  | createThread =>
    obtain ⟨thread, created⟩ := made _ h
    exact createThread_handle created
  | createMainThread =>
    obtain ⟨thread, created⟩ := made _ h
    exact createMainThread_handle created
  | _ => cases h

end ProcessCall

namespace ProcessRun

variable {M A F : Type} [RegionAllocator A] [ThreadFactory F]

/-- The handles of the threads that were made in a run, the first one first. -/
def threadHandles (s : ProcessRun M A F) : List Handle :=
  s.calls.filterMap fun made => made.2.threadHandle? made.1

variable [MemoryChannel M] {config : ProcessConfig} {s : ProcessRun M A F}

/-- The handles of threads are among those that were given out. -/
theorem Reachable.threadHandles_range (h : Reachable config s) :
    config.baseHandleIndex.toNat ≤ s.process.counter ∧ ∀ handle ∈ s.threadHandles,
      config.baseHandleIndex.toNat ≤ handle.toNat ∧ handle.toNat < s.process.counter := by
  induction h with
  | start index channel allocator factory => exact ⟨Nat.le_refl _, fun _ mem => by cases mem⟩
  | @call s _ call ih =>
    obtain ⟨base, range⟩ := ih
    have up := call.counter_le (p := s.process)
    refine ⟨Nat.le_trans base up, fun handle mem => ?_⟩
    rw [threadHandles, filterMap_after, List.mem_append, Option.mem_toList] at mem
    rcases mem with old | found
    · obtain ⟨low, high⟩ := range handle old
      exact ⟨low, Nat.lt_of_lt_of_le high up⟩
    · obtain ⟨low, high⟩ := ProcessCall.threadHandle_range found
      exact ⟨Nat.le_trans base low, high⟩

end ProcessRun

end GuestKernel
