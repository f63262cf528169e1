import Mathlib
import GuestKernel.Memory.Window
import GuestKernel.Proofs.HandleTable.Owners
import GuestKernel.Proofs.Process.Counter
import GuestKernel.Scripted.Allocator
import GuestKernel.Scripted.Factory

/-!
# Who owns the heap of a process

The heap of a process is recorded twice: the process keeps it once it is mapped, and the handle table
binds it to a handle, by which its addresses are found. The two stay in step as long as nobody
deletes that handle. Deleting it takes the heap out of the table for good, while the process still
reports it. What carries the proofs is that a handle which was given out keeps its binding up to
deletions, `HandleTable.stable_binding`.
-/

set_option autoImplicit false

namespace GuestKernel

open GuestKernel.Action GuestKernel.HandleTable

namespace HandleTable

/-- A handle that was given out keeps what it is bound to unless it is deleted. -/
theorem stable_binding {D : Handle → Prop} (handle : Handle) {V : Option Binding → Prop}
    (deleted : D handle → V none) :
    Stable D fun table => handle.toNat < table.counter ∧ V (table.bindings.get? handle) := by
  refine ⟨?_, ?_, ?_⟩
  · -- the counter has passed the handle already, so it is not the one that is given out
    rintro table ⟨given, value⟩
    have low := (stable_counter (handle.toNat + 1)).reserve table given
    refine ⟨low, ?_⟩
    rcases table.reserve_cases with ⟨_, reserved⟩ | ⟨_, full⟩
    · rwa [reserved]
    · rwa [full]
  · rintro t u binding ⟨given, _⟩ ⟨later, value⟩
    have other : handle ≠ t.next := by
      rintro rfl
      exact Nat.lt_irrefl _ given
    refine ⟨later, ?_⟩
    rw [bind_apply, FiniteMap.get?_insert, if_neg other]
    exact value
  · rintro t gone allowed ⟨given, value⟩
    refine ⟨given, ?_⟩
    rw [FiniteMap.get?_erase]
    split
    · rename_i same
      exact deleted (same ▸ allowed)
    · exact value

end HandleTable

namespace GuestProcess

variable {M A F : Type}

/-- The handle of the heap, if there is one, was given out and is bound to the heap. -/
def InStep (p : GuestProcess M A F) : Prop := ∀ owner, p.heap = some owner →
  owner.handle.toNat < p.counter ∧
    p.handles.bindings.get? owner.handle = some (.ofMemory owner.memory)

variable [RegionAllocator A]

theorem inStep_mapHeap : Preserves InStep (mapHeap (M := M) (A := A) (F := F)) := by
  refine preserves_bind (fun _ => id) fun p => ?_
  cases p.heap.isNone with
  | false => exact fun _ => id
  | true =>
    refine preserves_bind (fun _ => id) fun memory => ?_
    intro q inStep
    have inserts : onHandles (F := F) (M := M) (A := A) (HandleTable.insertMemory memory) q =
        ⟨(insertBinding (.ofMemory memory) q.handles).outcome,
          { q with handles := (insertBinding (.ofMemory memory) q.handles).state },
          (insertBinding (.ofMemory memory) q.handles).log⟩ := rfl
    rw [Action.bind_apply, inserts]
    rcases q.handles.insertBinding_cases (.ofMemory memory) with ⟨room, log, bound⟩ | ⟨_, full⟩
    · rw [bound]
      intro owner mapped
      cases mapped
      refine ⟨Nat.lt_of_lt_of_eq (Nat.lt_succ_self _) (q.handles.counter_advance room).symm, ?_⟩
      exact (FiniteMap.get?_insert ..).trans (if_pos rfl)
    · rw [full]
      exact inStep

theorem heap_mapFirstTlsPage : (mapFirstTlsPage (M := M) (A := A) (F := F)).Keeps heap := by
  refine keeps_bind (fun _ => rfl) fun p => ?_
  cases p.tlsPages.pages.isEmpty with
  | true => exact keeps_bind (fun _ => rfl) fun _ => fun _ => rfl
  | false => exact fun _ => rfl

theorem inStep_mapFirstTlsPage : Preserves InStep (mapFirstTlsPage (M := M) (A := A) (F := F)) := by
  intro p inStep owner mapped
  rw [heap_mapFirstTlsPage p] at mapped
  have stable := stable_binding owner.handle (D := fun _ => False)
    (V := (· = some (.ofMemory owner.memory))) False.elim
  exact stable.mapFirstTlsPage p (inStep owner mapped)

theorem mapHeap_of_some {p : GuestProcess M A F} {owner : Owner} (mapped : p.heap = some owner) :
    mapHeap p = ⟨.ok (), p, []⟩ := by
  simp only [mapHeap, Action.bind_apply, Action.current_apply, Action.andThen_ok, mapped,
    Option.isNone_some, Bool.false_eq_true, if_false, Action.pure_apply, List.nil_append]

theorem heap_initializeMemory {p : GuestProcess M A F} {owner : Owner}
    (mapped : p.heap = some owner) : (initializeMemory p).state.heap = some owner := by
  rw [initializeMemory, Action.bind_apply, mapHeap_of_some mapped, ← mapped]
  exact heap_mapFirstTlsPage p

variable [ThreadFactory F]

theorem heap_createThread (entryPoint : VirtAddr) (entryArgument : UInt64) (stackTop : VirtAddr)
    (priority : Priority) :
    (createThread entryPoint entryArgument stackTop priority).Keeps
      (heap (M := M) (A := A) (F := F)) :=
  keeps_bind (fun _ => rfl) fun tls => keeps_bind (fun _ => rfl) fun handle =>
    keeps_finishThread _ _ _ _ (fun _ _ _ _ => rfl) tls handle

end GuestProcess

namespace ProcessCall

open GuestProcess

variable {M A F : Type} [MemoryChannel M] [RegionAllocator A] [ThreadFactory F]
variable {p : GuestProcess M A F} {owner : Owner}

theorem heap_perform (call : ProcessCall M A F) :
    call.perform.Keeps GuestProcess.heap ∨ call = .initializeMemory := by
  cases elsewhere : call.isElsewhere with
  | true => exact .inl fun p => congrArg (fun h => h.2.1) (keeps_holdings elsewhere p)
  | false =>
    cases call with
    | initializeMemory => exact .inr rfl
    | getTlsSlot => exact .inl fun p => rfl
    | table call => exact .inl fun p => rfl
    | createThread => exact .inl (heap_createThread _ _ _ _)
    | createMainThread entryPoint stackTop =>
      refine .inl (keeps_bind (fun _ => rfl) fun p => ?_)
      exact keeps_bind (heap_createThread _ _ _ _) fun made =>
        keeps_bind (fun _ => rfl) fun _ => fun _ => rfl
    | _ => cases elsewhere

theorem heap_of_some (call : ProcessCall M A F) (mapped : p.heap = some owner) :
    (call.perform p).state.heap = some owner := by
  rcases call.heap_perform with keeps | rfl
  · exact (keeps p).trans mapped
  · exact heap_initializeMemory mapped

/-- A heap that was mapped just now is bound. -/
theorem inStep_of_none (call : ProcessCall M A F) (unmapped : p.heap = none) :
    InStep (call.perform p).state := by
  rcases call.heap_perform with keeps | rfl
  · intro owner mapped
    rw [keeps p, unmapped] at mapped
    cases mapped
  · have start : InStep p := by
      intro owner mapped
      rw [unmapped] at mapped
      cases mapped
    exact preserves_bind inStep_mapHeap (fun _ => inStep_mapFirstTlsPage) p start

end ProcessCall

namespace ProcessRun

open GuestProcess

variable {M A F : Type} [MemoryChannel M] [RegionAllocator A] [ThreadFactory F]

/-- No call since the heap was mapped deletes its handle. -/
def Spares (s : ProcessRun M A F) (owner : Owner) : Prop :=
  ∀ made ∈ s.calls, made.1.heap = some owner → made.2.DeletesOnly (· ≠ owner.handle) made.1

variable {config : ProcessConfig} {s : ProcessRun M A F} {owner : Owner}

/-- What mapping the heap makes of its handle stays so, up to the deletions that were made. -/
theorem Reachable.heap_value (h : Reachable config s) (mapped : s.process.heap = some owner)
    {D : Handle → Prop} {V : Option Binding → Prop} (deleted : D owner.handle → V none)
    (bound : V (some (.ofMemory owner.memory)))
    (only : ∀ made ∈ s.calls, made.1.heap = some owner → made.2.DeletesOnly D made.1) :
    owner.handle.toNat < s.process.counter ∧
      V (s.process.handles.bindings.get? owner.handle) := by
  induction h with
  | start => cases mapped
  | @call s reachable call ih =>
    cases before : s.process.heap with
    | none =>
      obtain ⟨given, value⟩ := call.inStep_of_none before owner mapped
      refine ⟨given, ?_⟩
      rw [ProcessRun.after, value]
      exact bound
    | some earlier =>
      have same := call.heap_of_some before
      cases same.symm.trans mapped
      have held := ih before fun made mem => only made (List.mem_append_left _ mem)
      have mem := List.mem_append_right s.calls (List.mem_singleton_self (s.process, call))
      have last := only _ mem before
      exact (stable_binding owner.handle deleted).perform last held

/-- What becomes of the addresses of a heap that the process reports. -/
structure HeapTraced (s : ProcessRun M A F) (owner : Owner) : Prop where
  bound : s.process.handles.bindings.get? owner.handle = some (.ofMemory owner.memory) ∨
    s.process.handles.bindings.get? owner.handle = none
  spared : s.Spares owner →
    s.process.handles.bindings.get? owner.handle = some (.ofMemory owner.memory)
  /-- As long as the handle of the heap is bound, every address of the heap has an owner. -/
  answered : s.process.handles.bindings.get? owner.handle ≠ none → ∀ address,
    owner.memory.region.contains address = true → ∃ found,
      s.process.handles.memoryObject address = some found ∧
        found.memory.region.contains address = true ∧ found.handle ≤ owner.handle
  unanswered : ∀ address, s.process.handles.memoryObject address = none ↔
    ∀ other, ¬ s.process.handles.OwnedBy address other

/-- The addresses of a heap have an owner as long as nobody has deleted its handle. -/
theorem Reachable.heap_answered (h : Reachable config s) (mapped : s.process.heap = some owner) :
    HeapTraced s owner := by
  have bound := (h.heap_value mapped (D := fun _ => True)
    (V := fun value => value = some (.ofMemory owner.memory) ∨ value = none)
    (fun _ => .inr rfl) (.inl rfl) fun made _ _ => made.2.deletesOnly (fun _ => trivial) made.1).2
  refine ⟨bound, fun spares => ?_, fun present address inside => ?_, fun address => ?_⟩
  · exact (h.heap_value mapped (V := (· = some (.ofMemory owner.memory)))
      (fun other => absurd rfl other) rfl spares).2
  · have here := bound.resolve_right present
    obtain ⟨found, answer, owned, smallest⟩ := memoryObject_of_owned ⟨here, inside⟩
    exact ⟨found, answer, owned.inside, smallest⟩
  · exact memoryObject_eq_none_iff

/-- A heap with a second handle, in a process where the handle of another region was deleted. -/
theorem heap_answered_with_copy :
    ∃ (s : ProcessRun Window ScriptedAllocator ScriptedFactory) (owner : Owner),
      s.process.heap = some owner ∧ s.process.handles.size = 3 ∧ HeapTraced s owner := by
  have start : Reachable {} _ :=
    .start 0 (Window.new 0x1000 0x1000) ScriptedAllocator.new ScriptedFactory.new
  have mapped := start.call .initializeMemory
  have copied := mapped.call (.table (.duplicateHandle 0xD000))
  have made := copied.call (.createThread 0x1000 0 0x2000 5)
  have deleted := made.call (.table (.deleteHandle 0xD001))
  exact ⟨_, _, rfl, by decide, deleted.heap_answered rfl⟩

/-- The handle of the heap is deleted: the process reports the heap, and nobody owns its first
address. -/
theorem heap_forgotten :
    ∃ (s : ProcessRun Window ScriptedAllocator ScriptedFactory) (owner : Owner),
      Reachable {} s ∧ s.process.heap = some owner ∧
      owner.memory.region.contains 0x8000000 = true ∧
      s.process.handles.memoryObject 0x8000000 = none := by
  have start : Reachable {} _ :=
    .start 0 (Window.new 0x1000 0x1000) ScriptedAllocator.new ScriptedFactory.new
  have mapped := start.call .initializeMemory
  have deleted := mapped.call (.table (.deleteHandle 0xD000))
  exact ⟨_, _, deleted, rfl, by decide, by decide⟩

end ProcessRun

end GuestKernel
