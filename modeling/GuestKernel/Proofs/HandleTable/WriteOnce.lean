import Mathlib
import GuestKernel.Proofs.FiniteMap
import GuestKernel.Proofs.HandleTable.Contents

/-!
# A handle table is a map that is written once

A `TableRun` makes any calls of a handle table. A call that builds an object may also be cut open
between the giving out of its handle and the binding, so that further calls, even of the builder
itself, come in between. Whatever the run, the table holds what its history says: the look-ups
answer from `contents`, the size counts the events, and no handle is bound a second time.

The invariant `Kept` treats the binding of an object as two steps everywhere: a call that is
carried out whole begins to build and finishes at once.
-/

set_option autoImplicit false

namespace GuestKernel

/-- A handle table, the handles for which something is still being built, and what became of its
bindings. -/
structure TableRun where
  table : HandleTable
  building : List Handle
  events : List TableEvent

namespace TableRun

inductive Step : TableRun → TableRun → Prop where
  | call (s : TableRun) (call : TableCall) :
      Step s ⟨(call.perform s.table).state, s.building,
        s.events ++ call.events (call.perform s.table).outcome⟩
  | begins (s : TableRun) {handle : Handle} {after : HandleTable} {log : List LogRecord}
      (reserved : HandleTable.reserve s.table = ⟨.ok handle, after, log⟩) :
      Step s { s with table := after, building := handle :: s.building }
  | finishes (s : TableRun) {handle : Handle} (object : KernelObject)
      (here : handle ∈ s.building) :
      Step s ⟨(HandleTable.bind handle (.ofObject object) s.table).state, s.building.erase handle,
        s.events ++ [.created handle (.ofObject object)]⟩
  | fails (s : TableRun) {handle : Handle} (here : handle ∈ s.building) :
      Step s { s with building := s.building.erase handle }

inductive Reachable (base : Handle) : TableRun → Prop where
  | start : Reachable base ⟨.new base, [], []⟩
  | step {s t : TableRun} (reachable : Reachable base s) (step : Step s t) : Reachable base t

structure Kept (s : TableRun) : Prop where
  below : ∀ handle ∈ s.building ++ boundHandles s.events, handle < s.table.next
  once : (s.building ++ boundHandles s.events).Nodup
  bindings : ∀ handle, s.table.bindings.get? handle = contents s.events handle
  size : s.table.size + deletions s.events = creations s.events

namespace Kept

variable {s t : TableRun} {handle : Handle}

theorem unbound (h : Kept s) (here : handle ∈ s.building) :
    s.table.bindings.get? handle = none := by
  by_contra bound
  rw [h.bindings] at bound
  exact (List.nodup_append.mp h.once).2.2 handle here handle (mem_boundHandles _ bound) rfl

theorem begins (h : Kept s) (room : s.table.next.toNat + 1 < UInt32.size) :
    Kept ⟨s.table.advance, s.table.next :: s.building, s.events⟩ := by
  have up := s.table.next_lt room
  refine ⟨fun handle mem => ?_, List.nodup_cons.mpr ⟨fun mem => ?_, h.once⟩, h.bindings, h.size⟩
  · rcases List.mem_cons.mp mem with rfl | mem
    · exact up
    · exact UInt32.lt_trans (h.below handle mem) up
  · -- all handles that were given out before lie below the next one
    exact UInt32.lt_irrefl _ (h.below _ mem)

theorem fails (h : Kept s) (handle : Handle) :
    Kept ⟨s.table, s.building.erase handle, s.events⟩ := by
  have fewer : List.Sublist (s.building.erase handle ++ boundHandles s.events)
      (s.building ++ boundHandles s.events) :=
    List.erase_sublist.append (List.Sublist.refl _)
  exact ⟨fun other mem => h.below other (fewer.subset mem), h.once.sublist fewer, h.bindings, h.size⟩

/-- What was built is bound to its handle. -/
theorem finishes (h : Kept s) (here : handle ∈ s.building) (event : TableEvent) {binding : Binding}
    (binds : event.bound? = some handle)
    (gives : event.apply (contents s.events) =
      Function.update (contents s.events) handle (some binding)) :
    Kept ⟨(HandleTable.bind handle binding s.table).state, s.building.erase handle,
      s.events ++ [event]⟩ := by
  have same : (s.building.erase handle ++ boundHandles (s.events ++ [event])).Perm
      (s.building ++ boundHandles s.events) := by
    rw [boundHandles_append_one, binds, Option.toList_some, ← List.append_assoc]
    refine List.perm_append_singleton .. |>.trans ?_
    exact (List.perm_cons_erase here).symm.append_right _
  refine ⟨fun other mem => h.below other (same.subset mem), same.nodup_iff.mpr h.once, ?_, ?_⟩
  · intro other
    rw [contents_append_one, gives, HandleTable.bind_apply, FiniteMap.get?_insert,
      Function.update_apply, h.bindings]
  · have grown : (HandleTable.bind handle binding s.table).state.size = s.table.size + 1 :=
      FiniteMap.size_insert_of_absent (h.unbound here)
    have made := creations_append_one s.events event
    have deleted := deletions_append_one s.events event
    rw [binds] at made deleted
    simp only [Option.toList_some, List.length_singleton] at made deleted
    have counted := h.size
    change (HandleTable.bind handle binding s.table).state.size + deletions (s.events ++ [event]) =
      creations (s.events ++ [event])
    omega

theorem deletes (h : Kept s) (present : s.table.bindings.get? handle ≠ none) :
    Kept ⟨{ s.table with bindings := s.table.bindings.erase handle }, s.building,
      s.events ++ [.deleted handle]⟩ := by
  have same : boundHandles (s.events ++ [.deleted handle]) = boundHandles s.events := by
    rw [boundHandles_append_one]
    exact List.append_nil _
  refine ⟨?_, ?_, ?_, ?_⟩
  · rw [same]
    exact h.below
  · rw [same]
    exact h.once
  · intro other
    rw [contents_append_one, TableEvent.apply, FiniteMap.get?_erase, Function.update_apply,
      h.bindings]
  · have shrunk : (s.table.bindings.erase handle).size + 1 = s.table.size :=
      FiniteMap.size_erase_of_present present
    have made := creations_append_one s.events (.deleted handle)
    have deleted := deletions_append_one s.events (.deleted handle)
    simp only [TableEvent.bound?, Option.toList_none, List.length_nil] at made deleted
    have counted := h.size
    change (s.table.bindings.erase handle).size + deletions (s.events ++ [.deleted handle]) =
      creations (s.events ++ [.deleted handle])
    omega

theorem change (h : Kept s) {events : List TableEvent} {after : HandleTable}
    (change : TableChange s.table events after) :
    Kept ⟨after, s.building, s.events ++ events⟩ := by
  cases change with
  | same =>
    rw [List.append_nil]
    exact h
  | lost room =>
    rw [List.append_nil]
    have ended := (h.begins room).fails s.table.next
    rwa [List.erase_cons_head] at ended
  | created binding room =>
    have ended := (h.begins room).finishes List.mem_cons_self (.created _ binding) rfl rfl
    rwa [List.erase_cons_head] at ended
  | @copied source binding room found =>
    rw [h.bindings] at found
    have ended := (h.begins room).finishes List.mem_cons_self (.copied source _) rfl
      (congrArg (Function.update (contents s.events) s.table.next) found)
    rwa [List.erase_cons_head] at ended
  | deleted handle present => exact h.deletes present

theorem step (h : Kept s) (step : Step s t) : Kept t := by
  cases step with
  | call call => exact h.change (call.change s.table)
  | @begins handle after log reserved =>
    rcases s.table.reserve_cases with ⟨room, given⟩ | ⟨_, full⟩
    · rw [given] at reserved
      cases reserved
      exact h.begins room
    · rw [full] at reserved
      cases reserved
  | finishes object here => exact h.finishes here (.created _ _) rfl rfl
  | @fails handle here => exact h.fails handle

end Kept

variable {base : Handle} {s : TableRun}

theorem Reachable.kept (h : Reachable base s) : Kept s := by
  induction h with
  | start => exact ⟨by simp [boundHandles], .nil, fun _ => rfl, rfl⟩
  | step _ step ih => exact ih.step step

/-- The table is what its history makes of a map, and a call changes no more of it than it says. -/
structure Mirrors (s : TableRun) : Prop where
  bindings : ∀ handle, s.table.bindings.get? handle = contents s.events handle
  /-- No handle is bound a second time, not even after a deletion. -/
  once : (boundHandles s.events).Nodup
  size : s.table.size + deletions s.events = creations s.events
  /-- While there are handles left, what a call offers is bound to the next one. -/
  binds : ∀ (call : TableCall) (binding : Binding), s.table.next.toNat + 1 < UInt32.size →
    call.offer? (contents s.events) s.table.next = some binding →
      (∃ event, call.events (call.perform s.table).outcome = [event] ∧
        event.bound? = some s.table.next) ∧
      ∀ other, (call.perform s.table).state.bindings.get? other =
        if other = s.table.next then some binding else s.table.bindings.get? other
  /-- The answer is the handle and the very object that was built for it. -/
  built : ∀ build object, s.table.next.toNat + 1 < UInt32.size → build s.table.next = .ok object →
    (HandleTable.newHandle build s.table).outcome = .ok (s.table.next, object)
  /-- If nothing can be built the call fails for that reason, and its handle stays unbound. -/
  unbuilt : ∀ build cause, s.table.next.toNat + 1 < UInt32.size →
    build s.table.next = .error cause →
      HandleTable.newHandle build s.table = ⟨.error (.error cause), s.table.advance, []⟩
  uncopied : ∀ source, contents s.events source = none →
    HandleTable.duplicateHandle source s.table =
      ⟨.error (.error (.invalidHandle source)), s.table, []⟩
  object : ∀ handle object, s.table.getObject handle = .ok object ↔
    (contents s.events handle).map Binding.object = some object
  invalid : ∀ handle, s.table.getObject handle = .error (.invalidHandle handle) ↔
    contents s.events handle = none
  typed : ∀ expected handle object, s.table.getHandle expected handle = .ok object ↔
    (contents s.events handle).map Binding.object = some object ∧
      object.type.kind = expected.kind ∧ object.type.implementation = expected.implementation
  typedInvalid : ∀ expected handle,
    s.table.getHandle expected handle = .error (.invalidHandle handle) ↔
      contents s.events handle = none
  mismatch : ∀ expected handle object, (contents s.events handle).map Binding.object = some object →
    ¬ (object.type.kind = expected.kind ∧ object.type.implementation = expected.implementation) →
      s.table.getHandle expected handle =
        .error (.typeMismatch handle expected.kind object.type.kind)
  deletes : ∀ handle, ∃ after log, HandleTable.deleteHandle handle s.table =
      ⟨.ok ((contents s.events handle).map Binding.object), after, log⟩ ∧
    ∀ other, after.bindings.get? other =
      if other = handle then none else s.table.bindings.get? other
  /-- A look-up and a call that fails leave the bindings alone. -/
  idle : ∀ call : TableCall,
    call.isLookup = true ∨ (∃ fault, (call.perform s.table).outcome = .error fault) →
      (call.perform s.table).state.bindings = s.table.bindings

/-- Whatever calls were made, the table is what its history makes of a map. -/
theorem Reachable.mirrors (h : Reachable base s) : Mirrors s := by
  have kept := h.kept
  refine ⟨kept.bindings, (List.nodup_append.mp kept.once).2.1, kept.size, ?_, ?_, ?_, ?_, ?_, ?_, ?_,
    ?_, ?_, ?_, ?_⟩
  · intro call binding room offer
    rw [← funext kept.bindings] at offer
    obtain ⟨event, left, bound, after⟩ := TableCall.perform_of_offer room offer
    refine ⟨⟨event, left, bound⟩, fun other => ?_⟩
    rw [after]
    exact s.table.get?_extended binding other
  · intro build object room built
    obtain ⟨log, made⟩ := s.table.newHandle_of_built room built
    exact congrArg Effect.outcome made
  · intro build cause room failed
    exact s.table.newHandle_of_unbuilt room failed
  · intro source absent
    rw [← kept.bindings] at absent
    exact s.table.duplicateHandle_of_none absent
  · intro handle object
    rw [← kept.bindings]
    exact s.table.getObject_eq_ok_iff handle
  · intro handle
    rw [← kept.bindings]
    exact s.table.getObject_eq_invalid_iff handle
  · intro expected handle object
    rw [← kept.bindings]
    exact s.table.getHandle_eq_ok_iff expected handle
  · intro expected handle
    rw [← kept.bindings]
    exact s.table.getHandle_eq_invalid_iff expected handle
  · intro expected handle object bound other
    rw [← kept.bindings] at bound
    exact s.table.getHandle_of_mismatch expected handle bound other
  · intro handle
    obtain ⟨after, log, deleted, _, gone⟩ := TableTask.deleteHandle_cases handle s.table
    rw [kept.bindings] at deleted
    exact ⟨after, log, deleted, gone⟩
  · intro call idle
    have change := call.change s.table
    rw [call.events_eq_nil _ idle] at change
    exact change.bindings_eq

/-- An object is bound while another one is being built; one handle is copied and deleted, another
one is lost, and the next one has the object that is built for it. -/
theorem mirrors_with_copy : ∃ s : TableRun,
    (boundHandles s.events, s.table.size, s.table.next) = ([6, 5, 7, 9, 10], 4, 11) ∧
      s.table.getObject 10 = .ok ⟨.numbered 10, .ordinary .event, none, none⟩ ∧ Mirrors s := by
  let event : KernelObject := ⟨.numbered 1, .ordinary .event, none, none⟩
  let session : KernelObject := ⟨.numbered 2, .ordinary .session, none, none⟩
  have initial : Reachable 5 ⟨.new 5, [], []⟩ := .start
  have begun := initial.step (.begins _ rfl)
  have within := begun.step (.call _ (.insertItem event))
  have finished := within.step (.finishes _ session (List.mem_singleton_self _))
  have copied := finished.step (.call _ (.duplicateHandle 5))
  have lost := copied.step (.call _ (.newHandle fun handle => .error (.invalidHandle handle)))
  have deleted := lost.step (.call _ (.deleteHandle 5))
  have memory := deleted.step (.call _ (.insertMemory ⟨event, ⟨0x1000, 0x1000⟩⟩))
  have last := memory.step (.call _ (.newHandle fun handle =>
    .ok ⟨.numbered handle.toNat, .ordinary .event, none, none⟩))
  exact ⟨_, by decide, by decide, last.mirrors⟩

end TableRun

end GuestKernel
