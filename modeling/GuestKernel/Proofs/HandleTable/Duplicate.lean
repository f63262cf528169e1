import Mathlib
import GuestKernel.Proofs.HandleTable.Ownership

/-!
# A second handle for the same binding

A handle that is duplicated keeps all its answers, and so does every address: the copy is the largest
handle of the table, so that it owns an address last. `Duplicated` says this together with what
becomes of the answers when one of the two handles is deleted. Without the copy everything is as it
was before; without the source the copy owns what the source owned, and no address loses its owner.
-/

set_option autoImplicit false

namespace GuestKernel

namespace HandleTable

/-- Two tables give the same answers to everything that may be asked of them. -/
structure AnswersAlike (table other : HandleTable) : Prop where
  object : ∀ handle, table.getObject handle = other.getObject handle
  typed : ∀ expected handle, table.getHandle expected handle = other.getHandle expected handle
  owner : ∀ address, table.memoryObject address = other.memoryObject address
  size : table.size = other.size

/-- A table with one binding more, which is that of `source`. -/
structure Copied (before : HandleTable) (source copy : Handle) (after : HandleTable) : Prop where
  bound : before.bindings.get? source ≠ none
  /-- The copy comes after everything that is bound. -/
  larger : ∀ handle, before.bindings.get? handle ≠ none → handle < copy
  here : after.bindings.get? copy = before.bindings.get? source
  elsewhere : ∀ handle, handle ≠ copy → after.bindings.get? handle = before.bindings.get? handle

section Answers
variable {table other : HandleTable} {handle : Handle}

theorem getObject_congr (same : table.bindings.get? handle = other.bindings.get? handle) :
    table.getObject handle = other.getObject handle := by
  rw [getObject_eq, getObject_eq, same]

theorem getHandle_congr (same : table.bindings.get? handle = other.bindings.get? handle)
    (expected : ObjectType) : table.getHandle expected handle = other.getHandle expected handle := by
  rw [getHandle_eq, getHandle_eq, same]

theorem answersAlike_of_bindings
    (same : ∀ handle, table.bindings.get? handle = other.bindings.get? handle) :
    AnswersAlike table other :=
  ⟨fun handle => getObject_congr (same handle),
    fun expected handle => getHandle_congr (same handle) expected,
    fun _ => memoryObject_congr same, FiniteMap.size_congr same⟩

theorem get?_deleteHandle (table : HandleTable) (gone handle : Handle) :
    (deleteHandle gone table).state.bindings.get? handle =
      if handle = gone then none else table.bindings.get? handle := by
  obtain ⟨after, log, deleted, _, rest⟩ := TableTask.deleteHandle_cases gone table
  rw [deleted]
  exact rest handle

theorem outcome_deleteHandle (table : HandleTable) (gone : Handle) :
    (deleteHandle gone table).outcome = .ok ((table.bindings.get? gone).map Binding.object) := by
  obtain ⟨after, log, deleted, _⟩ := TableTask.deleteHandle_cases gone table
  rw [deleted]

/-- A deletion takes away what the deleted handle owned and nothing else. -/
theorem ownedBy_deleteHandle_iff {gone : Handle} {address : VirtAddr} {owner : Owner} :
    (deleteHandle gone table).state.OwnedBy address owner ↔
      table.OwnedBy address owner ∧ owner.handle ≠ gone := by
  constructor
  · rintro ⟨bound, inside⟩
    rw [get?_deleteHandle] at bound
    split at bound
    · cases bound
    · rename_i apart
      exact ⟨⟨bound, inside⟩, apart⟩
  · rintro ⟨⟨bound, inside⟩, apart⟩
    refine ⟨?_, inside⟩
    rw [get?_deleteHandle, if_neg apart]
    exact bound

end Answers

theorem OwnedBy.bound_ne_none {table : HandleTable} {address : VirtAddr} {owner : Owner}
    (owned : table.OwnedBy address owner) : table.bindings.get? owner.handle ≠ none :=
  owned.bound ▸ Option.some_ne_none _

namespace Copied

variable {before after : HandleTable} {source copy : Handle} {address : VirtAddr} {owner : Owner}

theorem source_lt (h : Copied before source copy after) : source < copy := h.larger source h.bound

theorem ne_copy (h : Copied before source copy after) {handle : Handle}
    (bound : before.bindings.get? handle ≠ none) : handle ≠ copy := by
  rintro rfl
  exact UInt32.lt_irrefl _ (h.larger handle bound)

/-- Who owned an address still does. -/
theorem owned (h : Copied before source copy after) (owned : before.OwnedBy address owner) :
    after.OwnedBy address owner :=
  ⟨(h.elsewhere _ (h.ne_copy owned.bound_ne_none)).trans owned.bound, owned.inside⟩

/-- The copy owns what its source does. -/
theorem owned_copy (h : Copied before source copy after) (owned : before.OwnedBy address owner)
    (same : owner.handle = source) : after.OwnedBy address ⟨copy, owner.memory⟩ :=
  ⟨h.here.trans (same ▸ owned.bound), owned.inside⟩

theorem owned_cases (h : Copied before source copy after) (owned : after.OwnedBy address owner) :
    before.OwnedBy address owner ∨
      owner.handle = copy ∧ before.OwnedBy address ⟨source, owner.memory⟩ := by
  by_cases same : owner.handle = copy
  · refine .inr ⟨same, ?_, owned.inside⟩
    exact h.here.symm.trans (same ▸ owned.bound)
  · exact .inl ⟨(h.elsewhere _ same).symm.trans owned.bound, owned.inside⟩

/-- The copy is the last one to own an address, so it is never the answer. -/
theorem memoryObject_eq (h : Copied before source copy after) (address : VirtAddr) :
    after.memoryObject address = before.memoryObject address := by
  cases answer : before.memoryObject address with
  | none =>
    rw [memoryObject_eq_none_iff] at answer ⊢
    intro owner owned
    rcases h.owned_cases owned with old | ⟨_, old⟩
    · exact answer owner old
    · exact answer _ old
  | some owner =>
    rw [memoryObject_eq_some_iff] at answer ⊢
    obtain ⟨owned, smallest⟩ := answer
    refine ⟨h.owned owned, fun other there => ?_⟩
    rcases h.owned_cases there with old | ⟨same, old⟩
    · exact smallest other old
    · have least : owner.handle ≤ source := smallest _ old
      rw [same]
      exact UInt32.le_trans least (UInt32.le_of_lt h.source_lt)

theorem answersAlike_of_copy_deleted (h : Copied before source copy after) :
    AnswersAlike (deleteHandle copy after).state before := by
  refine answersAlike_of_bindings fun handle => ?_
  rw [get?_deleteHandle]
  by_cases same : handle = copy
  · rw [if_pos same, same]
    by_contra bound
    exact h.ne_copy (Ne.symm bound) rfl
  · rw [if_neg same, h.elsewhere handle same]

/-- Without the source the copy stands in for it. -/
theorem owned_of_source_deleted (h : Copied before source copy after)
    (owned : before.OwnedBy address owner) :
    (deleteHandle source after).state.OwnedBy address
      (if owner.handle = source then ⟨copy, owner.memory⟩ else owner) := by
  rw [ownedBy_deleteHandle_iff]
  split
  · rename_i same
    exact ⟨h.owned_copy owned same, (h.ne_copy h.bound).symm⟩
  · rename_i apart
    exact ⟨h.owned owned, apart⟩

theorem isSome_of_source_deleted (h : Copied before source copy after) (address : VirtAddr) :
    ((deleteHandle source after).state.memoryObject address).isSome =
      (before.memoryObject address).isSome := by
  cases answer : before.memoryObject address with
  | none =>
    have none : (deleteHandle source after).state.memoryObject address = none := by
      rw [← h.memoryObject_eq, memoryObject_eq_none_iff] at answer
      rw [memoryObject_eq_none_iff]
      exact fun owner owned => answer owner (ownedBy_deleteHandle_iff.mp owned).1
    rw [none]
  | some owner =>
    have owned := h.owned_of_source_deleted (memoryObject_spec answer).1
    obtain ⟨found, there, _⟩ := memoryObject_of_owned owned
    rw [there]
    rfl

theorem memoryObject_of_source_deleted (h : Copied before source copy after)
    (answer : before.memoryObject address = some owner) (apart : owner.handle ≠ source) :
    (deleteHandle source after).state.memoryObject address = some owner := by
  rw [← h.memoryObject_eq, memoryObject_eq_some_iff] at answer
  obtain ⟨owned, smallest⟩ := answer
  rw [memoryObject_eq_some_iff]
  refine ⟨ownedBy_deleteHandle_iff.mpr ⟨owned, apart⟩, fun other there => ?_⟩
  exact smallest other (ownedBy_deleteHandle_iff.mp there).1

end Copied

/-- What a table answers once a handle was duplicated, and once one of the two was deleted. -/
structure Duplicated (before : HandleTable) (source copy : Handle) (after : HandleTable) : Prop where
  object : ∀ handle, handle ≠ copy → after.getObject handle = before.getObject handle
  typed : ∀ expected handle, handle ≠ copy →
    after.getHandle expected handle = before.getHandle expected handle
  owner : ∀ address, after.memoryObject address = before.memoryObject address
  /-- Both handles are bound to the same object, with the same region, whether or not the object
  offers that region itself. -/
  carried : ∃ binding, before.bindings.get? source = some binding ∧
    after.bindings.get? copy = some binding ∧
    (deleteHandle copy after).outcome = .ok (some binding.object) ∧
    (deleteHandle source after).outcome = .ok (some binding.object)
  undone : AnswersAlike (deleteHandle copy after).state before
  covered : ∀ address, ((deleteHandle source after).state.memoryObject address).isSome =
    (before.memoryObject address).isSome
  kept : ∀ address owner, before.memoryObject address = some owner → owner.handle ≠ source →
    (deleteHandle source after).state.memoryObject address = some owner
  /-- What the source owned is owned by the copy, and answered by the smallest of the handles that
  are left. -/
  inherited : ∀ address owner, before.memoryObject address = some owner → owner.handle = source →
    (deleteHandle source after).state.OwnedBy address ⟨copy, owner.memory⟩ ∧
      ∃ heir, (deleteHandle source after).state.memoryObject address = some heir ∧
        (deleteHandle source after).state.OwnedBy address heir ∧
        ∀ other, (deleteHandle source after).state.OwnedBy address other →
          heir.handle ≤ other.handle

theorem Copied.answers {before after : HandleTable} {source copy : Handle}
    (h : Copied before source copy after) : Duplicated before source copy after := by
  refine ⟨fun handle apart => getObject_congr (h.elsewhere handle apart),
    fun expected handle apart => getHandle_congr (h.elsewhere handle apart) expected,
    h.memoryObject_eq, ?_, h.answersAlike_of_copy_deleted, h.isSome_of_source_deleted,
    fun address owner => h.memoryObject_of_source_deleted, ?_⟩
  · obtain ⟨binding, found⟩ := Option.ne_none_iff_exists'.mp h.bound
    have here := h.here.trans found
    have there := (h.elsewhere source (h.ne_copy h.bound)).trans found
    refine ⟨binding, found, here, ?_, ?_⟩
    · rw [outcome_deleteHandle, here]
      rfl
    · rw [outcome_deleteHandle, there]
      rfl
  · intro address owner answer same
    have owned := h.owned_of_source_deleted (memoryObject_spec answer).1
    rw [if_pos same] at owned
    obtain ⟨heir, found, _⟩ := memoryObject_of_owned owned
    exact ⟨owned, heir, found, memoryObject_spec found⟩

end HandleTable

namespace TableRun

open HandleTable

variable {base : Handle} {s : TableRun}

theorem Kept.lt_next (h : Kept s) {handle : Handle}
    (bound : s.table.bindings.get? handle ≠ none) : handle < s.table.next := by
  rw [h.bindings] at bound
  exact h.below handle (List.mem_append_right _ (mem_boundHandles _ bound))

theorem Kept.copied (h : Kept s) {source copy : Handle}
    (made : (duplicateHandle source s.table).outcome = .ok copy) :
    Copied s.table source copy (duplicateHandle source s.table).state := by
  cases found : s.table.bindings.get? source with
  | none =>
    rw [duplicateHandle_of_none s.table found] at made
    cases made
  | some binding =>
    rw [duplicateHandle_of_some s.table found] at made ⊢
    rcases s.table.insertBinding_cases binding with ⟨_, log, bound⟩ | ⟨_, full⟩
    · rw [bound] at made ⊢
      cases made
      refine ⟨found ▸ Option.some_ne_none binding, fun _ => h.lt_next, ?_, fun handle apart => ?_⟩
      · rw [s.table.get?_extended, if_pos rfl, found]
      · rw [s.table.get?_extended, if_neg apart]
    · rw [full] at made
      cases made

/-- However a table came about, a handle that is duplicated takes nothing from any other. -/
theorem Reachable.duplicated (h : Reachable base s) {source copy : Handle}
    (made : (duplicateHandle source s.table).outcome = .ok copy) :
    Duplicated s.table source copy (duplicateHandle source s.table).state :=
  (h.kept.copied made).answers

/-- The source is itself a copy, of a memory under an object that offers no region, and another region
overlaps it. Without the source, that region and the copy share what it owned. -/
theorem duplicated_between_overlaps : ∃ s : TableRun,
    (duplicateHandle 7 s.table).outcome = .ok 9 ∧
    ([0x1000, 0x1800, 0x2000].map fun address =>
      (s.table.memoryObject address).map Owner.handle) = [some 7, some 7, some 8] ∧
    ([0x1000, 0x1800, 0x2000].map fun address =>
      ((deleteHandle 7 (duplicateHandle 7 s.table).state).state.memoryObject address).map
        Owner.handle) = [some 9, some 8, some 8] ∧
    Duplicated s.table 7 9 (duplicateHandle 7 s.table).state := by
  let event : KernelObject := ⟨.numbered 1, .ordinary .event, none, none⟩
  let block : KernelObject := ⟨.numbered 2, .ordinary .sharedMemory, some ⟨0x1800, 0x1000⟩, none⟩
  have initial : Reachable 5 ⟨.new 5, [], []⟩ := .start
  have memory := initial.step (.call _ (.insertMemory ⟨event, ⟨0x1000, 0x1000⟩⟩))
  have lost := memory.step (.call _ (.newHandle fun handle => .error (.invalidHandle handle)))
  have copied := lost.step (.call _ (.duplicateHandle 5))
  have second := copied.step (.call _ (.insertItem block))
  have gone := second.step (.call _ (.deleteHandle 5))
  exact ⟨_, by decide, by decide, by decide, gone.duplicated (by decide)⟩

end TableRun

end GuestKernel
