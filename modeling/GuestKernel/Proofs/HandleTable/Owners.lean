import Mathlib
import GuestKernel.HandleTable.Basic
import GuestKernel.Proofs.FiniteMap

/-!
# Who owns an address

A handle table answers for an address with a binding whose region contains it, the one with the
smallest handle, and with nothing only if there is no such binding. So its answer does not depend on
the order of its entries.
-/

set_option autoImplicit false

namespace GuestKernel

namespace Owner

variable {owners : List Owner} {owner : Owner}

theorem least_eq_none_iff : least owners = none ↔ owners = [] := by
  cases owners with
  | nil => exact ⟨fun _ => rfl, fun _ => rfl⟩
  | cons first rest =>
    refine iff_of_false ?_ (List.cons_ne_nil first rest)
    rw [least]
    split
    · exact nofun
    · split <;> exact nofun

theorem least_spec (h : least owners = some owner) :
    owner ∈ owners ∧ ∀ other ∈ owners, owner.handle ≤ other.handle := by
  induction owners generalizing owner with
  | nil => cases h
  | cons first rest ih =>
    rw [least] at h
    split at h
    · rename_i none
      cases h
      cases least_eq_none_iff.mp none
      exact ⟨List.mem_singleton_self _, fun other mem =>
        List.mem_singleton.mp mem ▸ UInt32.le_refl _⟩
    · rename_i found least
      obtain ⟨mem, smallest⟩ := ih least
      split at h
      · rename_i smaller
        cases h
        refine ⟨List.mem_cons_of_mem first mem, fun other there => ?_⟩
        rcases List.mem_cons.mp there with rfl | there
        · exact UInt32.le_of_lt smaller
        · exact smallest other there
      · rename_i larger
        cases h
        refine ⟨List.mem_cons_self, fun other there => ?_⟩
        rcases List.mem_cons.mp there with rfl | there
        · exact UInt32.le_refl _
        · exact UInt32.le_trans (UInt32.not_lt.mp larger) (smallest other there)

end Owner

namespace HandleTable

/-- The owner is bound to its handle and its region contains the address. -/
structure OwnedBy (table : HandleTable) (address : VirtAddr) (owner : Owner) : Prop where
  bound : table.bindings.get? owner.handle = some (.ofMemory owner.memory)
  inside : owner.memory.region.contains address = true

variable {table : HandleTable} {address : VirtAddr} {owner : Owner}

theorem mem_ownersOf_iff :
    owner ∈ ownersOf address table.bindings.entries ↔ table.OwnedBy address owner := by
  rw [ownersOf, List.mem_filterMap]
  constructor
  · rintro ⟨⟨handle, object, region⟩, mem, found⟩
    cases region with
    | none => cases found
    | some region =>
      dsimp only at found
      split at found
      · rename_i inside
        cases found
        exact ⟨table.bindings.mem_entries_iff.mp mem, inside⟩
      · cases found
  · rintro ⟨bound, inside⟩
    exact ⟨(owner.handle, _), table.bindings.mem_entries_iff.mpr bound, if_pos inside⟩

theorem memoryObject_eq_none_iff :
    table.memoryObject address = none ↔ ∀ owner, ¬ table.OwnedBy address owner := by
  rw [memoryObject, Owner.least_eq_none_iff, List.eq_nil_iff_forall_not_mem]
  exact forall_congr' fun owner => not_congr mem_ownersOf_iff

theorem memoryObject_spec (h : table.memoryObject address = some owner) :
    table.OwnedBy address owner ∧
      ∀ other, table.OwnedBy address other → owner.handle ≤ other.handle := by
  obtain ⟨mem, smallest⟩ := Owner.least_spec h
  exact ⟨mem_ownersOf_iff.mp mem, fun other owned => smallest other (mem_ownersOf_iff.mpr owned)⟩

theorem memoryObject_of_owned (owned : table.OwnedBy address owner) :
    ∃ found, table.memoryObject address = some found ∧ table.OwnedBy address found ∧
      found.handle ≤ owner.handle := by
  cases answer : table.memoryObject address with
  | none => exact absurd owned (memoryObject_eq_none_iff.mp answer owner)
  | some found =>
    obtain ⟨there, smallest⟩ := memoryObject_spec answer
    exact ⟨found, rfl, there, smallest owner owned⟩

theorem memoryObject_eq_some_iff : table.memoryObject address = some owner ↔
    table.OwnedBy address owner ∧
      ∀ other, table.OwnedBy address other → owner.handle ≤ other.handle := by
  constructor
  · exact memoryObject_spec
  · rintro ⟨owned, smallest⟩
    obtain ⟨found, answer, there, least⟩ := memoryObject_of_owned owned
    have same : found.handle = owner.handle :=
      UInt32.le_antisymm least (smallest found there)
    obtain ⟨handle, object, region⟩ := found
    obtain ⟨handle', object', region'⟩ := owner
    dsimp only at same
    subst same
    cases there.bound.symm.trans owned.bound
    exact answer

theorem ownedBy_congr {other : HandleTable}
    (same : ∀ handle, other.bindings.get? handle = table.bindings.get? handle) :
    other.OwnedBy address owner ↔ table.OwnedBy address owner := by
  constructor
  · rintro ⟨bound, inside⟩
    exact ⟨same owner.handle ▸ bound, inside⟩
  · rintro ⟨bound, inside⟩
    exact ⟨(same owner.handle).trans bound, inside⟩

theorem memoryObject_congr {other : HandleTable}
    (same : ∀ handle, other.bindings.get? handle = table.bindings.get? handle) :
    other.memoryObject address = table.memoryObject address := by
  apply Option.ext
  intro owner
  rw [memoryObject_eq_some_iff, memoryObject_eq_some_iff, ownedBy_congr same]
  simp only [ownedBy_congr same]

theorem memoryObject_of_perm {other : HandleTable}
    (same : other.bindings.entries.Perm table.bindings.entries) :
    other.memoryObject address = table.memoryObject address :=
  memoryObject_congr (FiniteMap.get?_of_perm same)

end HandleTable

end GuestKernel
