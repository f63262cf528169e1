import Mathlib
import GuestKernel.FiniteMap

/-!
# Counting the keys of a finite map

A finite map has as many entries as keys. With the keys as a `Finset`, what a change does to the
size follows from what it does to the look-up.
-/

set_option autoImplicit false

namespace GuestKernel

namespace FiniteMap

variable {κ ν : Type} [DecidableEq κ] (m : FiniteMap κ ν) {k j : κ} {v : ν}

def keys : Finset κ := (m.entries.map Prod.fst).toFinset

theorem card_keys : m.keys.card = m.size := by
  rw [keys, List.toFinset_card_of_nodup m.distinct, List.length_map]
  rfl

theorem mem_keys_iff : k ∈ m.keys ↔ m.get? k ≠ none := by
  rw [keys, List.mem_toFinset, List.mem_map, Option.ne_none_iff_exists']
  constructor
  · rintro ⟨⟨key, value⟩, mem, rfl⟩
    exact ⟨value, m.mem_entries_iff.mp mem⟩
  · rintro ⟨value, found⟩
    exact ⟨(k, value), m.mem_entries_iff.mpr found, rfl⟩

theorem keys_insert : (m.insert k v).keys = Insert.insert k m.keys := by
  ext j
  rw [mem_keys_iff, Finset.mem_insert, mem_keys_iff, get?_insert]
  split
  · rename_i same
    simp [same]
  · rename_i other
    simp [other]

theorem keys_erase : (m.erase k).keys = m.keys.erase k := by
  ext j
  rw [mem_keys_iff, Finset.mem_erase, mem_keys_iff, get?_erase]
  split
  · rename_i same
    simp [same]
  · rename_i other
    simp [other]

variable {m}

theorem get?_of_perm {n : FiniteMap κ ν} (same : m.entries.Perm n.entries) (k : κ) :
    m.get? k = n.get? k := by
  apply Option.ext
  intro v
  rw [← m.mem_entries_iff, ← n.mem_entries_iff]
  exact same.mem_iff

theorem size_congr {n : FiniteMap κ ν} (same : ∀ k, m.get? k = n.get? k) : m.size = n.size := by
  have keys : m.keys = n.keys := by
    ext k
    rw [mem_keys_iff, mem_keys_iff, same]
  rw [← card_keys, ← card_keys, keys]

theorem size_insert_of_absent (absent : m.get? k = none) : (m.insert k v).size = m.size + 1 := by
  rw [← card_keys, ← card_keys, keys_insert, Finset.card_insert_of_notMem]
  intro mem
  exact m.mem_keys_iff.mp mem absent

theorem size_erase_of_present (present : m.get? k ≠ none) : (m.erase k).size + 1 = m.size := by
  rw [← card_keys, ← card_keys, keys_erase]
  exact Finset.card_erase_add_one (m.mem_keys_iff.mpr present)

end FiniteMap

end GuestKernel
