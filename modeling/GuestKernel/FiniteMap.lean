/-!
# Finite maps

A `FiniteMap κ ν` is a list of entries whose keys are distinct, in the order in which they were
last written. `get?` looks a key up; `get?_insert` and `get?_erase` say what the two ways of
changing a map do to every key, and `mem_entries_iff` ties the list to the look-up.
-/

set_option autoImplicit false

namespace GuestKernel

/-- Values under distinct keys, the one written last at the end. -/
structure FiniteMap (κ ν : Type) where
  entries : List (κ × ν)
  distinct : (entries.map Prod.fst).Nodup

namespace FiniteMap

variable {κ ν : Type} [DecidableEq κ]

/-- The value of the first entry with key `k`. -/
def find? (k : κ) : List (κ × ν) → Option ν
  | [] => none
  | (key, value) :: rest => if key = k then some value else find? k rest

def without (k : κ) (entries : List (κ × ν)) : List (κ × ν) :=
  entries.filter fun entry => entry.1 ≠ k

omit [DecidableEq κ] in
def empty : FiniteMap κ ν := ⟨[], .nil⟩

def get? (m : FiniteMap κ ν) (k : κ) : Option ν := find? k m.entries

omit [DecidableEq κ] in
def size (m : FiniteMap κ ν) : Nat := m.entries.length

theorem without_distinct {entries : List (κ × ν)} (k : κ)
    (h : (entries.map Prod.fst).Nodup) : ((without k entries).map Prod.fst).Nodup :=
  List.Nodup.sublist (List.Sublist.map Prod.fst List.filter_sublist) h

theorem not_mem_keys_without (k : κ) (entries : List (κ × ν)) :
    k ∉ (without k entries).map Prod.fst := by
  simp [without]

def erase (m : FiniteMap κ ν) (k : κ) : FiniteMap κ ν :=
  ⟨without k m.entries, without_distinct k m.distinct⟩

/-- Puts a value under a key, in place of any value it had. -/
def insert (m : FiniteMap κ ν) (k : κ) (v : ν) : FiniteMap κ ν where
  entries := without k m.entries ++ [(k, v)]
  distinct := by
    rw [List.map_append, List.nodup_append]
    refine ⟨without_distinct k m.distinct, by simp, ?_⟩
    intro a ha b hb
    simp only [List.map_cons, List.map_nil, List.mem_singleton] at hb
    subst hb
    exact fun same => not_mem_keys_without _ m.entries (same ▸ ha)

theorem find?_without (k j : κ) (entries : List (κ × ν)) :
    find? j (without k entries) = if j = k then none else find? j entries := by
  induction entries with
  | nil => simp [without, find?]
  | cons entry rest ih =>
    obtain ⟨key, value⟩ := entry
    unfold without at ih ⊢
    by_cases hk : key = k
    · subst hk
      by_cases hj : j = key
      · simp_all
      · have hj' : ¬ key = j := fun h => hj h.symm
        simp_all [find?]
    · by_cases hj : j = k
      · subst hj
        simp_all [find?]
      · simp_all [find?]

theorem find?_append_singleton (j k : κ) (v : ν) (entries : List (κ × ν)) :
    find? j (entries ++ [(k, v)]) = (find? j entries).or (if k = j then some v else none) := by
  induction entries with
  | nil => simp [find?]
  | cons entry rest ih =>
    obtain ⟨key, value⟩ := entry
    by_cases hj : key = j <;> simp [find?, hj, ih]

@[simp] theorem get?_empty (k : κ) : (empty : FiniteMap κ ν).get? k = none := rfl

theorem get?_insert (m : FiniteMap κ ν) (k j : κ) (v : ν) :
    (m.insert k v).get? j = if j = k then some v else m.get? j := by
  simp only [get?, insert, find?_append_singleton, find?_without]
  by_cases h : j = k
  · subst h
    simp
  · have h' : ¬ k = j := fun e => h e.symm
    simp [h, h']

theorem get?_erase (m : FiniteMap κ ν) (k j : κ) :
    (m.erase k).get? j = if j = k then none else m.get? j :=
  find?_without k j m.entries

theorem find?_eq_some_iff {entries : List (κ × ν)} (h : (entries.map Prod.fst).Nodup) {k : κ}
    {v : ν} : find? k entries = some v ↔ (k, v) ∈ entries := by
  induction entries with
  | nil => simp [find?]
  | cons entry rest ih =>
    obtain ⟨key, value⟩ := entry
    rw [List.map_cons, List.nodup_cons] at h
    have fresh : ∀ w, (key, w) ∉ rest := fun w hw =>
      h.1 (List.mem_map.mpr ⟨(key, w), hw, rfl⟩)
    by_cases hk : key = k
    · subst hk
      simp [find?, fresh v, eq_comm]
    · have hk' : ¬ k = key := fun e => hk e.symm
      simp [find?, hk, hk', ih h.2]

/-- The entries are what the look-up finds. -/
theorem mem_entries_iff (m : FiniteMap κ ν) {k : κ} {v : ν} :
    (k, v) ∈ m.entries ↔ m.get? k = some v :=
  (find?_eq_some_iff m.distinct).symm

end FiniteMap

end GuestKernel
