import Mathlib
import GuestKernel.Wait.Queues

/-!
# Which entry of a queue is served

`Selected queue before entry after` cuts a queue at the entry that is served next: it has the
highest priority, and everything in front of it has a lower one. Taking the next entry, looking at
it and removing it by identity are all put in terms of such a cut, so that what follows never goes
by position.
-/

set_option autoImplicit false

namespace GuestKernel

/-- A queue cut at the first entry with the highest priority. -/
structure WaitEntry.Selected (queue before : List WaitEntry) (entry : WaitEntry)
    (after : List WaitEntry) : Prop where
  split : queue = before ++ entry :: after
  lower : ∀ e ∈ before, e.priority < entry.priority
  atMost : ∀ e ∈ after, e.priority ≤ entry.priority

namespace WaitEntry

variable {queue before after : List WaitEntry} {entry : WaitEntry}

theorem Selected.mem (h : Selected queue before entry after) : entry ∈ queue := by
  rw [h.split]
  exact List.mem_append_right _ List.mem_cons_self

theorem Selected.length (h : Selected queue before entry after) :
    queue.length = (before ++ after).length + 1 := by
  rw [h.split, List.length_append, List.length_append, List.length_cons]
  omega

theorem chosen_eq_none_iff : chosen queue = none ↔ queue = [] := by
  cases queue with
  | nil => simp [chosen]
  | cons e rest =>
    simp only [chosen]
    split
    · simp
    · split <;> simp

/-- The chosen position is that of a cut. -/
theorem selected_of_chosen {i : Nat} (h : chosen queue = some (i, entry)) :
    ∃ before after, Selected queue before entry after ∧ i = before.length := by
  induction queue generalizing i entry with
  | nil => cases h
  | cons e rest ih =>
    simp only [chosen] at h
    split at h
    · rename_i none
      rw [chosen_eq_none_iff] at none
      cases h
      exact ⟨[], [], ⟨by rw [none]; rfl, by simp, by simp⟩, rfl⟩
    · rename_i j best found
      obtain ⟨before, after, cut, hj⟩ := ih found
      split at h
      · rename_i lower
        cases h
        refine ⟨e :: before, after, ⟨by rw [cut.split]; rfl, ?_, cut.atMost⟩, by rw [hj]; rfl⟩
        intro x hx
        rcases List.mem_cons.mp hx with rfl | hx
        · exact lower
        · exact cut.lower x hx
      · rename_i highest
        cases h
        refine ⟨[], rest, ⟨rfl, by simp, ?_⟩, rfl⟩
        have bound : best.priority ≤ e.priority := UInt8.not_lt.mp highest
        intro x hx
        rw [cut.split] at hx
        rcases List.mem_append.mp hx with hx | hx
        · exact UInt8.le_trans (UInt8.le_of_lt (cut.lower x hx)) bound
        · rcases List.mem_cons.mp hx with rfl | hx
          · exact bound
          · exact UInt8.le_trans (cut.atMost x hx) bound

/-- There is one cut of a queue at most. -/
theorem Selected.unique {before' after' : List WaitEntry} {entry' : WaitEntry}
    (h : Selected queue before entry after) (h' : Selected queue before' entry' after') :
    before = before' ∧ entry = entry' ∧ after = after' := by
  have same := h.split.symm.trans h'.split
  rcases List.append_eq_append_iff.mp same with ⟨l, hl, hr⟩ | ⟨l, hl, hr⟩
  · cases l with
    | nil =>
      rw [List.append_nil] at hl
      cases hr
      exact ⟨hl.symm, rfl, rfl⟩
    | cons x l =>
      cases hr
      have up := h'.lower entry (by rw [hl]; simp)
      have down := h.atMost entry' (by simp)
      exact absurd up (UInt8.not_lt.mpr down)
  · cases l with
    | nil =>
      rw [List.append_nil] at hl
      cases hr
      exact ⟨hl, rfl, rfl⟩
    | cons x l =>
      cases hr
      have up := h.lower entry' (by rw [hl]; simp)
      have down := h'.atMost entry (by simp)
      exact absurd up (UInt8.not_lt.mpr down)

theorem chosen_of_selected (h : Selected queue before entry after) :
    chosen queue = some (before.length, entry) := by
  cases hc : chosen queue with
  | none =>
    rw [chosen_eq_none_iff] at hc
    subst hc
    exact absurd h.mem List.not_mem_nil
  | some found =>
    obtain ⟨i, e⟩ := found
    obtain ⟨b, a, cut, hi⟩ := selected_of_chosen hc
    obtain ⟨hb, he, _⟩ := h.unique cut
    rw [hi, hb, he]

/-- The entry that is served next does not occur before its position. -/
theorem Selected.first (h : Selected queue before entry after) : entry ∉ before := by
  intro earlier
  exact UInt8.lt_irrefl _ (h.lower entry earlier)

theorem erase_of_split (h : queue = before ++ entry :: after) (first : entry ∉ before) :
    queue.erase entry = before ++ after := by
  rw [h, List.erase_append_right _ first, List.erase_cons_head]

theorem erase_of_selected (h : Selected queue before entry after) :
    queue.erase entry = before ++ after := erase_of_split h.split h.first

theorem eraseIdx_of_split (h : queue = before ++ entry :: after) :
    queue.eraseIdx before.length = before ++ after := by
  rw [h, List.eraseIdx_append_of_length_le (Nat.le_refl _), Nat.sub_self]
  rfl

/-- The search for an identity ends at its first occurrence. -/
theorem findIdx?_of_split {found : WaitEntry} (h : queue = before ++ found :: after)
    (same : found.id = entry.id) (fresh : ∀ e ∈ before, e.id ≠ entry.id) :
    queue.findIdx? (fun e => e.id == entry.id) = some before.length := by
  rw [h, List.findIdx?_append, List.findIdx?_eq_none_iff.mpr, List.findIdx?_cons]
  · simp [same]
  · intro e he
    simpa using fresh e he

end WaitEntry

namespace WaitQueues

open WaitEntry

variable {q r : WaitQueues} {address : VirtAddr} {entry : WaitEntry}
variable {before after : List WaitEntry}

@[simp] theorem queueAt_setQueue_self (queue : List WaitEntry) :
    (q.setQueue address queue).queueAt address = queue := by
  rw [queueAt_setQueue, if_pos rfl]

theorem queueAt_setQueue_other {other : VirtAddr} (queue : List WaitEntry) (h : other ≠ address) :
    (q.setQueue address queue).queueAt other = q.queueAt other := by
  rw [queueAt_setQueue, if_neg h]

theorem peekNext_eq_none_iff : q.peekNext address = none ↔ q.queueAt address = [] := by
  rw [peekNext, Option.map_eq_none_iff, chosen_eq_none_iff]

theorem selected_of_peekNext (h : q.peekNext address = some entry) :
    ∃ before after, Selected (q.queueAt address) before entry after := by
  rw [peekNext, Option.map_eq_some_iff] at h
  obtain ⟨⟨i, e⟩, found, rfl⟩ := h
  obtain ⟨before, after, cut, _⟩ := selected_of_chosen found
  exact ⟨before, after, cut⟩

theorem peekNext_of_selected (h : Selected (q.queueAt address) before entry after) :
    q.peekNext address = some entry := by
  rw [peekNext, chosen_of_selected h]
  rfl

theorem popNext_eq_none_iff : q.popNext address = none ↔ q.queueAt address = [] := by
  rw [popNext, Option.map_eq_none_iff, chosen_eq_none_iff]

theorem popNext_of_selected (h : Selected (q.queueAt address) before entry after) :
    q.popNext address = some (entry, q.setQueue address (before ++ after)) := by
  rw [popNext, chosen_of_selected h, Option.map_some]
  simp only [eraseIdx_of_split h.split]

theorem selected_of_popNext (h : q.popNext address = some (entry, r)) :
    ∃ before after, Selected (q.queueAt address) before entry after ∧
      r = q.setQueue address (before ++ after) := by
  have found := h
  rw [popNext, Option.map_eq_some_iff] at found
  obtain ⟨⟨i, e⟩, chosen, _⟩ := found
  obtain ⟨before, after, cut, _⟩ := selected_of_chosen chosen
  have taken := popNext_of_selected cut
  rw [h, Option.some.injEq, Prod.mk.injEq] at taken
  obtain ⟨rfl, rfl⟩ := taken
  exact ⟨before, after, cut, rfl⟩

theorem nobody_or_selected (q : WaitQueues) (address : VirtAddr) :
    q.queueAt address = [] ∨
      ∃ before entry after, Selected (q.queueAt address) before entry after := by
  cases found : q.peekNext address with
  | none => exact .inl (peekNext_eq_none_iff.mp found)
  | some entry =>
    obtain ⟨before, after, cut⟩ := selected_of_peekNext found
    exact .inr ⟨before, entry, after, cut⟩

theorem popUpTo_of_nobody (nobody : q.queueAt address = []) (amount : Nat) :
    popUpTo amount q address = ([], q) := by
  cases amount with
  | zero => rfl
  | succ amount => rw [popUpTo, popNext_eq_none_iff.mpr nobody]

theorem popUpTo_of_selected (cut : Selected (q.queueAt address) before entry after)
    (amount : Nat) :
    popUpTo (amount + 1) q address =
      (entry :: (popUpTo amount (q.setQueue address (before ++ after)) address).1,
        (popUpTo amount (q.setQueue address (before ++ after)) address).2) := by
  rw [popUpTo, popNext_of_selected cut]

/-- Removal by identity takes the first occurrence. -/
theorem remove_of_split (h : q.queueAt address = before ++ entry :: after)
    (fresh : ∀ e ∈ before, e.id ≠ entry.id) :
    q.remove address entry = some (q.setQueue address (before ++ after)) := by
  rw [remove, findIdx?_of_split h rfl fresh, Option.map_some, eraseIdx_of_split h]

theorem remove_eq_none_iff :
    q.remove address entry = none ↔ ∀ e ∈ q.queueAt address, e.id ≠ entry.id := by
  rw [remove, Option.map_eq_none_iff, List.findIdx?_eq_none_iff]
  simp

/-- Removing an entry that is queued takes one away, whatever the identities of the others are. -/
theorem waiters_remove_of_mem (queued : entry ∈ q.queueAt address) :
    ((q.remove address entry).getD q).waiters address + 1 = q.waiters address := by
  cases found : (q.queueAt address).findIdx? fun e => e.id == entry.id with
  | none =>
    have other := List.findIdx?_eq_none_iff.mp found entry queued
    simp at other
  | some i =>
    obtain ⟨inside, _⟩ := List.findIdx?_eq_some_iff_getElem.mp found
    rw [remove, found, Option.map_some, Option.getD_some, waiters, queueAt_setQueue_self,
      List.length_eraseIdx_add_one inside, waiters]

end WaitQueues

end GuestKernel
