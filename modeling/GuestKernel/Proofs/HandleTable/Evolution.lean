import Mathlib
import GuestKernel.Proofs.FiniteMap
import GuestKernel.Proofs.HandleTable.Contents

/-!
# How a handle table evolves

One table evolves into another by a list of events if its bindings are what the events make of them
and no event binds a handle that was given out before. This composes, so it holds of every call, of
every program that uses the table, and of a creation whose builder uses the table before the object
is bound. What was given out before is then bound to what it was, unless an event deletes it.
-/

set_option autoImplicit false

namespace GuestKernel

namespace TableEvent

variable {event : TableEvent} {events : List TableEvent} {handle : Handle}
variable (held : Handle → Option Binding)

theorem apply_of_untouched (unbound : event.bound? ≠ some handle) (kept : event ≠ .deleted handle) :
    event.apply held handle = held handle := by
  cases event with
  | deleted gone =>
    exact Function.update_of_ne (fun same => kept (congrArg deleted same.symm)) ..
  | created fresh binding =>
    exact Function.update_of_ne (fun same => unbound (congrArg some same.symm)) ..
  | copied source copy =>
    exact Function.update_of_ne (fun same => unbound (congrArg some same.symm)) ..

theorem apply_of_unbound (unbound : event.bound? ≠ some handle) :
    event.apply held handle = held handle ∨ event.apply held handle = none := by
  by_cases gone : event = .deleted handle
  · subst gone
    exact .inr (Function.update_self ..)
  · exact .inl (apply_of_untouched held unbound gone)

theorem not_mem_boundHandles_cons (h : handle ∉ boundHandles (event :: events)) :
    event.bound? ≠ some handle ∧ handle ∉ boundHandles events := by
  constructor
  · intro binds
    exact h (List.mem_filterMap.mpr ⟨event, List.mem_cons_self, binds⟩)
  · intro mem
    obtain ⟨other, there, binds⟩ := List.mem_filterMap.mp mem
    exact h (List.mem_filterMap.mpr ⟨other, List.mem_cons_of_mem _ there, binds⟩)

theorem foldl_of_unbound (unbound : handle ∉ boundHandles events) :
    events.foldl apply held handle = held handle ∨ events.foldl apply held handle = none := by
  induction events generalizing held with
  | nil => exact .inl rfl
  | cons event events ih =>
    obtain ⟨first, rest⟩ := not_mem_boundHandles_cons unbound
    rcases ih (event.apply held) rest with same | none
    · rcases apply_of_unbound held first with kept | gone
      · exact .inl (same.trans kept)
      · exact .inr (same.trans gone)
    · exact .inr none

theorem foldl_of_untouched (unbound : handle ∉ boundHandles events)
    (kept : .deleted handle ∉ events) : events.foldl apply held handle = held handle := by
  induction events generalizing held with
  | nil => rfl
  | cons event events ih =>
    obtain ⟨first, rest⟩ := not_mem_boundHandles_cons unbound
    have same : event ≠ .deleted handle := fun deletes => kept (deletes ▸ List.mem_cons_self)
    refine (ih _ rest fun mem => kept (List.mem_cons_of_mem _ mem)).trans ?_
    exact apply_of_untouched held first same

end TableEvent

section Counts
variable (events more : List TableEvent)

theorem boundHandles_append : boundHandles (events ++ more) = boundHandles events ++ boundHandles more :=
  List.filterMap_append

theorem creations_append : creations (events ++ more) = creations events + creations more :=
  List.countP_append

theorem deletions_append : deletions (events ++ more) = deletions events + deletions more :=
  List.countP_append

end Counts

namespace HandleTable

/-- Every handle that is bound was given out before. -/
def Issued (table : HandleTable) : Prop :=
  ∀ handle, table.bindings.get? handle ≠ none → handle.toNat < table.next.toNat

structure Evolves (t : HandleTable) (events : List TableEvent) (u : HandleTable) : Prop where
  up : t.next.toNat ≤ u.next.toNat
  bindings : ∀ handle,
    u.bindings.get? handle = events.foldl TableEvent.apply t.bindings.get? handle
  fresh : ∀ handle ∈ boundHandles events,
    t.next.toNat ≤ handle.toNat ∧ handle.toNat < u.next.toNat
  size : Issued t → u.size + deletions events = t.size + creations events

theorem issued_new (base : Handle) : Issued (new base) := fun _ bound => absurd rfl bound

namespace Evolves

variable {t u v : HandleTable} {events more : List TableEvent} {handle : Handle}

theorem refl (t : HandleTable) : Evolves t [] t :=
  ⟨Nat.le_refl _, fun _ => rfl, fun _ mem => absurd mem List.not_mem_nil, fun _ => rfl⟩

theorem issued (h : Evolves t events u) (before : Issued t) : Issued u := by
  intro handle bound
  by_cases mem : handle ∈ boundHandles events
  · exact (h.fresh handle mem).2
  · rw [h.bindings] at bound
    rcases TableEvent.foldl_of_unbound t.bindings.get? mem with same | none
    · rw [same] at bound
      exact Nat.lt_of_lt_of_le (before handle bound) h.up
    · exact absurd none bound

theorem trans (h : Evolves t events u) (next : Evolves u more v) :
    Evolves t (events ++ more) v := by
  refine ⟨Nat.le_trans h.up next.up, fun handle => ?_, fun handle mem => ?_, fun before => ?_⟩
  · rw [next.bindings, List.foldl_append, ← funext h.bindings]
  · rw [boundHandles_append] at mem
    rcases List.mem_append.mp mem with early | late
    · obtain ⟨low, high⟩ := h.fresh handle early
      exact ⟨low, Nat.lt_of_lt_of_le high next.up⟩
    · obtain ⟨low, high⟩ := next.fresh handle late
      exact ⟨Nat.le_trans h.up low, high⟩
  · have first := h.size before
    have second := next.size (h.issued before)
    rw [deletions_append, creations_append]
    omega

/-- A handle that was given out before is not bound by any of the events. -/
theorem not_bound (h : Evolves t events u) (given : handle.toNat < t.next.toNat) :
    handle ∉ boundHandles events := by
  intro mem
  have low := (h.fresh handle mem).1
  omega

theorem kept (h : Evolves t events u) (given : handle.toNat < t.next.toNat)
    (undeleted : .deleted handle ∉ events) :
    u.bindings.get? handle = t.bindings.get? handle := by
  rw [h.bindings]
  exact TableEvent.foldl_of_untouched _ (h.not_bound given) undeleted

theorem bound_of_new (h : Evolves t events u) (before : t.bindings.get? handle = none)
    (now : u.bindings.get? handle ≠ none) : handle ∈ boundHandles events := by
  by_contra unbound
  rw [h.bindings] at now
  rcases TableEvent.foldl_of_unbound t.bindings.get? unbound with same | none
  · exact now (same.trans before)
  · exact now none

theorem unbound (h : Evolves t events u) (given : handle.toNat < t.next.toNat)
    (absent : t.bindings.get? handle = none) : u.bindings.get? handle = none := by
  by_contra now
  exact h.not_bound given (h.bound_of_new absent now)

end Evolves

variable {t u : HandleTable}

theorem evolves_advance (room : t.next.toNat + 1 < UInt32.size) : Evolves t [] t.advance := by
  refine ⟨?_, fun _ => rfl, fun _ mem => absurd mem List.not_mem_nil, fun _ => rfl⟩
  rw [toNat_next_advance room]
  exact Nat.le_succ _

/-- What was built for a handle is bound to it after all that happened meanwhile. -/
theorem Evolves.finishes {events : List TableEvent} (h : Evolves t.advance events u)
    (room : t.next.toNat + 1 < UInt32.size) (event : TableEvent) {binding : Binding}
    (binds : event.bound? = some t.next)
    (gives : ∀ held : Handle → Option Binding, held = events.foldl TableEvent.apply t.bindings.get? →
      event.apply held = Function.update held t.next (some binding)) :
    Evolves t (events ++ [event]) (bind t.next binding u).state := by
  have up := h.up
  have passed := toNat_next_advance room
  have given : t.next.toNat < t.advance.next.toNat := by omega
  refine ⟨?_, fun handle => ?_, fun handle mem => ?_, fun before => ?_⟩
  · change t.next.toNat ≤ u.next.toNat
    omega
  · rw [List.foldl_append, bind_apply, FiniteMap.get?_insert]
    change _ = event.apply (events.foldl TableEvent.apply t.bindings.get?) handle
    rw [gives _ rfl, Function.update_apply, h.bindings]
    rfl
  · change t.next.toNat ≤ handle.toNat ∧ handle.toNat < u.next.toNat
    rw [boundHandles_append_one, binds] at mem
    rcases List.mem_append.mp mem with early | last
    · have range := h.fresh handle early
      omega
    · rw [List.mem_singleton.mp last]
      omega
  · -- the handle was given out only now, so nothing was bound to it
    have absent : t.advance.bindings.get? t.next = none := by
      by_contra bound
      exact Nat.lt_irrefl _ (before t.next bound)
    have grown : (bind t.next binding u).state.size = u.size + 1 :=
      FiniteMap.size_insert_of_absent (h.unbound given absent)
    have counted := h.size ((evolves_advance room).issued before)
    have made := creations_append_one events event
    have deleted := deletions_append_one events event
    rw [binds] at made deleted
    simp only [Option.toList_some, List.length_singleton] at made deleted
    change (bind t.next binding u).state.size + _ = t.size + _
    change u.size + deletions events = t.size + creations events at counted
    omega

end HandleTable

open HandleTable

theorem TableChange.evolves {t u : HandleTable} {events : List TableEvent}
    (h : TableChange t events u) : t.Evolves events u := by
  cases h with
  | same => exact .refl t
  | lost room => exact evolves_advance room
  | created binding room =>
    exact (Evolves.refl t.advance).finishes room (.created t.next binding) rfl fun _ _ => rfl
  | copied source room found =>
    refine (Evolves.refl t.advance).finishes room (.copied source t.next) rfl ?_
    rintro held rfl
    exact congrArg (Function.update _ t.next) found
  | deleted handle present =>
    refine ⟨Nat.le_refl _, fun other => ?_, fun _ mem => absurd mem List.not_mem_nil, fun _ => ?_⟩
    · exact (t.bindings.get?_erase handle other).trans (Function.update_apply ..).symm
    · exact FiniteMap.size_erase_of_present present

namespace TableProgram

variable {α : Type}

/-- What became of the bindings while a program ran. -/
def events : TableProgram α → HandleTable → List TableEvent
  | done _, _ => []
  | call c next, table =>
    c.events (c.perform table).outcome ++
      (next (c.perform table).outcome).events (c.perform table).state

theorem exists_run_eq (program : TableProgram α) (table : HandleTable) :
    ∃ value log, program.run table = ⟨.ok value, (program.run table).state, log⟩ := by
  have ends : ∃ value, (program.run table).outcome = .ok value := by
    induction program generalizing table with
    | done value => exact ⟨value, rfl⟩
    | call c next ih => exact ih _ _
  obtain ⟨value, ended⟩ := ends
  exact ⟨value, (program.run table).log, by rw [← ended]⟩

theorem evolves_run (program : TableProgram α) (table : HandleTable) :
    table.Evolves (program.events table) (program.run table).state := by
  induction program generalizing table with
  | done value => exact .refl table
  | call c next ih => exact (c.change table).evolves.trans (ih _ _)

end TableProgram

end GuestKernel
