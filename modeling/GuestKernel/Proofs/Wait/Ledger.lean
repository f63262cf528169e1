import Mathlib
import GuestKernel.Proofs.Wait.Removal
import GuestKernel.Proofs.Wait.Run

/-!
# What the events of a run say about its entries

Lists that are read off the events of a run: the entries that arrived and where, those that were
woken, those whose wait ran out, and the calls that returned. An entry is gone once it was woken or
its wait ran out; `count_gone` says that it cannot be gone in two ways without being counted twice.
-/

set_option autoImplicit false

namespace GuestKernel

namespace WaitEvent

def place : WaitEvent → WaitPlace
  | arrived place _ => place
  | handed address _ => .mutex address
  | signalled address _ | returned address _ _ => .condition address

def arrival? : WaitEvent → Option (WaitPlace × WaitEntry)
  | arrived place entry => some (place, entry)
  | _ => none

def handedTo : WaitEvent → List WaitEntry
  | handed _ entry => [entry]
  | _ => []

def signalledTo : WaitEvent → List WaitEntry
  | signalled _ woken => woken
  | _ => []

/-- The entries that an unlock or a signal woke. -/
def woke (event : WaitEvent) : List WaitEntry := event.handedTo ++ event.signalledTo

/-- The entry whose wait ran out. -/
def expiry : WaitEvent → List WaitEntry
  | returned _ entry false => [entry]
  | _ => []

/-- The entries that left their queue. -/
def removed (event : WaitEvent) : List WaitEntry := event.woke ++ event.expiry

def back : WaitEvent → List WaitEntry
  | returned _ entry _ => [entry]
  | _ => []

end WaitEvent

open WaitEvent

/-- Entries and where they arrived, in order. -/
def arrivals (events : List WaitEvent) : List (WaitPlace × WaitEntry) := events.filterMap arrival?

/-- The entries that arrived at a place, in order. -/
def arrivedAt (events : List WaitEvent) (place : WaitPlace) : List WaitEntry :=
  ((arrivals events).filter fun a => decide (a.1 = place)).map Prod.snd

def woken (events : List WaitEvent) : List WaitEntry := events.flatMap woke

def expired (events : List WaitEvent) : List WaitEntry := events.flatMap expiry

/-- The entries that left their queue. -/
def gone (events : List WaitEvent) : List WaitEntry := events.flatMap removed

def backs (events : List WaitEvent) : List WaitEntry := events.flatMap back

section Append
variable (events : List WaitEvent) (event : WaitEvent)

theorem arrivals_append :
    arrivals (events ++ [event]) = arrivals events ++ event.arrival?.toList := by
  rw [arrivals, List.filterMap_append]
  cases h : event.arrival? <;> simp [arrivals, h]

theorem woken_append : woken (events ++ [event]) = woken events ++ event.woke := by
  simp [woken]

theorem gone_append : gone (events ++ [event]) = gone events ++ event.removed := by
  simp [gone]

theorem backs_append : backs (events ++ [event]) = backs events ++ event.back := by
  simp [backs]

theorem arrivedAt_of_arrivals {es es' : List WaitEvent} (h : arrivals es' = arrivals es)
    (place : WaitPlace) : arrivedAt es' place = arrivedAt es place := by
  rw [arrivedAt, arrivedAt, h]

theorem arrivedAt_append_arrived (place at_ : WaitPlace) (entry : WaitEntry) :
    arrivedAt (events ++ [.arrived at_ entry]) place =
      if place = at_ then arrivedAt events place ++ [entry] else arrivedAt events place := by
  rw [arrivedAt, arrivals_append, arrival?, Option.toList_some, List.filter_append,
    List.map_append]
  split
  · rename_i same
    subst same
    simp [arrivedAt]
  · rename_i other
    have apart : ¬ at_ = place := fun h => other h.symm
    simp [arrivedAt, apart]

end Append

variable {events : List WaitEvent} {entry : WaitEntry} {place : WaitPlace}

theorem mem_arrivals_iff :
    (place, entry) ∈ arrivals events ↔ .arrived place entry ∈ events := by
  rw [arrivals, List.mem_filterMap]
  constructor
  · rintro ⟨event, mem, h⟩
    cases event with
    | arrived p e =>
      cases h
      exact mem
    | _ => cases h
  · intro mem
    exact ⟨_, mem, rfl⟩

theorem mem_arrivedAt_iff : entry ∈ arrivedAt events place ↔ (place, entry) ∈ arrivals events := by
  rw [arrivedAt, List.mem_map]
  constructor
  · rintro ⟨⟨p, e⟩, mem, rfl⟩
    obtain ⟨mem, same⟩ := List.mem_filter.mp mem
    rw [decide_eq_true_eq] at same
    exact same ▸ mem
  · intro mem
    exact ⟨(place, entry), List.mem_filter.mpr ⟨mem, by simp⟩, rfl⟩

theorem mem_expired_iff :
    entry ∈ expired events ↔ ∃ address, .returned address entry false ∈ events := by
  rw [expired, List.mem_flatMap]
  constructor
  · rintro ⟨event, mem, h⟩
    cases event with
    | returned address e answer =>
      cases answer with
      | true => cases h
      | false =>
        rw [expiry, List.mem_singleton] at h
        subst h
        exact ⟨address, mem⟩
    | _ => cases h
  · rintro ⟨address, mem⟩
    exact ⟨_, mem, List.mem_singleton_self entry⟩

/-- An entry is gone as often as it was woken or its wait ran out. -/
theorem count_gone (entry : WaitEntry) (events : List WaitEvent) :
    (gone events).count entry = (woken events).count entry + (expired events).count entry := by
  induction events with
  | nil => rfl
  | cons event events ih =>
    simp only [gone, woken, expired, List.flatMap_cons, List.count_append, removed] at ih ⊢
    omega

/-- An entry is woken as often as a mutex was handed to it or a signal picked it. -/
theorem count_woken (entry : WaitEntry) (events : List WaitEvent) :
    (woken events).count entry =
      (events.flatMap handedTo).count entry + (events.flatMap signalledTo).count entry := by
  induction events with
  | nil => rfl
  | cons event events ih =>
    simp only [woken, List.flatMap_cons, List.count_append, woke] at ih ⊢
    omega

theorem woken_sublist_gone (events : List WaitEvent) : (woken events).Sublist (gone events) := by
  induction events with
  | nil => exact .refl _
  | cons event events ih =>
    exact List.Sublist.append (List.sublist_append_left event.woke event.expiry) ih

theorem mem_gone_iff : entry ∈ gone events ↔ entry ∈ woken events ∨ entry ∈ expired events := by
  have counted := count_gone entry events
  rw [← List.count_pos_iff, ← List.count_pos_iff, ← List.count_pos_iff]
  omega

end GuestKernel
