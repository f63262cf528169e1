import Mathlib
import GuestKernel.Proofs.Tls.Calls

/-!
# The order in which slots are given out

A `TlsRun` is a list of pages with the slots that were taken of it so far. Each call brings its own
way of mapping a page, which may place the page anywhere, refuse, or fault; pages may be mapped
before they are needed. What was taken is always a prefix of `slotOrder`, the slots page by page
without the very first one, because the list stays packed.
-/

set_option autoImplicit false

namespace GuestKernel

namespace TlsPageList

/-- The slots that can be taken of so many pages, each by its page and its number there, in order. -/
def slotOrder (pages : Nat) : List (Nat × Nat) :=
  ((List.range pages).flatMap fun page => (List.range tlsSlots).map fun slot => (page, slot)).tail

theorem flatMap_slots (pages : Nat) :
    (List.range pages).flatMap (fun page => (List.range tlsSlots).map fun slot => (page, slot)) =
      (List.range (tlsSlots * pages)).map fun k => (k / tlsSlots, k % tlsSlots) := by
  induction pages with
  | zero => rfl
  | succ pages ih =>
    rw [List.range_succ, List.flatMap_append, ih, Nat.mul_add, Nat.mul_one, List.range_add,
      List.map_append, List.map_map]
    congr 1
    rw [List.flatMap_singleton]
    apply List.map_congr_left
    intro slot mem
    have small : slot < tlsSlots := List.mem_range.mp mem
    have page : (tlsSlots * pages + slot) / tlsSlots = pages := by
      rw [Nat.mul_add_div (by decide), Nat.div_eq_of_lt small, Nat.add_zero]
    have own : (tlsSlots * pages + slot) % tlsSlots = slot := by
      rw [Nat.mul_add_mod, Nat.mod_eq_of_lt small]
    rw [Function.comp_apply, page, own]

theorem slotOrder_eq (pages : Nat) :
    slotOrder pages =
      (List.range' 1 (tlsSlots * pages - 1)).map fun k => (k / tlsSlots, k % tlsSlots) := by
  rw [slotOrder, flatMap_slots, ← List.map_tail, List.range_eq_range', List.tail_range']

theorem take_slotOrder {pages n : Nat} (h : n ≤ tlsSlots * pages - 1) :
    (slotOrder pages).take n = (List.range' 1 n).map fun k => (k / tlsSlots, k % tlsSlots) := by
  rw [slotOrder_eq, ← List.map_take, List.take_range'_of_length_ge h]

/-- A way of mapping pages that writes down what it is asked for. -/
def noted {τ : Type} (mapPage : VirtAddr → Action τ VirtAddr) (requested : VirtAddr) :
    Action (τ × List VirtAddr) VirtAddr := do
  .onSecond (.update fun asked => asked ++ [requested])
  .onFirst (mapPage requested)

section Noted
variable {τ : Type} {mapPage : VirtAddr → Action τ VirtAddr} {list : TlsPageList} {count : Nat}
variable {t : τ}

theorem noted_state (mapPage : VirtAddr → Action τ VirtAddr) (t : τ) (requested : VirtAddr) :
    (noted mapPage requested (t, [])).state.2 = [requested] := rfl

/-- Mapping a page asks once, at the next address if there is one. -/
theorem GrowExit.asked {outcome : Except Fault TlsPage}
    {state : TlsPageList × τ × List VirtAddr}
    (exit : GrowExit (noted mapPage) list (t, []) outcome state) :
    state.2.2 = list.nextPageAddress.toOption.toList := by
  cases exit with
  | unasked high =>
    rw [high]
    rfl
  | @unmapped requested fault after log next asked =>
    have state := noted_state mapPage t requested
    rw [asked] at state
    rw [next]
    exact state
  | @mapped requested address after log next asked =>
    have state := noted_state mapPage t requested
    rw [asked] at state
    rw [next]
    exact state

/-- Taking a slot asks for a page only when all pages are full. -/
theorem SlotExit.asked (h : list.Packed count) {outcome : Except Fault VirtAddr}
    {state : TlsPageList × τ × List VirtAddr}
    (exit : SlotExit (noted mapPage) list count (t, []) outcome state) :
    state.2.2 = if ∀ page ∈ list.pages, page.isFull = true then
      list.nextPageAddress.toOption.toList else [] := by
  have all := h.all_full_iff
  cases exit with
  | taken room found => rw [if_neg fun full => Nat.ne_of_lt room (all.mp full)]
  | tooHigh room high => rw [if_neg fun full => Nat.ne_of_lt room (all.mp full)]
  | ungrown full grown =>
    rw [if_pos (all.mpr full)]
    exact grown.asked
  | opened full grow found =>
    rw [if_pos (all.mpr full)]
    exact grow.asked
  | openedTooHigh full grow high =>
    rw [if_pos (all.mpr full)]
    exact grow.asked

end Noted

end TlsPageList

open TlsPageList

structure TlsRun where
  list : TlsPageList
  slots : List VirtAddr

namespace TlsRun

/-- The slots that were taken, after one more call. -/
def give (s : TlsRun) : Except Fault VirtAddr → List VirtAddr
  | .ok slot => s.slots ++ [slot]
  | .error _ => s.slots

/-- One call, with whatever maps the pages for it. -/
inductive Step : TlsRun → TlsRun → Prop where
  | getSlot {τ : Type} (s : TlsRun) (mapPage : VirtAddr → Action τ VirtAddr) (t : τ) :
      Step s ⟨(getSlot mapPage (s.list, t)).state.1, s.give (getSlot mapPage (s.list, t)).outcome⟩
  | grow {τ : Type} (s : TlsRun) (mapPage : VirtAddr → Action τ VirtAddr) (t : τ) :
      Step s ⟨(grow mapPage (s.list, t)).state.1, s.slots⟩

inductive Reachable (base : VirtAddr) : TlsRun → Prop where
  | start : Reachable base ⟨.new base, []⟩
  | step {s t : TlsRun} (reachable : Reachable base s) (step : Step s t) : Reachable base t

/-- The list is packed, and all slots that are taken but the first were taken in order. -/
structure Kept (s : TlsRun) (count : Nat) : Prop where
  packed : s.list.Packed count
  slots : s.slots.map UInt64.toNat = (List.range' 1 (count - 1)).map s.list.nthPlace

namespace Kept

variable {s t : TlsRun} {count : Nat}

theorem append (h : Kept s count) (address : VirtAddr) :
    Kept ⟨s.list.append (s.list.opening address), s.slots⟩ (max 1 count) := by
  refine ⟨h.packed.append address, ?_⟩
  have same : max 1 count - 1 = count - 1 := by omega
  rw [h.slots, same]
  apply List.map_congr_left
  intro k mem
  have range := List.mem_range'_1.mp mem
  have bound := h.packed.bound
  exact (place_append _ (page_lt (by omega)) _).symm

theorem take (h : Kept s count) (positive : 0 < count)
    (room : count < tlsSlots * s.list.addresses.length) {slot : VirtAddr}
    (found : slot.toNat = s.list.nthPlace count) :
    Kept ⟨s.list.filledTo (count + 1), s.slots ++ [slot]⟩ (count + 1) := by
  refine ⟨h.packed.filledTo (Nat.le_succ count) room, ?_⟩
  obtain ⟨n, rfl⟩ := Nat.exists_eq_add_of_le' positive
  have places : (s.list.filledTo (n + 1 + 1)).nthPlace = s.list.nthPlace := by
    funext k
    exact place_congr (addresses_filledTo s.list _) _ _
  rw [places, List.map_append, h.slots, List.map_singleton, found]
  simp only [Nat.add_sub_cancel]
  rw [List.range'_1_concat, List.map_append, Nat.add_comm 1 n]
  rfl

theorem positive (h : Kept s count) (room : count < tlsSlots * s.list.addresses.length) :
    0 < count := by
  apply h.packed.kept
  intro none
  rw [none] at room
  exact Nat.not_lt_zero count room

theorem grow {τ : Type} {mapPage : VirtAddr → Action τ VirtAddr} {t : τ}
    {outcome : Except Fault TlsPage} {list : TlsPageList} {after : τ} (h : Kept s count)
    (exit : GrowExit mapPage s.list t outcome (list, after)) :
    ∃ count', Kept ⟨list, s.slots⟩ count' := by
  cases exit with
  | unasked high => exact ⟨count, h⟩
  | unmapped next asked => exact ⟨count, h⟩
  | mapped next asked => exact ⟨max 1 count, h.append _⟩

theorem getSlot {τ : Type} {mapPage : VirtAddr → Action τ VirtAddr} {t : τ}
    {outcome : Except Fault VirtAddr} {list : TlsPageList} {after : τ} (h : Kept s count)
    (exit : SlotExit mapPage s.list count t outcome (list, after)) :
    ∃ count', Kept ⟨list, s.give outcome⟩ count' := by
  cases exit with
  | taken room found => exact ⟨count + 1, h.take (h.positive room) room found⟩
  | tooHigh room high => exact ⟨count, h⟩
  | ungrown full grown => exact h.grow grown
  | opened full grow found =>
    cases grow with
    | @mapped requested address _ log next asked =>
      have room := (GrowExit.mapped next asked).room full
      exact ⟨_, (h.append address).take (by omega) room found⟩
  | openedTooHigh full grow high => exact h.grow grow

theorem step (h : Kept s count) (step : Step s t) : ∃ count', Kept t count' := by
  cases step with
  | @getSlot τ _ mapPage env => exact h.getSlot (getSlot_exit mapPage h.packed env)
  | @grow τ _ mapPage env => exact h.grow (grow_exit mapPage s.list env)

theorem length (h : Kept s count) : s.slots.length = count - 1 := by
  have lengths := congrArg List.length h.slots
  rwa [List.length_map, List.length_map, List.length_range'] at lengths

theorem getElem_slots (h : Kept s count) {k : Nat} (inside : k < s.slots.length) :
    s.slots[k].toNat = s.list.nthPlace (k + 1) := by
  have here := List.getElem_of_eq h.slots (by rwa [List.length_map] : k < _)
  rw [List.getElem_map, List.getElem_map, List.getElem_range', Nat.one_mul, Nat.add_comm] at here
  exact here

theorem room_of_free (h : Kept s count) (free : ∃ page ∈ s.list.pages, page.isFull = false) :
    count < tlsSlots * s.list.addresses.length := by
  refine Nat.lt_of_le_of_ne h.packed.bound fun full => ?_
  obtain ⟨page, mem, notFull⟩ := free
  rw [h.packed.all_full_iff.mpr full page mem] at notFull
  cases notFull

theorem length_of_room (h : Kept s count) (room : count < tlsSlots * s.list.addresses.length) :
    s.slots.length + 1 = count := by
  have length := h.length
  have some := h.positive room
  omega

section Next
variable {τ : Type} {mapPage : VirtAddr → Action τ VirtAddr} {env : τ}

theorem given (h : Kept s count) (free : ∃ page ∈ s.list.pages, page.isFull = false) :
    (TlsPageList.getSlot mapPage (s.list, env)).outcome = s.list.nthSlot (s.slots.length + 1) ∧
      (TlsPageList.getSlot mapPage (s.list, env)).state.2 = env := by
  have room := h.room_of_free free
  rw [h.length_of_room room]
  exact (getSlot_exit mapPage h.packed env).given room

theorem givenNew (h : Kept s count) (full : ∀ page ∈ s.list.pages, page.isFull = true)
    {requested address : VirtAddr} {after : τ} {log : List LogRecord}
    (next : s.list.nextPageAddress = .ok requested)
    (asked : mapPage requested env = ⟨.ok address, after, log⟩) :
    (TlsPageList.getSlot mapPage (s.list, env)).outcome =
        (s.list.append (s.list.opening address)).nthSlot (s.slots.length + 1) ∧
      (TlsPageList.getSlot mapPage (s.list, env)).state.2 = after := by
  have number : s.slots.length + 1 = max 1 count := by
    have length := h.length
    omega
  rw [number]
  exact (getSlot_exit mapPage h.packed env).given_of_mapped (h.packed.all_full_iff.mp full) next
    asked

end Next

end Kept

theorem Reachable.kept {base : VirtAddr} {s : TlsRun} (h : Reachable base s) :
    ∃ count, Kept s count := by
  induction h with
  | start => exact ⟨0, .new base, rfl⟩
  | step _ step ih =>
    obtain ⟨count, kept⟩ := ih
    exact kept.step step

namespace Kept

variable {s : TlsRun} {count : Nat}

/-- The marks of a page are those of the kept slot and of the slots that were taken. -/
theorem marked (h : Kept s count) {page : Nat} (inside : page < s.list.pages.length)
    (slot : UInt8) :
    s.list.pages[page].isReserved slot = true ↔
      (page, slot.toNat) = (0, 0) ∨
        (page, slot.toNat) ∈ (slotOrder s.list.pages.length).take s.slots.length := by
  have bound := h.packed.bound
  have small := Nat.min_le_right (count - tlsSlots * page) tlsSlots
  rw [length_addresses] at bound
  rw [h.length, take_slotOrder (Nat.sub_le_sub_right bound 1), List.mem_map]
  have address : page < s.list.addresses.length := by rwa [length_addresses]
  have here : s.list.pages[page] =
      .filled s.list.addresses[page] (min (count - tlsSlots * page) tlsSlots) := by
    rw [← getElem_fill count address (by rwa [length_fill])]
    congr 1
    exact h.packed.pages
  rw [here, TlsPage.isReserved_filled _ small]
  unfold tlsSlots at *
  constructor
  · intro taken
    -- every position before the count was taken in the run, but for the first, which is kept
    by_cases first : page = 0 ∧ slot.toNat = 0
    · exact .inl (by rw [first.1, first.2])
    · refine .inr ⟨8 * page + slot.toNat, List.mem_range'_1.mpr (by omega), ?_⟩
      rw [Prod.mk.injEq]
      omega
  · rintro (first | ⟨k, mem, same⟩)
    · rw [Prod.mk.injEq] at first
      have pages : 0 < s.list.addresses.length := by
        rw [length_addresses]
        exact Nat.zero_lt_of_lt inside
      have positive := h.packed.kept (List.ne_nil_of_length_pos pages)
      omega
    · rw [Prod.mk.injEq] at same
      have range := List.mem_range'_1.mp mem
      omega

end Kept

structure Orderly (s : TlsRun) : Prop where
  slots : s.slots.map UInt64.toNat <+:
    (slotOrder s.list.pages.length).map fun slot => s.list.place slot.1 slot.2
  marked : ∀ (page : Nat) (inside : page < s.list.pages.length) (slot : UInt8),
    s.list.pages[page].isReserved slot = true ↔
      (page, slot.toNat) = (0, 0) ∨
        (page, slot.toNat) ∈ (slotOrder s.list.pages.length).take s.slots.length
  next : ∀ page ∈ s.list.pages, page.nextSlot.toNat = page.taken.toList.count true
  /-- While a page has a slot left the next one in the order is given, as far as that has an address,
  and no page is mapped. -/
  given : ∀ {τ : Type} (mapPage : VirtAddr → Action τ VirtAddr) (t : τ),
    (∃ page ∈ s.list.pages, page.isFull = false) →
      (getSlot mapPage (s.list, t)).outcome = s.list.nthSlot (s.slots.length + 1) ∧
        (getSlot mapPage (s.list, t)).state.2 = t
  /-- A page that is mapped because all are full gives the next slot at once. -/
  givenNew : ∀ {τ : Type} (mapPage : VirtAddr → Action τ VirtAddr) (t : τ)
    (requested address : VirtAddr) (after : τ) (log : List LogRecord),
    (∀ page ∈ s.list.pages, page.isFull = true) → s.list.nextPageAddress = .ok requested →
      mapPage requested t = ⟨.ok address, after, log⟩ →
        (getSlot mapPage (s.list, t)).outcome =
            (s.list.append (s.list.opening address)).nthSlot (s.slots.length + 1) ∧
          (getSlot mapPage (s.list, t)).state.2 = after
  inRange : ∀ {τ : Type} (mapPage : VirtAddr → Action τ VirtAddr) (t : τ) (slot : UInt8),
    (getSlot mapPage (s.list, t)).outcome ≠ .error (.error (.slotOutOfRange slot))
  /-- A page is asked for when all are full and there is a next address, and then once, there. -/
  asked : ∀ {τ : Type} (mapPage : VirtAddr → Action τ VirtAddr) (t : τ),
    (getSlot (noted mapPage) (s.list, t, [])).state.2.2 =
      if ∀ page ∈ s.list.pages, page.isFull = true then s.list.nextPageAddress.toOption.toList
      else []
  getSlot_unchanged : ∀ {τ : Type} (mapPage : VirtAddr → Action τ VirtAddr) (t : τ) (fault : Fault),
    (getSlot mapPage (s.list, t)).outcome = .error fault →
      (getSlot mapPage (s.list, t)).state.1 = s.list ∨
        fault = .overflow ∧ ∃ page, (getSlot mapPage (s.list, t)).state.1 = s.list.append page
  grow_unchanged : ∀ {τ : Type} (mapPage : VirtAddr → Action τ VirtAddr) (t : τ) (fault : Fault),
    (grow mapPage (s.list, t)).outcome = .error fault →
      (grow mapPage (s.list, t)).state.1 = s.list

end TlsRun

end GuestKernel
