import Mathlib
import GuestKernel.Proofs.Tls.Filling

/-!
# What the calls on a list of pages leave

`GrowExit` and `SlotExit` list the ways in which mapping a page and taking a slot can end, each with
everything that the call has changed. The first holds of every list; the second of a list that is
`Packed`, that is, filled from the front with its very first slot kept. Whoever maps the pages may
place them anywhere, refuse, or fault.
-/

set_option autoImplicit false

namespace GuestKernel

namespace TlsPageList

def addresses (list : TlsPageList) : List VirtAddr := list.pages.map TlsPage.address

/-- The list with its pages filled from the front. -/
def filledTo (list : TlsPageList) (count : Nat) : TlsPageList :=
  { list with pages := fill count list.addresses }

/-- The first `count` slots of the pages are taken and no others, and the very first is, as soon as
there is a page. -/
structure Packed (list : TlsPageList) (count : Nat) : Prop where
  pages : list.pages = fill count list.addresses
  bound : count ≤ tlsSlots * list.addresses.length
  kept : list.addresses ≠ [] → 0 < count

/-- Where a slot of a page lies, as a number without a bound. -/
def place (list : TlsPageList) (page slot : Nat) : Nat :=
  (list.addresses[page]?.getD 0).toNat + tlsSlotSize.toNat * slot

/-- Where the slot lies that comes after so many others. -/
def nthPlace (list : TlsPageList) (count : Nat) : Nat :=
  list.place (count / tlsSlots) (count % tlsSlots)

/-- The address of the slot that comes after so many others, unless that lies beyond the last one. -/
def nthSlot (list : TlsPageList) (count : Nat) : Except Fault VirtAddr :=
  if list.nthPlace count < UInt64.size then .ok (.ofNat (list.nthPlace count)) else .error .overflow

/-- The page that is mapped next, at this address. -/
def opening (list : TlsPageList) (address : VirtAddr) : TlsPage :=
  .filled address (if list.pages.isEmpty then 1 else 0)

variable {list : TlsPageList} {count : Nat}

@[simp] theorem addresses_filledTo (list : TlsPageList) (count : Nat) :
    (list.filledTo count).addresses = list.addresses := address_fill count list.addresses

@[simp] theorem addresses_append (list : TlsPageList) (page : TlsPage) :
    (list.append page).addresses = list.addresses ++ [page.address] := by
  simp [addresses, append]

theorem length_addresses (list : TlsPageList) : list.addresses.length = list.pages.length :=
  List.length_map TlsPage.address

theorem place_of_mem {page : Nat} (h : page < list.addresses.length) (slot : Nat) :
    list.place page slot = list.addresses[page].toNat + tlsSlotSize.toNat * slot := by
  rw [place, List.getElem?_eq_getElem h, Option.getD_some]

theorem nthSlot_of_found {slot : VirtAddr} (found : slot.toNat = list.nthPlace count) :
    list.nthSlot count = .ok slot := by
  rw [nthSlot, ← found, if_pos slot.toNat_lt, UInt64.ofNat_toNat]

theorem nthSlot_of_high (high : UInt64.size ≤ list.nthPlace count) :
    list.nthSlot count = .error .overflow := if_neg (Nat.not_lt.mpr high)

theorem place_append (page : TlsPage) {i : Nat} (h : i < list.addresses.length) (slot : Nat) :
    (list.append page).place i slot = list.place i slot := by
  rw [place, place, addresses_append, List.getElem?_append_left h]

theorem place_congr {other : TlsPageList} (h : other.addresses = list.addresses) (page slot : Nat) :
    other.place page slot = list.place page slot := by
  rw [place, place, h]

theorem page_lt (h : count < tlsSlots * list.addresses.length) :
    count / tlsSlots < list.addresses.length :=
  Nat.div_lt_of_lt_mul h

theorem slot_lt (count : Nat) : count % tlsSlots < tlsSlots := Nat.mod_lt count (by decide)

theorem prepare_eq (list : TlsPageList) (address : VirtAddr) :
    list.prepare address = .ok (list.opening address) := by
  unfold prepare opening
  split
  · have origin : VirtAddr.plus address (TlsPage.offset 0) = .ok address := by
      apply VirtAddr.plus_eq_ok_iff.mpr
      rw [TlsPage.toNat_offset (by decide)]
      rfl
    rw [TlsPage.new_eq_filled, TlsPage.reserveSlot_filled address (by decide), origin]
    rfl
  · rw [TlsPage.new_eq_filled]

namespace Packed

theorem new (base : VirtAddr) : Packed (.new base) 0 := ⟨rfl, Nat.le_refl 0, fun h => absurd rfl h⟩

theorem count_of_empty (h : Packed list count) (none : list.addresses = []) : count = 0 := by
  have bound := h.bound
  rw [none] at bound
  exact Nat.le_zero.mp bound

theorem max_one (h : Packed list count) :
    max 1 count = if list.addresses = [] then 1 else count := by
  split
  · rename_i none
    rw [h.count_of_empty none]
    rfl
  · rename_i some
    have positive := h.kept some
    omega

theorem filledTo (h : Packed list count) {more : Nat} (up : count ≤ more)
    (room : more ≤ tlsSlots * list.addresses.length) : Packed (list.filledTo more) more := by
  refine ⟨?_, ?_, ?_⟩
  · rw [addresses_filledTo]
    rfl
  · rwa [addresses_filledTo]
  · rw [addresses_filledTo]
    intro some
    have positive := h.kept some
    omega

theorem append (h : Packed list count) (address : VirtAddr) :
    Packed (list.append (list.opening address)) (max 1 count) := by
  have bound := h.bound
  have more : (list.append (list.opening address)).addresses = list.addresses ++ [address] :=
    addresses_append list _
  refine ⟨?_, ?_, fun _ => by omega⟩
  · rw [more, h.max_one]
    change list.pages ++ [list.opening address] = _
    split
    · rename_i none
      have empty : list.pages = [] := List.map_eq_nil_iff.mp none
      rw [none, opening, empty]
      rfl
    · rename_i some
      have pages : list.pages ≠ [] := fun empty => some (List.map_eq_nil_iff.mpr empty)
      rw [fill_append bound, ← h.pages, opening, if_neg (by simpa using pages)]
  · rw [more, List.length_append, Nat.mul_add]
    have one : tlsSlots * [address].length = 8 := rfl
    omega

theorem all_full_iff (h : Packed list count) :
    (∀ page ∈ list.pages, page.isFull = true) ↔ count = tlsSlots * list.addresses.length := by
  have bound := h.bound
  rw [h.pages]
  constructor
  · intro full
    by_contra short
    have room : count < tlsSlots * list.addresses.length := by omega
    have inside := page_lt room
    have here := full _ (List.getElem_mem (by simpa using inside :
      count / tlsSlots < (fill count list.addresses).length))
    rw [getElem_fill count inside, TlsPage.isFull_filled _ (Nat.min_le_right _ _)] at here
    have split := Nat.div_add_mod count tlsSlots
    have small := slot_lt count
    omega
  · intro all page mem
    obtain ⟨i, bound, rfl⟩ := List.getElem_of_mem mem
    have inside : i < list.addresses.length := by rwa [length_fill] at bound
    rw [getElem_fill count inside, TlsPage.isFull_filled _ (Nat.min_le_right _ _)]
    have later : tlsSlots * (i + 1) ≤ count := all ▸ Nat.mul_le_mul_left tlsSlots inside
    rw [Nat.mul_add, Nat.mul_one] at later
    omega

theorem nextSlot (h : Packed list count) {page : TlsPage} (mem : page ∈ list.pages) :
    page.nextSlot.toNat = page.taken.toList.count true := by
  rw [h.pages] at mem
  obtain ⟨i, bound, rfl⟩ := List.getElem_of_mem mem
  have inside : i < list.addresses.length := by rwa [length_fill] at bound
  rw [getElem_fill count inside, TlsPage.toNat_nextSlot _ (Nat.min_le_right _ _),
    TlsPage.count_taken _ (Nat.min_le_right _ _)]

theorem reserveFirstFree_of_full (h : Packed list count)
    (full : count = tlsSlots * list.addresses.length) : reserveFirstFree list.pages = none := by
  rw [h.pages]
  exact reserveFirstFree_fill_of_full (Nat.le_of_eq full.symm)

end Packed

variable {τ : Type}

inductive GrowExit (mapPage : VirtAddr → Action τ VirtAddr) (list : TlsPageList) (t : τ) :
    Except Fault TlsPage → TlsPageList × τ → Prop where
  | unasked (high : list.nextPageAddress = .error .overflow) :
      GrowExit mapPage list t (.error .overflow) (list, t)
  | unmapped {requested : VirtAddr} {fault : Fault} {after : τ} {log : List LogRecord}
      (next : list.nextPageAddress = .ok requested)
      (asked : mapPage requested t = ⟨.error fault, after, log⟩) :
      GrowExit mapPage list t (.error (fault.reword (mappingRefusal requested))) (list, after)
  | mapped {requested address : VirtAddr} {after : τ} {log : List LogRecord}
      (next : list.nextPageAddress = .ok requested)
      (asked : mapPage requested t = ⟨.ok address, after, log⟩) :
      GrowExit mapPage list t (.ok (list.opening address))
        (list.append (list.opening address), after)

theorem nextPageAddress_error {fault : Fault} (h : list.nextPageAddress = .error fault) :
    fault = .overflow := by
  unfold nextPageAddress at h
  split at h
  · cases h
  · exact (VirtAddr.plus_eq_error_iff.mp h).1

theorem grow_exit (mapPage : VirtAddr → Action τ VirtAddr) (list : TlsPageList) (t : τ) :
    GrowExit mapPage list t (grow mapPage (list, t)).outcome (grow mapPage (list, t)).state := by
  unfold grow
  simp only [Action.bind_apply, Action.onFirst, Action.onPart_apply, Action.current_apply,
    Action.andThen_ok, Action.done_apply]
  cases next : list.nextPageAddress with
  | error fault =>
    have high := nextPageAddress_error next
    subst high
    exact .unasked next
  | ok requested =>
    have outcome := Action.mapRefusal_outcome t (mappingRefusal requested) (mapPage requested)
    have state := Action.mapRefusal_state t (mappingRefusal requested) (mapPage requested)
    rcases reworded : Action.mapRefusal (mappingRefusal requested) (mapPage requested) t with
      ⟨answer, after, log⟩
    rcases asked : mapPage requested t with ⟨answer', after', log'⟩
    rw [reworded, asked] at outcome state
    simp only at outcome state
    subst outcome state
    simp only [Action.andThen_ok, Action.bind_apply, Action.onSecond, Action.onPart_apply, reworded]
    cases answer' with
    | error fault => exact .unmapped next asked
    | ok address =>
      simp only [Except.mapError, Action.andThen_ok, Action.bind_apply, Action.done_apply,
        prepare_eq]
      exact .mapped next asked

inductive SlotExit (mapPage : VirtAddr → Action τ VirtAddr) (list : TlsPageList) (count : Nat)
    (t : τ) : Except Fault VirtAddr → TlsPageList × τ → Prop where
  | taken {slot : VirtAddr} (room : count < tlsSlots * list.addresses.length)
      (found : slot.toNat = list.nthPlace count) :
      SlotExit mapPage list count t (.ok slot) (list.filledTo (count + 1), t)
  | tooHigh (room : count < tlsSlots * list.addresses.length)
      (high : UInt64.size ≤ list.nthPlace count) :
      SlotExit mapPage list count t (.error .overflow) (list, t)
  | ungrown {fault : Fault} {state : TlsPageList × τ}
      (full : count = tlsSlots * list.addresses.length)
      (grown : GrowExit mapPage list t (.error fault) state) :
      SlotExit mapPage list count t (.error fault) state
  | opened {page : TlsPage} {grown : TlsPageList} {after : τ} {slot : VirtAddr}
      (full : count = tlsSlots * list.addresses.length)
      (grow : GrowExit mapPage list t (.ok page) (grown, after))
      (found : slot.toNat = grown.nthPlace (max 1 count)) :
      SlotExit mapPage list count t (.ok slot) (grown.filledTo (max 1 count + 1), after)
  | openedTooHigh {page : TlsPage} {grown : TlsPageList} {after : τ}
      (full : count = tlsSlots * list.addresses.length)
      (grow : GrowExit mapPage list t (.ok page) (grown, after))
      (high : UInt64.size ≤ grown.nthPlace (max 1 count)) :
      SlotExit mapPage list count t (.error .overflow) (grown, after)

/-- A refusal to map a page is never one of a page's own. -/
theorem mappingRefusal_ne_slotOutOfRange (requested : VirtAddr) (cause : KernelError)
    (slot : UInt8) : mappingRefusal requested cause ≠ .slotOutOfRange slot := by
  cases cause <;> simp [mappingRefusal, KernelError.unresolvedTls]

section Exits
variable {mapPage : VirtAddr → Action τ VirtAddr} {t : τ} {state : TlsPageList × τ}

theorem GrowExit.inRange {outcome : Except Fault TlsPage}
    (exit : GrowExit mapPage list t outcome state) (slot : UInt8) :
    outcome ≠ .error (.error (.slotOutOfRange slot)) := by
  cases exit with
  | unasked high => simp
  | @unmapped requested fault after log next asked =>
    cases fault with
    | error cause => simpa [Fault.reword] using mappingRefusal_ne_slotOutOfRange requested cause slot
    | overflow => simp [Fault.reword]
    | bufferTooLarge => simp [Fault.reword]
  | mapped next asked => simp

theorem SlotExit.inRange {outcome : Except Fault VirtAddr}
    (exit : SlotExit mapPage list count t outcome state) (slot : UInt8) :
    outcome ≠ .error (.error (.slotOutOfRange slot)) := by
  cases exit with
  | taken room found => simp
  | tooHigh room high => simp
  | ungrown full grown =>
    intro same
    exact grown.inRange slot (congrArg Except.error (Except.error.inj same))
  | opened full grow found => simp
  | openedTooHigh full grow high => simp

/-- While a page has a slot left the next slot is given, and nobody is asked for a page. -/
theorem SlotExit.given {outcome : Except Fault VirtAddr}
    (exit : SlotExit mapPage list count t outcome state)
    (room : count < tlsSlots * list.addresses.length) :
    outcome = list.nthSlot count ∧ state.2 = t := by
  cases exit with
  | taken _ found => exact ⟨(nthSlot_of_found found).symm, rfl⟩
  | tooHigh _ high => exact ⟨(nthSlot_of_high high).symm, rfl⟩
  | ungrown full | opened full | openedTooHigh full => omega

/-- A page that is mapped because all are full gives its next slot at once. -/
theorem SlotExit.given_of_mapped {outcome : Except Fault VirtAddr}
    (exit : SlotExit mapPage list count t outcome state)
    (full : count = tlsSlots * list.addresses.length) {requested address : VirtAddr} {after : τ}
    {log : List LogRecord} (next : list.nextPageAddress = .ok requested)
    (asked : mapPage requested t = ⟨.ok address, after, log⟩) :
    outcome = (list.append (list.opening address)).nthSlot (max 1 count) ∧ state.2 = after := by
  have mapped : ∀ {page : TlsPage} {grown : TlsPageList} {left : τ},
      GrowExit mapPage list t (.ok page) (grown, left) →
        grown = list.append (list.opening address) ∧ left = after := by
    intro page grown left grow
    cases grow with
    | mapped next' asked' =>
      cases next.symm.trans next'
      cases asked.symm.trans asked'
      exact ⟨rfl, rfl⟩
  cases exit with
  | taken room | tooHigh room => omega
  | @ungrown fault _ _ grown =>
    generalize refused : Except.error fault = answer at grown
    cases grown with
    | unasked high => cases next.symm.trans high
    | unmapped next' asked' =>
      cases next.symm.trans next'
      cases asked.symm.trans asked'
    | mapped => cases refused
  | opened _ grow found =>
    obtain ⟨rfl, rfl⟩ := mapped grow
    exact ⟨(nthSlot_of_found found).symm, rfl⟩
  | openedTooHigh _ grow high =>
    obtain ⟨rfl, rfl⟩ := mapped grow
    exact ⟨(nthSlot_of_high high).symm, rfl⟩

theorem GrowExit.unchanged {outcome : Except Fault TlsPage} {fault : Fault}
    (exit : GrowExit mapPage list t outcome state) (failed : outcome = .error fault) :
    state.1 = list := by
  cases exit with
  | unasked high => rfl
  | unmapped next asked => rfl
  | mapped next asked => cases failed

/-- A call that takes no slot leaves the list as it is, or has mapped a page whose next slot has no
address. -/
theorem SlotExit.unchanged {outcome : Except Fault VirtAddr} {fault : Fault}
    (exit : SlotExit mapPage list count t outcome state) (failed : outcome = .error fault) :
    state.1 = list ∨ fault = .overflow ∧ ∃ page, state.1 = list.append page := by
  cases exit with
  | taken room found => cases failed
  | tooHigh room high => exact .inl rfl
  | ungrown full grown => exact .inl (grown.unchanged rfl)
  | opened full grow found => cases failed
  | openedTooHigh full grow high =>
    cases failed
    cases grow with
    | mapped next asked => exact .inr ⟨rfl, _, rfl⟩

/-- A page that a full list was grown by has its next slot free. -/
theorem GrowExit.room {page : TlsPage} {grown : TlsPageList} {after : τ}
    (exit : GrowExit mapPage list t (.ok page) (grown, after))
    (full : count = tlsSlots * list.addresses.length) :
    max 1 count < tlsSlots * grown.addresses.length := by
  cases exit with
  | mapped next asked =>
    rw [addresses_append, List.length_append, List.length_singleton, full]
    unfold tlsSlots
    omega

end Exits

theorem reserveFirstFree_of_packed (h : Packed list count)
    (room : count < tlsSlots * list.addresses.length) :
    (∃ slot : VirtAddr, slot.toNat = list.nthPlace count ∧ reserveFirstFree list.pages =
      some (.ok (slot, (list.filledTo (count + 1)).pages))) ∨
    (UInt64.size ≤ list.nthPlace count ∧ reserveFirstFree list.pages =
      some (.error .overflow)) := by
  have inside := page_lt room
  have sum : list.addresses[count / tlsSlots].toNat + (TlsPage.offset (count % tlsSlots)).toNat =
      list.nthPlace count := by
    rw [TlsPage.toNat_offset (slot_lt count), nthPlace, place_of_mem inside]
    rfl
  rw [h.pages, reserveFirstFree_fill room inside]
  cases found : VirtAddr.plus list.addresses[count / tlsSlots]
    (TlsPage.offset (count % tlsSlots)) with
  | ok slot => exact .inl ⟨slot, (VirtAddr.plus_eq_ok_iff.mp found).trans sum, rfl⟩
  | error fault =>
    obtain ⟨rfl, high⟩ := VirtAddr.plus_eq_error_iff.mp found
    exact .inr ⟨sum ▸ high, rfl⟩

theorem reserveMapped_of_none (h : reserveFirstFree list.pages = none) :
    reserveMapped list = ⟨.ok none, list, []⟩ := by
  simp [reserveMapped, h]

theorem reserveMapped_of_some {outcome : Except Fault (VirtAddr × List TlsPage)}
    (h : reserveFirstFree list.pages = some outcome) :
    reserveMapped list = match outcome with
      | .ok (slot, pages) => ⟨.ok (some slot), { list with pages }, []⟩
      | .error fault => ⟨.error fault, list, []⟩ := by
  cases outcome <;> simp [reserveMapped, h]

/-- Without a free slot a page is mapped, and the first slot of that is taken that is not kept. -/
theorem getSlot_of_none (mapPage : VirtAddr → Action τ VirtAddr) (t : τ)
    (h : reserveFirstFree list.pages = none) :
    getSlot mapPage (list, t) = Action.andThen (grow mapPage (list, t)) (fun page => do
      let (address, page) ← .done page.reserveSlot
      .onFirst (.update fun list => list.replaceLast page)
      return address) := by
  simp only [getSlot, Action.bind_apply, Action.onFirst, Action.onPart_apply,
    reserveMapped_of_none h, Action.andThen_ok, List.nil_append]

theorem opening_reserveSlot (h : Packed list count)
    (full : count = tlsSlots * list.addresses.length) (address : VirtAddr) :
    (∃ (slot : VirtAddr) (page : TlsPage),
      slot.toNat = (list.append (list.opening address)).nthPlace (max 1 count) ∧
      (list.opening address).reserveSlot = .ok (slot, page) ∧
      (list.append (list.opening address)).replaceLast page =
        (list.append (list.opening address)).filledTo (max 1 count + 1)) ∨
    (UInt64.size ≤ (list.append (list.opening address)).nthPlace (max 1 count) ∧
      (list.opening address).reserveSlot = .error .overflow) := by
  -- the very first page opens with its kept slot taken, every later one with none
  obtain ⟨own, short, opening, position⟩ : ∃ own < 2,
      list.opening address = .filled address own ∧ max 1 count = count + own := by
    rw [h.max_one, opening]
    by_cases none : list.addresses = []
    · have empty : list.pages = [] := List.map_eq_nil_iff.mp none
      exact ⟨1, by decide, by rw [empty]; rfl, by rw [if_pos none, h.count_of_empty none]⟩
    · have pages : list.pages ≠ [] := fun empty => none (List.map_eq_nil_iff.mpr empty)
      exact ⟨0, by decide, by rw [if_neg (by simpa using pages)], by rw [if_neg none]; rfl⟩
  have room : own < tlsSlots := Nat.lt_trans short (by decide)
  have sum : address.toNat + (TlsPage.offset own).toNat =
      (list.append (.filled address own)).nthPlace (count + own) := by
    have last : (list.append (.filled address own)).addresses[list.addresses.length]?.getD 0 =
        address := by
      rw [addresses_append, List.getElem?_concat_length]
      rfl
    have page : (count + own) / tlsSlots = list.addresses.length := by
      rw [full, Nat.mul_add_div (by decide), Nat.div_eq_of_lt room, Nat.add_zero]
    have slot : (count + own) % tlsSlots = own := by
      rw [full, Nat.mul_add_mod, Nat.mod_eq_of_lt room]
    rw [TlsPage.toNat_offset room, nthPlace, page, slot, place, last]
    rfl
  rw [opening, position, TlsPage.reserveSlot_filled address room]
  cases found : VirtAddr.plus address (TlsPage.offset own) with
  | ok slot =>
    refine .inl ⟨slot, .filled address (own + 1), ?_, rfl, ?_⟩
    · exact (VirtAddr.plus_eq_ok_iff.mp found).trans sum
    · have grown := fill_append_of_full full address (n := own + 1) (by omega)
      unfold filledTo replaceLast
      rw [addresses_append]
      change _ = { list.append _ with pages := fill (count + (own + 1)) (list.addresses ++ [address]) }
      rw [grown, ← h.pages]
      simp only [append, List.dropLast_concat]
  | error fault =>
    obtain ⟨rfl, high⟩ := VirtAddr.plus_eq_error_iff.mp found
    exact .inr ⟨sum ▸ high, rfl⟩

theorem getSlot_exit (mapPage : VirtAddr → Action τ VirtAddr) (h : Packed list count) (t : τ) :
    SlotExit mapPage list count t (getSlot mapPage (list, t)).outcome
      (getSlot mapPage (list, t)).state := by
  rcases Nat.lt_or_eq_of_le h.bound with room | full
  · rcases reserveFirstFree_of_packed h room with ⟨slot, found, first⟩ | ⟨high, first⟩
    · simp only [getSlot, Action.bind_apply, Action.onFirst, Action.onPart_apply,
        reserveMapped_of_some first, Action.andThen_ok]
      exact .taken room found
    · simp only [getSlot, Action.bind_apply, Action.onFirst, Action.onPart_apply,
        reserveMapped_of_some first, Action.andThen_error]
      exact .tooHigh room high
  · rw [getSlot_of_none mapPage t (h.reserveFirstFree_of_full full)]
    have exit := grow_exit mapPage list t
    rcases grown : grow mapPage (list, t) with ⟨answer, state, log⟩
    rw [grown] at exit
    cases answer with
    | error fault => exact .ungrown full exit
    | ok page =>
      cases exit with
      | @mapped requested address after log' next asked =>
        rcases opening_reserveSlot h full address with
          ⟨slot, page, found, reserved, replaced⟩ | ⟨high, reserved⟩
        · simp only [Action.andThen_ok, Action.bind_apply, Action.done_apply, reserved,
            Action.onFirst, Action.onPart_apply, Action.update_apply, replaced]
          exact .opened full (.mapped next asked) found
        · simp only [Action.andThen_ok, Action.bind_apply, Action.done_apply, reserved,
            Action.andThen_error]
          exact .openedTooHigh full (.mapped next asked) high

/-- A full list whose next page is refused stays as it is. -/
theorem getSlot_of_refused {mapPage : VirtAddr → Action τ VirtAddr} {t after : τ}
    {requested : VirtAddr} {cause : KernelError} {log : List LogRecord} (h : Packed list count)
    (full : count = tlsSlots * list.addresses.length) (next : list.nextPageAddress = .ok requested)
    (asked : mapPage requested t = ⟨.error (.error cause), after, log⟩) :
    getSlot mapPage (list, t) =
      ⟨.error (.error (mappingRefusal requested cause)), (list, after), log⟩ := by
  rw [getSlot_of_none mapPage t (h.reserveFirstFree_of_full full), grow]
  simp only [Action.bind_apply, Action.onFirst, Action.onSecond, Action.onPart_apply,
    Action.current_apply, Action.andThen_ok, Action.done_apply, next, Action.mapRefusal, asked,
    Action.andThen_error, List.nil_append]

end TlsPageList

end GuestKernel
