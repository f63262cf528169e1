import Mathlib
import GuestKernel.Proofs.Tls.Moves
import GuestKernel.Proofs.Tls.Order

/-!
# Where the thread-local storage of a process lies

The slots of a process are taken in order, whatever else it does. With an allocator that maps pages
where it is asked to, the pages follow each other from the start of the area on and each begins
inside it, which is `Placed`; the slots then follow each other as well.
-/

set_option autoImplicit false

namespace GuestKernel

open TlsPageList GuestProcess

/-- The pages follow each other from the start of the area on, and each begins inside it. -/
structure Placed (layout : GuestLayout) (list : TlsPageList) : Prop where
  base : list.base = layout.tlsBase
  follow : ∀ (i : Nat) (h : i < list.addresses.length),
    list.addresses[i].toNat = layout.tlsBase.toNat + pageSize.toNat * i
  begin : ∀ i < list.addresses.length, pageSize.toNat * i < layout.tlsSize.toNat

namespace Placed

variable {layout : GuestLayout} {list : TlsPageList}

theorem new (layout : GuestLayout) : Placed layout (.new layout.tlsBase) :=
  ⟨rfl, fun _ h => absurd h (Nat.not_lt_zero _), fun _ h => absurd h (Nat.not_lt_zero _)⟩

theorem filledTo (h : Placed layout list) (count : Nat) : Placed layout (list.filledTo count) := by
  refine ⟨h.base, ?_, ?_⟩
  · intro i inside
    simp only [addresses_filledTo] at inside ⊢
    exact h.follow i inside
  · rw [addresses_filledTo]
    exact h.begin

theorem nextPageAddress_eq_ok_iff (h : Placed layout list) {address : VirtAddr} :
    list.nextPageAddress = .ok address ↔
      address.toNat = layout.tlsBase.toNat + pageSize.toNat * list.addresses.length := by
  unfold nextPageAddress
  cases last : list.pages.getLast? with
  | none =>
    have empty : list.addresses = [] := by
      rw [addresses, List.getLast?_eq_none_iff.mp last]
      rfl
    rw [empty, h.base, Except.ok.injEq, ← UInt64.toNat_inj]
    exact eq_comm
  | some page =>
    have there : list.addresses[list.addresses.length - 1]? = some page.address := by
      rw [← List.getLast?_eq_getElem?, addresses, List.getLast?_map, last]
      rfl
    obtain ⟨inside, here⟩ := List.getElem?_eq_some_iff.mp there
    have start := h.follow _ inside
    rw [here, toNat_pageSize] at start
    dsimp only
    rw [VirtAddr.plus_eq_ok_iff, toNat_pageSize]
    omega

/-- Without a next address the area would have to reach beyond the last one. -/
theorem nextPageAddress_ne_error (h : Placed layout list) (fault : Fault)
    (fits : layout.tlsBase.toNat + pageSize.toNat * list.addresses.length < UInt64.size) :
    list.nextPageAddress ≠ .error fault := by
  have next := h.nextPageAddress_eq_ok_iff.mpr (UInt64.toNat_ofNat_of_lt' fits)
  rw [next]
  exact nofun

theorem append (h : Placed layout list) {address : VirtAddr}
    (next : list.nextPageAddress = .ok address) (inside : layout.isTlsAddress address = .ok true) :
    Placed layout (list.append (list.opening address)) := by
  have start := h.nextPageAddress_eq_ok_iff.mp next
  have low := (GuestLayout.isTlsAddress_eq_true_iff.mp inside).2.1
  have more : (list.append (list.opening address)).addresses = list.addresses ++ [address] :=
    addresses_append list _
  refine ⟨h.base, ?_, ?_⟩
  · intro i bound
    simp only [more, List.length_append, List.length_singleton] at bound ⊢
    rcases Nat.lt_succ_iff_lt_or_eq.mp bound with old | rfl
    · rw [List.getElem_append_left old, h.follow i old]
    · rw [List.getElem_concat_length rfl, start]
  · intro i bound
    rw [more, List.length_append, List.length_singleton] at bound
    rcases Nat.lt_succ_iff_lt_or_eq.mp bound with old | rfl
    · exact h.begin i old
    · omega

section Moves
variable {A : Type} [PlacingAllocator A] {t : HandleTable × A} {state : TlsPageList × HandleTable × A}

theorem grow (h : Placed layout list) {outcome : Except Fault TlsPage}
    (exit : GrowExit (mapTlsPage layout) list t outcome state) : Placed layout state.1 := by
  cases exit with
  | unasked high => exact h
  | unmapped next asked => exact h
  | mapped next asked =>
    obtain ⟨rfl, inside⟩ := mapTlsPage_ok asked
    exact h.append next inside

theorem getSlot (h : Placed layout list) {count : Nat} {outcome : Except Fault VirtAddr}
    (exit : SlotExit (mapTlsPage layout) list count t outcome state) : Placed layout state.1 := by
  cases exit with
  | taken room found => exact h.filledTo _
  | tooHigh room high => exact h
  | ungrown full grown => exact h.grow grown
  | opened full grow found => exact (h.grow grow).filledTo _
  | openedTooHigh full grow high => exact h.grow grow

theorem move (h : Placed layout list) {count : Nat} (packed : list.Packed count)
    {slot : Option VirtAddr} {more : TlsPageList} (move : TlsMove A layout list slot more) :
    Placed layout more := by
  cases move with
  | idle => exact h
  | getSlot t => exact h.getSlot (getSlot_exit _ packed t)
  | grow t => exact h.grow (grow_exit _ list t)

end Moves

/-- Slots that follow each other in order do so in memory. -/
theorem nthPlace_eq (h : Placed layout list) {count : Nat}
    (room : count < tlsSlots * list.addresses.length) :
    list.nthPlace count = layout.tlsBase.toNat + tlsSlotSize.toNat * count := by
  have page := page_lt room
  rw [nthPlace, place_of_mem page, h.follow _ page, toNat_pageSize, toNat_tlsSlotSize]
  unfold tlsSlots
  omega

end Placed

/-- Taking slots of a process is taking slots of its pages. -/
theorem TlsRun.Kept.move {A : Type} [RegionAllocator A] {layout : GuestLayout}
    {list more : TlsPageList} {slots : List VirtAddr} {slot : Option VirtAddr} {count : Nat}
    (h : TlsRun.Kept ⟨list, slots⟩ count) (move : TlsMove A layout list slot more) :
    ∃ count', TlsRun.Kept ⟨more, slots ++ slot.toList⟩ count' := by
  cases move with
  | idle =>
    rw [Option.toList_none, List.append_nil]
    exact ⟨count, h⟩
  | getSlot t =>
    have given : ∀ outcome : Except Fault VirtAddr,
        TlsRun.give ⟨list, slots⟩ outcome = slots ++ outcome.toOption.toList := by
      rintro (fault | slot)
      · exact (List.append_nil slots).symm
      · rfl
    rw [← given]
    exact h.getSlot (getSlot_exit _ h.packed t)
  | grow t =>
    rw [Option.toList_none, List.append_nil]
    exact h.grow (grow_exit _ list t)

namespace ProcessRun

variable {M A F : Type}

/-- The slots that were taken in a run, the first one first. -/
def slots [RegionAllocator A] (s : ProcessRun M A F) : List VirtAddr :=
  s.calls.filterMap fun made => made.2.slot? made.1

/-- The slots of a run are taken in order, of pages that follow each other. -/
structure Located [RegionAllocator A] (config : ProcessConfig) (s : ProcessRun M A F)
    (count : Nat) : Prop where
  same : s.process.config = config
  kept : TlsRun.Kept ⟨s.process.tlsPages, s.slots⟩ count
  placed : Placed config.layout s.process.tlsPages

theorem Located.getElem_slots [RegionAllocator A] {config : ProcessConfig} {s : ProcessRun M A F}
    {count : Nat} (h : Located config s count) {k : Nat} (inside : k < s.slots.length) :
    s.slots[k].toNat = config.layout.tlsBase.toNat + tlsSlotSize.toNat * (k + 1) := by
  have length := h.kept.length
  have bound := h.kept.packed.bound
  refine (h.kept.getElem_slots inside).trans (h.placed.nthPlace_eq ?_)
  dsimp only at length bound
  omega

variable [MemoryChannel M] [ThreadFactory F]

theorem slots_after [RegionAllocator A] (s : ProcessRun M A F) (call : ProcessCall M A F) :
    (s.after call).slots = s.slots ++ (call.slot? s.process).toList :=
  filterMap_after _ s call

variable [PlacingAllocator A] {config : ProcessConfig} {s : ProcessRun M A F}

theorem Located.after {count : Nat} (h : Located config s count) (call : ProcessCall M A F) :
    ∃ count', Located config (s.after call) count' := by
  have moved := call.moved s.process
  have pages := moved.pages
  obtain ⟨count', kept⟩ := h.kept.move pages
  rw [h.same] at pages
  refine ⟨count', moved.config.trans h.same, ?_, h.placed.move h.kept.packed pages⟩
  rw [slots_after]
  exact kept

theorem Reachable.located (h : Reachable config s) : ∃ count, Located config s count := by
  induction h with
  | start index channel allocator factory => exact ⟨0, rfl, ⟨.new _, rfl⟩, .new config.layout⟩
  | call _ call ih =>
    obtain ⟨count, located⟩ := ih
    exact located.after call

end ProcessRun

end GuestKernel
