import Mathlib
import GuestKernel.Memory.Window
import GuestKernel.Proofs.Tls.AddressSums
import GuestKernel.Scripted.Factory

/-!
# How many slots of thread-local storage a process can take

An area of `n` whole pages gives `8 * n - 1` slots, one after the other behind the slot that is kept.
`ProcessRun.Metered` says this of a run in which pages may be refused, handles may run out, and
threads may come to nothing after their slot was taken. A slot that is left on a page is given in any
case; before the last one the next page brings one if the allocator grants it and a handle is left.
Once the area is used up the allocator is not asked any more.
-/

set_option autoImplicit false

namespace GuestKernel

open TlsPageList GuestProcess

/-- The area is made of so many whole pages, and an address follows it. -/
structure GuestLayout.Paged (layout : GuestLayout) (n : Nat) : Prop where
  size : layout.tlsSize.toNat = pageSize.toNat * n
  fits : layout.tlsBase.toNat + layout.tlsSize.toNat < UInt64.size

theorem GuestLayout.Paged.clear {layout : GuestLayout} {n : Nat} (paged : layout.Paged n) :
    layout.tlsBase.toNat + layout.covered < UInt64.size := by
  rw [covered_of_dvd ⟨n, paged.size⟩]
  exact paged.fits

namespace Placed

variable {layout : GuestLayout} {list : TlsPageList} {count n : Nat}

theorem length_le (h : Placed layout list) (paged : layout.Paged n) :
    list.addresses.length ≤ n := by
  by_contra more
  have start := h.begin n (Nat.lt_of_not_le more)
  have size := paged.size
  omega

theorem nthSlot_eq (h : Placed layout list)
    (clear : layout.tlsBase.toNat + layout.covered < UInt64.size)
    (room : count < tlsSlots * list.addresses.length) :
    ∃ slot : VirtAddr, list.nthSlot count = .ok slot ∧
      slot.toNat = layout.tlsBase.toNat + tlsSlotSize.toNat * count := by
  have low := h.nthPlace_lt clear room
  refine ⟨.ofNat (list.nthPlace count), if_pos low, ?_⟩
  rw [UInt64.toNat_ofNat_of_lt' low, h.nthPlace_eq room]

/-- The page behind those of an area that is not used up begins inside it. -/
theorem next_inside (h : Placed layout list) (paged : layout.Paged n)
    (few : list.addresses.length < n) : ∃ requested : VirtAddr,
      requested.toNat = layout.tlsBase.toNat + pageSize.toNat * list.addresses.length ∧
        list.nextPageAddress = .ok requested ∧ layout.isTlsAddress requested = .ok true := by
  have fits := paged.fits
  have size := paged.size
  have inside : pageSize.toNat * list.addresses.length < pageSize.toNat * n :=
    Nat.mul_lt_mul_of_pos_left few (by decide)
  have place : layout.tlsBase.toNat + pageSize.toNat * list.addresses.length < UInt64.size := by
    omega
  have there : (UInt64.ofNat (layout.tlsBase.toNat +
      pageSize.toNat * list.addresses.length)).toNat = _ := UInt64.toNat_ofNat_of_lt' place
  refine ⟨_, there, h.nextPageAddress_eq_ok_iff.mpr there, ?_⟩
  rw [GuestLayout.isTlsAddress_eq_true_iff, there]
  omega

/-- Behind the last page of the area another one is refused. -/
theorem getSlot_of_used_up {A : Type} [RegionAllocator A] {t : HandleTable × A}
    (h : Placed layout list) (packed : list.Packed count) (paged : layout.Paged n)
    (all : count = tlsSlots * n) :
    TlsPageList.getSlot (mapTlsPage layout) (list, t) =
      ⟨.error (.error (.unresolvedTlsAllocation (layout.tlsBase + layout.tlsSize) tlsAreaExhausted)),
        (list, t), []⟩ := by
  have few := h.length_le paged
  have bound := packed.bound
  have pages : list.addresses.length = n := by
    unfold tlsSlots at all bound
    omega
  have finish : (layout.tlsBase + layout.tlsSize).toNat =
      layout.tlsBase.toNat + layout.tlsSize.toNat := by
    rw [UInt64.toNat_add, Nat.mod_eq_of_lt paged.fits]
  have next : list.nextPageAddress = .ok (layout.tlsBase + layout.tlsSize) := by
    rw [h.nextPageAddress_eq_ok_iff, pages, finish, paged.size]
  have outside := GuestLayout.isTlsAddress_of_le paged.fits (Nat.le_of_eq finish.symm)
  exact getSlot_of_refused packed (pages.symm ▸ all) next (mapTlsPage_of_outside t outside)

end Placed

namespace GuestProcess

variable {M A F : Type} {layout : GuestLayout} {p : GuestProcess M A F}

/-- Taking a slot gives the one that lies so many behind the start of the area. -/
def Serves [RegionAllocator A] (layout : GuestLayout) (number : Nat) (p : GuestProcess M A F) :
    Prop :=
  ∃ slot : VirtAddr, (getTlsSlot p).outcome = .ok slot ∧
    slot.toNat = layout.tlsBase.toNat + tlsSlotSize.toNat * number

/-- Taking a slot gives that one whatever the allocator does, and only the pages change. -/
def Spare (layout : GuestLayout) (number : Nat) (p : GuestProcess M A F) : Prop :=
  ∀ _ : RegionAllocator A, Serves layout number p ∧
    (getTlsSlot p).state = { p with tlsPages := (getTlsSlot p).state.tlsPages }

/-- What a call leaves that is refused because the area is used up. -/
def refusedAtEnd {α : Type} (layout : GuestLayout) (p : GuestProcess M A F) :
    Effect (GuestProcess M A F) α :=
  ⟨.error (.error (.unresolvedTlsAllocation (layout.tlsBase + layout.tlsSize) tlsAreaExhausted)),
    p, []⟩

/-- Every call that needs a slot is refused and leaves the process as it is. -/
structure UsedUp [RegionAllocator A] [ThreadFactory F] (layout : GuestLayout)
    (p : GuestProcess M A F) : Prop where
  slot : getTlsSlot p = refusedAtEnd layout p
  thread : ∀ (entryPoint : VirtAddr) (entryArgument : UInt64) (stackTop : VirtAddr)
    (priority : Priority),
    createThread entryPoint entryArgument stackTop priority p = refusedAtEnd layout p
  mainThread : ∀ entryPoint stackTop : VirtAddr,
    createMainThread entryPoint stackTop p = refusedAtEnd layout p

theorem spare_of_room {count : Nat} (placed : Placed layout p.tlsPages)
    (packed : p.tlsPages.Packed count)
    (clear : layout.tlsBase.toNat + layout.covered < UInt64.size)
    (room : count < tlsSlots * p.tlsPages.addresses.length) : Spare layout count p := by
  intro _
  have exit := getSlot_exit (mapTlsPage p.config.layout) packed (p.handles, p.allocator)
  obtain ⟨given, rest⟩ := exit.given room
  obtain ⟨slot, found, place⟩ := placed.nthSlot_eq clear room
  refine ⟨⟨slot, given.trans found, place⟩, ?_⟩
  simp only [getTlsSlot, Action.bind_apply, Action.current_apply, Action.andThen_ok, onTlsPages,
    Action.onPart_apply, rest]

theorem serves_of_grant [PlacingAllocator A] {count : Nat} {memory : MemoryObject}
    {allocator : A} {requested : VirtAddr} (same : p.config.layout = layout)
    (placed : Placed layout p.tlsPages) (packed : p.tlsPages.Packed count)
    (clear : layout.tlsBase.toNat + layout.covered < UInt64.size)
    (full : count = tlsSlots * p.tlsPages.addresses.length)
    (next : p.tlsPages.nextPageAddress = .ok requested)
    (grant : PageGrant layout (p.handles, p.allocator) requested memory allocator) :
    Serves layout (max 1 count) p := by
  subst same
  have exit := getSlot_exit (mapTlsPage p.config.layout) packed (p.handles, p.allocator)
  obtain ⟨log, mapped⟩ := mapTlsPage_of_grant grant
  obtain ⟨rfl, inside⟩ := mapTlsPage_ok mapped
  obtain ⟨given, _⟩ := exit.given_of_mapped full next mapped
  have room := (GrowExit.mapped next mapped).room full
  obtain ⟨slot, found, place⟩ := (placed.append next inside).nthSlot_eq clear room
  exact ⟨slot, given.trans found, place⟩

theorem UsedUp.of_slot [RegionAllocator A] [ThreadFactory F]
    (slot : getTlsSlot p = refusedAtEnd layout p) : UsedUp layout p := by
  have thread : ∀ (entryPoint : VirtAddr) (entryArgument : UInt64) (stackTop : VirtAddr)
      (priority : Priority),
      createThread entryPoint entryArgument stackTop priority p = refusedAtEnd layout p := by
    intro entryPoint entryArgument stackTop priority
    rw [createThread, Action.bind_apply, slot]
    rfl
  refine ⟨slot, thread, fun entryPoint stackTop => ?_⟩
  simp only [createMainThread, Action.bind_apply, Action.current_apply, Action.andThen_ok, thread]
  rfl

theorem UsedUp.of_placed [RegionAllocator A] [ThreadFactory F] {count n : Nat}
    (same : p.config.layout = layout) (placed : Placed layout p.tlsPages)
    (packed : p.tlsPages.Packed count) (paged : layout.Paged n) (all : count = tlsSlots * n) :
    UsedUp layout p := by
  have slot := placed.getSlot_of_used_up (t := (p.handles, p.allocator)) packed paged all
  apply UsedUp.of_slot
  simp only [getTlsSlot, onTlsPages, Action.bind_apply, Action.current_apply, Action.andThen_ok,
    Action.onPart_apply, same, slot, List.nil_append]
  rfl

end GuestProcess

namespace ProcessRun

variable {M A F : Type} [PlacingAllocator A]

structure Metered [ThreadFactory F] (config : ProcessConfig) (n : Nat) (s : ProcessRun M A F) :
    Prop where
  placed : ∀ (k : Nat) (h : k < s.slots.length),
    s.slots[k].toNat = config.layout.tlsBase.toNat + tlsSlotSize.toNat * (k + 1)
  apart : s.slots.Nodup
  spared : config.layout.tlsBase ∉ s.slots
  bounded : s.slots.length ≤ tlsSlots * n - 1
  /-- While a page has a slot left the next one is given, whatever the allocator does. -/
  spare : (∃ page ∈ s.process.tlsPages.pages, page.isFull = false) →
    Spare config.layout (s.slots.length + 1) s.process
  /-- Before the last slot, a page that is mapped because all are full brings the next one. It is
  asked for behind the others, and mapped if the allocator grants it and a handle is left. -/
  opened : s.slots.length < tlsSlots * n - 1 →
    (∀ page ∈ s.process.tlsPages.pages, page.isFull = true) →
      ∃ requested : VirtAddr, requested.toNat =
          config.layout.tlsBase.toNat + pageSize.toNat * s.process.tlsPages.pages.length ∧
        ∀ memory allocator, RegionAllocator.allocate s.process.allocator
            (.readWrite requested pageSize .threadLocal) = (.ok memory, allocator) →
          s.process.handles.next.toNat + 1 < UInt32.size →
            Serves config.layout (s.slots.length + 1) s.process
  /-- The creation of a thread takes the slot that is taken without one, whatever comes after. -/
  taken : ∀ (entryPoint : VirtAddr) (entryArgument : UInt64) (stackTop : VirtAddr)
    (priority : Priority),
    (createThread entryPoint entryArgument stackTop priority s.process).state.tlsPages =
      (getTlsSlot s.process).state.tlsPages
  slotFits : (getTlsSlot s.process).outcome ≠ .error .overflow
  memoryFits : (initializeMemory s.process).outcome ≠ .error .overflow
  tableFits : ∀ call : TableCall, (onHandles call.perform s.process).outcome ≠ .error .overflow
  /-- The factory may run into a fault of its own. -/
  threadFits : ∀ (entryPoint : VirtAddr) (entryArgument : UInt64) (stackTop : VirtAddr)
    (priority : Priority),
    (createThread entryPoint entryArgument stackTop priority s.process).outcome =
        .error .overflow →
      ∃ params table, (makeThread params (table, s.process.factory)).outcome = .error .overflow
  mainThreadFits : ∀ entryPoint stackTop : VirtAddr,
    (createMainThread entryPoint stackTop s.process).outcome = .error .overflow →
      ∃ params table, (makeThread params (table, s.process.factory)).outcome = .error .overflow
  /-- At the end the allocator is not asked: the answer is the same for every allocator. -/
  usedUp : s.slots.length = tlsSlots * n - 1 → ∀ allocator : RegionAllocator A,
    @UsedUp M A F allocator _ config.layout s.process

namespace Located

variable {config : ProcessConfig} {s : ProcessRun M A F} {count n : Nat}

theorem slots_apart (h : Located config s count) :
    s.slots.Nodup ∧ config.layout.tlsBase ∉ s.slots := by
  constructor
  · rw [List.nodup_iff_injective_getElem]
    intro i j same
    have left := h.getElem_slots i.isLt
    have right := h.getElem_slots j.isLt
    rw [show s.slots[i.val] = s.slots[j.val] from same, right, toNat_tlsSlotSize] at left
    omega
  · intro mem
    obtain ⟨k, inside, same⟩ := List.getElem_of_mem mem
    have here := h.getElem_slots inside
    rw [same, toNat_tlsSlotSize] at here
    omega

variable (paged : config.layout.Paged n)
include paged

theorem count_le (h : Located config s count) : count ≤ tlsSlots * n := by
  have few := h.placed.length_le paged
  have bound := h.kept.packed.bound
  unfold tlsSlots at bound ⊢
  dsimp only at bound
  omega

theorem spare (h : Located config s count)
    (free : ∃ page ∈ s.process.tlsPages.pages, page.isFull = false) :
    Spare config.layout (s.slots.length + 1) s.process := by
  have room := h.kept.room_of_free free
  have next := h.kept.length_of_room room
  dsimp only at next
  rw [next]
  exact spare_of_room h.placed h.kept.packed paged.clear room

theorem opened (h : Located config s count) (some : 1 ≤ n) (left : s.slots.length < tlsSlots * n - 1)
    (all : ∀ page ∈ s.process.tlsPages.pages, page.isFull = true) :
    ∃ requested : VirtAddr, requested.toNat =
        config.layout.tlsBase.toNat + pageSize.toNat * s.process.tlsPages.pages.length ∧
      ∀ memory allocator, RegionAllocator.allocate s.process.allocator
          (.readWrite requested pageSize .threadLocal) = (.ok memory, allocator) →
        s.process.handles.next.toNat + 1 < UInt32.size →
          Serves config.layout (s.slots.length + 1) s.process := by
  have full := h.kept.packed.all_full_iff.mp all
  have length := h.kept.length
  dsimp only at full length
  have few : s.process.tlsPages.addresses.length < n := by
    unfold tlsSlots at full left
    omega
  obtain ⟨requested, place, next, inside⟩ := h.placed.next_inside paged few
  rw [length_addresses] at place
  refine ⟨requested, place, fun memory allocator asked room => ?_⟩
  rw [show s.slots.length + 1 = max 1 count by omega]
  exact serves_of_grant (congrArg _ h.same) h.placed h.kept.packed paged.clear full next
    ⟨inside, asked, room⟩

theorem usedUp [ThreadFactory F] (h : Located config s count) (some : 1 ≤ n)
    (full : s.slots.length = tlsSlots * n - 1) :
    ∀ allocator : RegionAllocator A, @UsedUp M A F allocator _ config.layout s.process := by
  have length := h.kept.length
  have most := h.count_le paged
  have packed := h.kept.packed
  have all : count = tlsSlots * n := by
    unfold tlsSlots at *
    dsimp only at length
    omega
  -- an instance that is not the one of the run may only be introduced once the run is out of sight
  obtain ⟨rfl, _, placed⟩ := h
  exact fun allocator => .of_placed rfl placed packed paged all

end Located

/-- An area of whole pages is used up slot by slot, and nothing more is taken of it. -/
theorem Reachable.metered [MemoryChannel M] [ThreadFactory F] {config : ProcessConfig}
    {s : ProcessRun M A F} {n : Nat} (h : Reachable config s) (some : 1 ≤ n)
    (area : config.layout.tlsSize.toNat = pageSize.toNat * n)
    (fits : config.layout.tlsBase.toNat + config.layout.tlsSize.toNat < UInt64.size) :
    Metered config n s := by
  obtain ⟨count, located⟩ := h.located
  have paged : config.layout.Paged n := ⟨area, fits⟩
  have sums := located.sumsFit paged.clear
  refine ⟨fun _ => located.getElem_slots, located.slots_apart.1, located.slots_apart.2, ?_,
    located.spare paged, located.opened paged some, fun _ _ _ _ => ?_, sums.slot, sums.memory,
    fun call => ?_, sums.thread, sums.mainThread, located.usedUp paged some⟩
  · have length := located.kept.length
    have most := located.count_le paged
    dsimp only at length
    omega
  · exact congrArg Prod.snd (tlsView_createThread _ _ _ _ s.process)
  · exact fits_onHandles call.fits_perform _

/-- All slots of two pages are taken. Each page is refused once; one slot is lost with a thread that
its factory refuses, and two because the handles have run out. -/
theorem metered_with_losses : ∃ s : ProcessRun Window PlacingScript ScriptedFactory,
    s.slots = [0x6200, 0x6400, 0x6600, 0x6800, 0x6A00, 0x6C00, 0x6E00, 0x7000, 0x7200, 0x7400,
      0x7600, 0x7800, 0x7A00, 0x7C00, 0x7E00] ∧
    s.process.handles.size = 3 ∧ s.process.threads.size = 1 ∧
    Metered { baseHandleIndex := 0xFFFFFFFB, layout := { tlsBase := 0x6000, tlsSize := 0x2000 } } 2
      s := by
  let config : ProcessConfig :=
    { baseHandleIndex := 0xFFFFFFFB, layout := { tlsBase := 0x6000, tlsSize := 0x2000 } }
  let refusing : PlacingScript :=
    ⟨{ ScriptedAllocator.new with script.threadLocalRefusal := some .handlesExhausted }, rfl⟩
  let failing : ScriptedFactory :=
    { ScriptedFactory.new with script.refusal := some .handlesExhausted }
  have slots {s : ProcessRun Window PlacingScript ScriptedFactory} (h : Reachable config s) :=
    ((h.call .getTlsSlot).call .getTlsSlot).call .getTlsSlot
  have start : Reachable config _ := .start 0 (Window.new 0x1000 0x1000) refusing failing
  have first := ((start.call .getTlsSlot).call (.replace .new failing)).call .getTlsSlot
  have lost := first.call (.createThread 0 0 0 5)
  have third := (lost.call (.replace .new .new)).call (.createMainThread 0 0)
  have last := (slots third).call .getTlsSlot
  have refused := (last.call (.replace refusing .new)).call .getTlsSlot
  have second := (refused.call (.replace .new .new)).call .getTlsSlot
  have tenth := (second.call (.createThread 0 0 0 5)).call (.createThread 0 0 0 5)
  have finished := ((slots tenth).call .getTlsSlot).call .getTlsSlot
  exact ⟨_, by decide, by decide, by decide, finished.metered (by decide) (by decide) (by decide)⟩

end ProcessRun

end GuestKernel
