import Mathlib
import GuestKernel.Memory.Window
import GuestKernel.Proofs.Process.Overflow
import GuestKernel.Proofs.Tls.Containment
import GuestKernel.Scripted.Factory

/-!
# Which sums of addresses a process comes to

Whether an address lies in the area is decided by the sum that ends the area, where a `Region` of
the same base and size subtracts. The two agree unless the area reaches the last address; then the
sum cannot be held, and no page is ever mapped. Otherwise a process comes to a sum that cannot be
held only at the end of the whole pages that begin inside the area: for a slot beyond the last
address, or for the page after the last.
-/

set_option autoImplicit false

namespace GuestKernel

open TlsPageList GuestProcess

namespace GuestLayout

/-- The area is the region with its base and size, as far as the area has an end. -/
theorem isTlsAddress_eq (layout : GuestLayout) (address : VirtAddr) :
    layout.isTlsAddress address =
      if UInt64.size ≤ layout.tlsBase.toNat + layout.tlsSize.toNat ∧ layout.tlsBase ≤ address then
        .error .overflow
      else .ok (Region.contains ⟨layout.tlsBase, layout.tlsSize⟩ address) := by
  have inside := Region.contains_iff ⟨layout.tlsBase, layout.tlsSize⟩ address
  dsimp only at inside
  simp only [UInt64.le_iff_toNat_le]
  split
  · rename_i high
    exact isTlsAddress_eq_error_iff.mpr ⟨rfl, high.2, high.1⟩
  · rename_i low
    cases decided : layout.isTlsAddress address with
    | error fault =>
      have high := (isTlsAddress_eq_error_iff.mp decided).2
      exact absurd ⟨high.2, high.1⟩ low
    | ok answer =>
      have yes := @isTlsAddress_eq_true_iff layout address
      rw [decided, Except.ok.injEq] at yes
      rw [Except.ok.injEq, Bool.eq_iff_iff, yes, inside]
      omega

theorem tlsSize_le_covered (layout : GuestLayout) : layout.tlsSize.toNat ≤ layout.covered := by
  rw [covered, toNat_pageSize]
  omega

end GuestLayout

namespace Placed

variable {layout : GuestLayout} {list : TlsPageList} {count : Nat}

/-- The pages are among those that begin inside the area. -/
theorem length_le_covered (h : Placed layout list) :
    pageSize.toNat * list.addresses.length ≤ layout.covered := by
  cases pages : list.addresses.length with
  | zero => exact Nat.zero_le _
  | succ last => exact GuestLayout.le_covered (h.begin last (by omega))

variable {A : Type} [PlacingAllocator A] {t : HandleTable × A}
variable {state : TlsPageList × HandleTable × A}

/-- Mapping a page overflows for want of an end of the area, or of a next page. -/
theorem overflow_of_grow (h : Placed layout list) {outcome : Except Fault TlsPage}
    (exit : GrowExit (mapTlsPage layout) list t outcome state)
    (failed : outcome = .error .overflow) :
    UInt64.size ≤ layout.tlsBase.toNat + layout.tlsSize.toNat ∨
      UInt64.size ≤ layout.tlsBase.toNat + pageSize.toNat * list.addresses.length := by
  cases exit with
  | unasked high =>
    refine .inr (Nat.not_lt.mp fun next => ?_)
    exact absurd high (h.nextPageAddress_ne_error _ next)
  | @unmapped requested fault after log _ asked =>
    have mapped := mapTlsPage_exit layout requested t
    rw [asked] at mapped
    cases fault with
    | error cause => cases failed
    | overflow =>
      exact .inl (GuestLayout.isTlsAddress_eq_error_iff.mp mapped.undecided_of_overflow).2.2
    | bufferTooLarge => cases failed
  | mapped next asked => cases failed

section Clear
variable (clear : layout.tlsBase.toNat + layout.covered < UInt64.size)
include clear

theorem grow_fits (h : Placed layout list) {outcome : Except Fault TlsPage}
    (exit : GrowExit (mapTlsPage layout) list t outcome state) : outcome ≠ .error .overflow := by
  intro failed
  have size := layout.tlsSize_le_covered
  have pages := h.length_le_covered
  rcases h.overflow_of_grow exit failed with high | high
  · omega
  · omega

theorem nthPlace_lt (h : Placed layout list) (room : count < tlsSlots * list.addresses.length) :
    list.nthPlace count < UInt64.size := by
  have pages := h.length_le_covered
  rw [toNat_pageSize] at pages
  rw [h.nthPlace_eq room, toNat_tlsSlotSize]
  unfold tlsSlots at room
  omega

theorem getSlot_fits (h : Placed layout list) {outcome : Except Fault VirtAddr}
    (exit : SlotExit (mapTlsPage layout) list count t outcome state) :
    outcome ≠ .error .overflow := by
  cases exit with
  | taken room found => exact nofun
  | tooHigh room high => exact absurd (h.nthPlace_lt clear room) (Nat.not_lt.mpr high)
  | ungrown full grown =>
    intro failed
    exact h.grow_fits clear grown (congrArg Except.error (Except.error.inj failed))
  | opened full grow found => exact nofun
  | openedTooHigh full grow high =>
    exact absurd ((h.grow grow).nthPlace_lt clear (grow.room full)) (Nat.not_lt.mpr high)

end Clear

/-- Once there is a page, and the area has an end, taking a slot overflows exactly if the slot would
lie beyond the last address. -/
theorem getSlot_overflow_iff (h : Placed layout list) (packed : list.Packed count)
    (pages : list.addresses ≠ [])
    (finish : layout.tlsBase.toNat + layout.tlsSize.toNat < UInt64.size)
    {outcome : Except Fault VirtAddr}
    (exit : SlotExit (mapTlsPage layout) list count t outcome state) :
    outcome = .error .overflow ↔
      UInt64.size ≤ layout.tlsBase.toNat + tlsSlotSize.toNat * count := by
  have some := packed.kept pages
  have next : max 1 count = count := by omega
  -- a full list has its next slot where its next page is
  have behind (full : count = tlsSlots * list.addresses.length) :
      pageSize.toNat * list.addresses.length = tlsSlotSize.toNat * count := by
    rw [full, toNat_pageSize, toNat_tlsSlotSize]
    unfold tlsSlots
    omega
  cases exit with
  | @taken slot room found =>
    rw [h.nthPlace_eq room] at found
    exact iff_of_false nofun (Nat.not_le.mpr (found ▸ slot.toNat_lt))
  | tooHigh room high =>
    rw [h.nthPlace_eq room] at high
    exact iff_of_true rfl high
  | ungrown full grown =>
    rw [← behind full]
    constructor
    · intro failed
      rcases h.overflow_of_grow grown (congrArg Except.error (Except.error.inj failed)) with
        high | high
      · exact absurd finish (Nat.not_lt.mpr high)
      · exact high
    · intro high
      cases grown with
      | unasked none => rfl
      | @unmapped requested fault after log next asked =>
        have place := h.nextPageAddress_eq_ok_iff.mp next
        exact absurd (place ▸ requested.toNat_lt) (Nat.not_lt.mpr high)
  | @opened page grown after slot full grow found =>
    rw [(h.grow grow).nthPlace_eq (grow.room full), next] at found
    exact iff_of_false nofun (Nat.not_le.mpr (found ▸ slot.toNat_lt))
  | openedTooHigh full grow high =>
    rw [(h.grow grow).nthPlace_eq (grow.room full), next] at high
    exact iff_of_true rfl high

section NoEnd
variable (high : UInt64.size ≤ layout.tlsBase.toNat + layout.tlsSize.toNat)
include high

/-- In an area that has no end no page is mapped. -/
theorem grow_of_endless (h : Placed layout list) {outcome : Except Fault TlsPage}
    (exit : GrowExit (mapTlsPage layout) list t outcome state) :
    outcome = .error .overflow ∧ state.1 = list := by
  cases exit with
  | unasked high => exact ⟨rfl, rfl⟩
  | @unmapped requested fault after log next asked =>
    have place := h.nextPageAddress_eq_ok_iff.mp next
    have undecided : layout.isTlsAddress requested = .error .overflow :=
      GuestLayout.isTlsAddress_eq_error_iff.mpr ⟨rfl, place ▸ Nat.le_add_right _ _, high⟩
    simp only [mapTlsPage, Action.bind_apply, Action.done_apply, undecided, Action.andThen_error]
      at asked
    cases asked
    exact ⟨rfl, rfl⟩
  | mapped next asked =>
    have finish := (GuestLayout.isTlsAddress_eq_true_iff.mp (mapTlsPage_ok asked).2).2.2
    exact absurd finish (Nat.not_lt.mpr high)

theorem getSlot_of_endless (h : Placed layout list) (none : list.addresses = [])
    {outcome : Except Fault VirtAddr}
    (exit : SlotExit (mapTlsPage layout) list count t outcome state) :
    outcome = .error .overflow ∧ state.1 = list := by
  cases exit with
  | taken room found => simp [none] at room
  | tooHigh room high => simp [none] at room
  | ungrown full grown =>
    obtain ⟨failed, same⟩ := h.grow_of_endless high grown
    exact ⟨congrArg Except.error (Except.error.inj failed), same⟩
  | opened full grow found => cases (h.grow_of_endless high grow).1
  | openedTooHigh full grow above => cases (h.grow_of_endless high grow).1

theorem move_of_endless (h : Placed layout list) (packed : list.Packed count)
    (none : list.addresses = []) {slot : Option VirtAddr} {more : TlsPageList}
    (move : TlsMove A layout list slot more) : more = list := by
  cases move with
  | idle => rfl
  | getSlot t => exact (h.getSlot_of_endless high none (getSlot_exit _ packed t)).2
  | grow t => exact (h.grow_of_endless high (grow_exit _ list t)).2

end NoEnd

end Placed

namespace GuestProcess

variable {M A F : Type} [PlacingAllocator A]

theorem mapHeap_keeps (p : GuestProcess M A F) :
    (mapHeap p).state.config = p.config ∧ (mapHeap p).state.tlsPages = p.tlsPages :=
  Prod.mk.inj (keeps_mapHeap p)

theorem mapFirstTlsPage_fits {layout : GuestLayout} {p : GuestProcess M A F}
    (same : p.config.layout = layout) (placed : Placed layout p.tlsPages)
    (clear : layout.tlsBase.toNat + layout.covered < UInt64.size) :
    (mapFirstTlsPage p).outcome ≠ .error .overflow := by
  intro failed
  simp only [mapFirstTlsPage, Action.bind_apply, Action.current_apply, Action.andThen_ok, same]
    at failed
  split at failed
  · rcases Action.bind_eq_error failed with unmapped | ⟨_, _, nothing⟩
    · exact placed.grow_fits clear (grow_exit _ _ (p.handles, p.allocator)) unmapped
    · cases nothing
  · cases failed

theorem mapFirstTlsPage_of_endless {layout : GuestLayout} {p : GuestProcess M A F}
    (same : p.config.layout = layout) (placed : Placed layout p.tlsPages)
    (none : p.tlsPages.pages = [])
    (high : UInt64.size ≤ layout.tlsBase.toNat + layout.tlsSize.toNat) :
    (mapFirstTlsPage p).outcome = .error .overflow := by
  have exit := grow_exit (mapTlsPage layout) p.tlsPages (p.handles, p.allocator)
  have failed := (placed.grow_of_endless high exit).1
  have empty : p.tlsPages.pages.isEmpty = true := List.isEmpty_iff.mpr none
  simp only [mapFirstTlsPage, Action.bind_apply, Action.current_apply, Action.andThen_ok, same,
    empty, if_true, onTlsPages, Action.onPart_apply]
  rw [Action.andThen, failed]

/-- No call that sets up memory or threads comes to a sum that cannot be held, unless the factory
runs into a fault of its own. -/
structure SumsFit [ThreadFactory F] (p : GuestProcess M A F) : Prop where
  slot : (getTlsSlot p).outcome ≠ .error .overflow
  memory : (initializeMemory p).outcome ≠ .error .overflow
  thread : ∀ (entryPoint : VirtAddr) (entryArgument : UInt64) (stackTop : VirtAddr)
    (priority : Priority),
    (createThread entryPoint entryArgument stackTop priority p).outcome = .error .overflow →
      ∃ params table, (makeThread params (table, p.factory)).outcome = .error .overflow
  mainThread : ∀ entryPoint stackTop : VirtAddr,
    (createMainThread entryPoint stackTop p).outcome = .error .overflow →
      ∃ params table, (makeThread params (table, p.factory)).outcome = .error .overflow

/-- No page is mapped, and every call that needs a slot overflows. -/
structure NoPages [ThreadFactory F] (p : GuestProcess M A F) : Prop where
  pages : p.tlsPages.pages = []
  slot : (getTlsSlot p).outcome = .error .overflow
  memory : (mapHeap p).outcome = .ok () → (initializeMemory p).outcome = .error .overflow
  thread : ∀ (entryPoint : VirtAddr) (entryArgument : UInt64) (stackTop : VirtAddr)
    (priority : Priority),
    (createThread entryPoint entryArgument stackTop priority p).outcome = .error .overflow
  mainThread : ∀ entryPoint stackTop : VirtAddr,
    (createMainThread entryPoint stackTop p).outcome = .error .overflow

end GuestProcess

namespace ProcessRun

variable {M A F : Type} [PlacingAllocator A] {config : ProcessConfig} {s : ProcessRun M A F}
variable {count : Nat}

namespace Located

theorem getTlsSlot_exit (h : Located config s count) :
    ∃ state, SlotExit (mapTlsPage config.layout) s.process.tlsPages count
      (s.process.handles, s.process.allocator) (getTlsSlot s.process).outcome state := by
  have exit := getSlot_exit (mapTlsPage s.process.config.layout) h.kept.packed
    (s.process.handles, s.process.allocator)
  have outcome : (getTlsSlot s.process).outcome =
      (getSlot (mapTlsPage s.process.config.layout)
        (s.process.tlsPages, s.process.handles, s.process.allocator)).outcome := rfl
  rw [outcome, ← h.same]
  exact ⟨_, exit⟩

section Clear
variable (clear : config.layout.tlsBase.toNat + config.layout.covered < UInt64.size)
include clear

theorem getTlsSlot_fits (h : Located config s count) :
    (getTlsSlot s.process).outcome ≠ .error .overflow := by
  obtain ⟨_, exit⟩ := h.getTlsSlot_exit
  exact h.placed.getSlot_fits clear exit

theorem initializeMemory_fits (h : Located config s count) :
    (initializeMemory s.process).outcome ≠ .error .overflow := by
  intro failed
  obtain ⟨same, pages⟩ := mapHeap_keeps s.process
  have placed := h.placed
  rw [← pages] at placed
  rcases Action.bind_eq_error failed with heap | ⟨_, _, page⟩
  · exact fits_mapHeap _ heap
  · exact mapFirstTlsPage_fits (congrArg _ (same.trans h.same)) placed clear page

theorem sumsFit [ThreadFactory F] (h : Located config s count) : SumsFit s.process where
  slot := h.getTlsSlot_fits clear
  memory := h.initializeMemory_fits clear
  thread _ _ _ _ := createThread_overflow (h.getTlsSlot_fits clear)
  mainThread _ _ := createMainThread_overflow (h.getTlsSlot_fits clear)

end Clear

/-- After the first page the next slot lies behind the ones that were given out. -/
theorem getTlsSlot_overflow_iff (h : Located config s count)
    (pages : s.process.tlsPages.pages ≠ [])
    (finish : config.layout.tlsBase.toNat + config.layout.tlsSize.toNat < UInt64.size) :
    (getTlsSlot s.process).outcome = .error .overflow ↔
      UInt64.size ≤ config.layout.tlsBase.toNat + tlsSlotSize.toNat * (s.slots.length + 1) := by
  have mapped : s.process.tlsPages.addresses ≠ [] := fun none =>
    pages (List.map_eq_nil_iff.mp none)
  have length := h.kept.length
  have some := h.kept.packed.kept mapped
  dsimp only at length
  obtain ⟨_, exit⟩ := h.getTlsSlot_exit
  rw [h.placed.getSlot_overflow_iff h.kept.packed mapped finish exit,
    show s.slots.length + 1 = count by omega]

end Located

variable [MemoryChannel M] [ThreadFactory F]

theorem Reachable.unmapped (h : Reachable config s)
    (high : UInt64.size ≤ config.layout.tlsBase.toNat + config.layout.tlsSize.toNat) :
    s.process.tlsPages.pages = [] := by
  induction h with
  | start index channel allocator factory => rfl
  | @call s reachable call ih =>
    obtain ⟨count, located⟩ := reachable.located
    have pages := (call.moved s.process).pages
    rw [located.same] at pages
    have none : s.process.tlsPages.addresses = [] := List.map_eq_nil_iff.mpr ih
    have same := located.placed.move_of_endless high located.kept.packed none pages
    exact (congrArg TlsPageList.pages same).trans ih

theorem Reachable.noPages (h : Reachable config s)
    (high : UInt64.size ≤ config.layout.tlsBase.toNat + config.layout.tlsSize.toNat) :
    NoPages s.process := by
  have pages := h.unmapped high
  have none : s.process.tlsPages.addresses = [] := List.map_eq_nil_iff.mpr pages
  obtain ⟨count, located⟩ := h.located
  obtain ⟨_, exit⟩ := located.getTlsSlot_exit
  have slot := (located.placed.getSlot_of_endless high none exit).1
  have thread (entryPoint : VirtAddr) (entryArgument : UInt64) (stackTop : VirtAddr)
      (priority : Priority) :
      (createThread entryPoint entryArgument stackTop priority s.process).outcome =
        .error .overflow := Action.outcome_bind_of_error slot
  refine ⟨pages, slot, fun mapped => ?_, thread, fun entryPoint stackTop => ?_⟩
  · obtain ⟨same, kept⟩ := mapHeap_keeps s.process
    have layout := congrArg ProcessConfig.layout (same.trans located.same)
    exact (Action.outcome_bind_of_ok mapped).trans
      (mapFirstTlsPage_of_endless layout (kept ▸ located.placed) (kept ▸ pages) high)
  · have created := thread entryPoint 0 stackTop s.process.config.defaultPriority
    exact (Action.outcome_bind_of_ok rfl).trans (Action.outcome_bind_of_error created)

/-- Which sums of addresses a run comes to that 64 bits cannot hold. -/
structure Summed (config : ProcessConfig) (s : ProcessRun M A F) : Prop where
  /-- Without an end of the area it is undecided which addresses from its start on lie in it;
  otherwise they are the addresses of the region with its base and size. -/
  decided : ∀ address, config.layout.isTlsAddress address =
    if UInt64.size ≤ config.layout.tlsBase.toNat + config.layout.tlsSize.toNat ∧
      config.layout.tlsBase ≤ address then .error .overflow
    else .ok (Region.contains ⟨config.layout.tlsBase, config.layout.tlsSize⟩ address)
  fits : config.layout.tlsBase.toNat + config.layout.covered < UInt64.size → SumsFit s.process
  /-- Once a page is mapped, only a next slot beyond the last address is too much. -/
  next : s.process.tlsPages.pages ≠ [] →
    config.layout.tlsBase.toNat + config.layout.tlsSize.toNat < UInt64.size →
      ((getTlsSlot s.process).outcome = .error .overflow ↔
        UInt64.size ≤ config.layout.tlsBase.toNat + tlsSlotSize.toNat * (s.slots.length + 1))
  endless : UInt64.size ≤ config.layout.tlsBase.toNat + config.layout.tlsSize.toNat →
    NoPages s.process

/-- A process comes to no sum that cannot be held if the whole pages that begin inside its area end
below the last address. -/
theorem Reachable.summed (h : Reachable config s) : Summed config s := by
  obtain ⟨count, located⟩ := h.located
  exact ⟨config.layout.isTlsAddress_eq, located.sumsFit, located.getTlsSlot_overflow_iff,
    h.noPages⟩

/-- The only page of this run ends one page below the last address. -/
theorem summed_below_the_last_page : ∃ s : ProcessRun Window PlacingScript ScriptedFactory,
    s.slots = [0xFFFFFFFFFFFFE200] ∧ 0xFFFFFFFFFFFFE000 + 0x1000 < UInt64.size ∧
    Summed { layout := { tlsBase := 0xFFFFFFFFFFFFE000, tlsSize := 0x1000 } } s := by
  have start : Reachable { layout := { tlsBase := 0xFFFFFFFFFFFFE000, tlsSize := 0x1000 } } _ :=
    .start 0 (Window.new 0x1000 0x1000) PlacingScript.new ScriptedFactory.new
  have taken := (start.call .initializeMemory).call .getTlsSlot
  exact ⟨_, by decide, by decide, taken.summed⟩

/-- The last address of this area is the last address of all. Its start lies in it, but this cannot
be decided, and no slot can be taken. -/
theorem undecided_at_the_last_page :
    let layout : GuestLayout := { tlsBase := 0xFFFFFFFFFFFFF000, tlsSize := 0x1000 }
    layout.tlsBase.toNat + layout.tlsSize.toNat = UInt64.size ∧
      Region.contains ⟨layout.tlsBase, layout.tlsSize⟩ layout.tlsBase = true ∧
      layout.isTlsAddress layout.tlsBase = .error .overflow ∧
      ∃ s : ProcessRun Window PlacingScript ScriptedFactory, Reachable { layout } s ∧
        (getTlsSlot s.process).outcome = .error .overflow := by
  have start : Reachable { layout := { tlsBase := 0xFFFFFFFFFFFFF000, tlsSize := 0x1000 } } _ :=
    .start 0 (Window.new 0x1000 0x1000) PlacingScript.new ScriptedFactory.new
  exact ⟨by decide, by decide, by decide, _, start, rfl⟩

end ProcessRun

end GuestKernel
