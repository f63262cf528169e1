import Mathlib
import GuestKernel.Memory.Window
import GuestKernel.Proofs.Tls.Placement
import GuestKernel.Scripted.Factory

/-!
# How far the thread-local storage of a process reaches

A page is mapped when its first address lies in the area, so the last page may reach beyond an area
that is not made of whole pages. All pages and slots lie in the whole pages that begin inside the
area, which `GuestLayout.covered` counts; for an area of whole pages that is the area itself.
-/

set_option autoImplicit false

namespace GuestKernel

open TlsPageList

/-- The length of the whole pages that begin inside the area. -/
def GuestLayout.covered (layout : GuestLayout) : Nat :=
  pageSize.toNat * ((layout.tlsSize.toNat + (pageSize.toNat - 1)) / pageSize.toNat)

theorem GuestLayout.covered_of_dvd {layout : GuestLayout}
    (whole : pageSize.toNat ∣ layout.tlsSize.toNat) : layout.covered = layout.tlsSize.toNat := by
  obtain ⟨n, size⟩ := whole
  rw [covered, size, toNat_pageSize]
  omega

/-- A page that begins inside the area lies in the covered pages. -/
theorem GuestLayout.le_covered {layout : GuestLayout} {page : Nat}
    (begin : pageSize.toNat * page < layout.tlsSize.toNat) :
    pageSize.toNat * (page + 1) ≤ layout.covered := by
  rw [toNat_pageSize] at begin
  rw [covered, toNat_pageSize]
  omega

namespace ProcessRun

variable {M A F : Type}

/-- Every page and every slot lies in so many bytes from the start of the area on. -/
structure Within [RegionAllocator A] (layout : GuestLayout) (bytes : Nat) (s : ProcessRun M A F) :
    Prop where
  pages : ∀ page ∈ s.process.tlsPages.pages,
    layout.tlsBase.toNat ≤ page.address.toNat ∧
      page.address.toNat + pageSize.toNat ≤ layout.tlsBase.toNat + bytes
  slots : ∀ slot ∈ s.slots,
    layout.tlsBase.toNat ≤ slot.toNat ∧
      slot.toNat + tlsSlotSize.toNat ≤ layout.tlsBase.toNat + bytes

theorem Located.within [RegionAllocator A] {config : ProcessConfig} {s : ProcessRun M A F}
    {count : Nat} (h : Located config s count) :
    Within config.layout config.layout.covered s := by
  constructor
  · intro page mem
    have address : page.address ∈ s.process.tlsPages.addresses := List.mem_map_of_mem mem
    obtain ⟨i, inside, here⟩ := List.getElem_of_mem address
    have start := h.placed.follow i inside
    have finish := GuestLayout.le_covered (h.placed.begin i inside)
    rw [← here, start]
    rw [Nat.mul_add] at finish
    omega
  · intro slot mem
    obtain ⟨k, inside, rfl⟩ := List.getElem_of_mem mem
    have start := h.getElem_slots inside
    have length := h.kept.length
    have bound := h.kept.packed.bound
    dsimp only at length bound
    have page : (k + 1) / tlsSlots < s.process.tlsPages.addresses.length := page_lt (by omega)
    have finish := GuestLayout.le_covered (h.placed.begin _ page)
    rw [toNat_pageSize] at finish
    rw [start, toNat_tlsSlotSize]
    unfold tlsSlots at finish
    omega

/-- The pages and slots reach no further than the whole pages that begin inside the area; if the area
is made of whole pages they stay inside it. -/
theorem Reachable.storage_within [MemoryChannel M] [PlacingAllocator A] [ThreadFactory F]
    {config : ProcessConfig} {s : ProcessRun M A F} (h : Reachable config s) :
    Within config.layout config.layout.covered s ∧
      (pageSize.toNat ∣ config.layout.tlsSize.toNat →
        Within config.layout config.layout.tlsSize.toNat s) := by
  obtain ⟨count, located⟩ := h.located
  refine ⟨located.within, fun whole => ?_⟩
  rw [← GuestLayout.covered_of_dvd whole]
  exact located.within

/-- The second page of this run ends where the area does. -/
theorem within_two_pages : ∃ s : ProcessRun Window PlacingScript ScriptedFactory,
    s.process.tlsPages.addresses = [0x6000, 0x7000] ∧ s.slots.getLast? = some 0x7000 ∧
    pageSize.toNat ∣ 0x2000 ∧
    Within { tlsBase := 0x6000, tlsSize := 0x2000 } 0x2000 s := by
  let config : ProcessConfig := { layout := { tlsBase := 0x6000, tlsSize := 0x2000 } }
  have start : Reachable config _ :=
    .start 0 (Window.new 0x1000 0x1000) PlacingScript.new ScriptedFactory.new
  have half := (((start.call .initializeMemory).call .getTlsSlot).call .getTlsSlot).call .getTlsSlot
  have first := (((half.call .getTlsSlot).call .getTlsSlot).call .getTlsSlot).call .getTlsSlot
  have second := first.call .getTlsSlot
  exact ⟨_, by decide, by decide, by decide, second.storage_within.2 (by decide)⟩

/-- The second page of this run begins inside the area but reaches beyond it, and the last slot lies
outside altogether. -/
theorem beyond_the_area : ∃ s : ProcessRun Window PlacingScript ScriptedFactory,
    Reachable { layout := { tlsBase := 0x6000, tlsSize := 0x1200 } } s ∧
    s.process.tlsPages.addresses = [0x6000, 0x7000] ∧ s.slots.getLast? = some 0x7200 ∧
    ¬ Within { tlsBase := 0x6000, tlsSize := 0x1200 } 0x1200 s := by
  have start : Reachable { layout := { tlsBase := 0x6000, tlsSize := 0x1200 } } _ :=
    .start 0 (Window.new 0x1000 0x1000) PlacingScript.new ScriptedFactory.new
  have half := ((start.call .getTlsSlot).call .getTlsSlot).call .getTlsSlot
  have first := (((half.call .getTlsSlot).call .getTlsSlot).call .getTlsSlot).call .getTlsSlot
  have second := (first.call .getTlsSlot).call .getTlsSlot
  refine ⟨_, second, by decide, by decide, fun within => ?_⟩
  have inside := within.slots 0x7200 (by decide)
  exact absurd inside (by decide)

end ProcessRun

end GuestKernel
