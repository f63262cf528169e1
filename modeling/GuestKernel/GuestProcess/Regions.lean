import GuestKernel.GuestProcess.Basic

/-!
# The heap and the thread-local storage of a process

`GuestProcess.initializeMemory` maps the heap and the first page of thread-local storage, each only
if it is not there yet. `GuestProcess.getTlsSlot` gives out a slot of thread-local storage. A page
is asked for only at an address of the area that the layout sets aside, and every reason for which
it cannot be mapped becomes the reason of one refusal.
-/

set_option autoImplicit false

namespace GuestKernel

namespace GuestProcess

variable {M A F : Type} [RegionAllocator A]

/-- The reason for refusing a page outside the area for thread-local storage. -/
def tlsAreaExhausted : String := "TLS/IO region exhausted"

/-- Maps a page of thread-local storage and binds it to a handle; gives where it was mapped. -/
def mapTlsPage (layout : GuestLayout) (address : VirtAddr) :
    Action (HandleTable × A) VirtAddr := do
  let inside ← .done (layout.isTlsAddress address)
  if inside then
    let request := RegionRequest.readWrite address pageSize .threadLocal
    let memory ← .onSecond ((allocateRegion request).mapRefusal (.unresolvedTls address))
    let _ ← .onFirst ((HandleTable.insertMemory memory).mapRefusal (.unresolvedTls address))
    return memory.region.address
  else .refuse (.unresolvedTlsAllocation address tlsAreaExhausted)

def mapHeap : Action (GuestProcess M A F) Unit := do
  let p ← .current
  if p.heap.isNone then
    let request := RegionRequest.readWrite p.config.layout.heapBase p.config.heapSize .heap
    let memory ← onAllocator (allocateRegion request)
    let handle ← onHandles (HandleTable.insertMemory memory)
    .note (.heapMapped memory.region.address memory.region.size handle)
    .update fun p => { p with heap := some ⟨handle, memory⟩ }

/-- Maps a page of thread-local storage unless there is one. -/
def mapFirstTlsPage : Action (GuestProcess M A F) Unit := do
  let p ← .current
  if p.tlsPages.pages.isEmpty then
    let _ ← onTlsPages (TlsPageList.grow (mapTlsPage p.config.layout))

/-- Maps what a process needs before its first thread runs. -/
def initializeMemory : Action (GuestProcess M A F) Unit := do
  mapHeap
  mapFirstTlsPage

/-- Gives out a slot of thread-local storage, mapping a page when all are full. -/
def getTlsSlot : Action (GuestProcess M A F) VirtAddr := do
  let p ← .current
  onTlsPages (TlsPageList.getSlot (mapTlsPage p.config.layout))

end GuestProcess

end GuestKernel
