import GuestKernel.Layout

/-!
# A page of thread-local storage

A page is cut into slots, which are given out one after the other and never come back.
`TlsPage.reserveSlot` gives the next one; `slotAddress` is where a slot lies.

That the marks and the number of the next slot agree is NOT part of the type; it holds of every
page that is only changed by reserving.
-/

set_option autoImplicit false

namespace GuestKernel

structure TlsPage where
  address : VirtAddr
  nextSlot : UInt8
  taken : Vector Bool tlsSlots
  deriving DecidableEq

namespace TlsPage

def new (address : VirtAddr) : TlsPage := ⟨address, 0, .replicate tlsSlots false⟩

def slotAddress (page : TlsPage) (slot : UInt8) : Except Fault VirtAddr :=
  if tlsSlots ≤ slot.toNat then .error (.error (.slotOutOfRange slot))
  else VirtAddr.plus page.address (tlsSlotSize * slot.toUInt64)

/-- Takes the next slot; gives where it lies and the page afterwards. -/
def reserveSlot (page : TlsPage) : Except Fault (VirtAddr × TlsPage) :=
  (page.slotAddress page.nextSlot).map fun address =>
    (address, { page with
      nextSlot := page.nextSlot + 1
      taken := page.taken.setIfInBounds page.nextSlot.toNat true })

/-- Whether a slot is taken; there is no slot past the last one. -/
def isReserved (page : TlsPage) (slot : UInt8) : Bool := page.taken[slot.toNat]?.getD false

def freeSlots (page : TlsPage) : Nat := page.taken.toList.countP (· = false)

def isFull (page : TlsPage) : Bool := page.taken.toList.all id

end TlsPage

end GuestKernel
