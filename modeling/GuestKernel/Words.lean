/-!
# Machine words of the guest

Handles, thread numbers, priorities, addresses and sizes have the widths that the guest sees.
Addresses are added with a check: `VirtAddr.plus?` has no value when 64 bits cannot hold the sum,
and `toNat_of_plus?` says that a sum it does have is the sum of the numbers.

This module does NOT say what becomes of an operation whose address sum does not fit.
-/

set_option autoImplicit false

namespace GuestKernel

/-- The number under which the guest refers to a kernel object. -/
abbrev Handle := UInt32

/-- The number of the host thread that runs a guest thread. -/
abbrev Tid := UInt32

/-- A scheduling priority; the higher one is served first. -/
abbrev Priority := UInt8

abbrev VirtAddr := UInt64

abbrev Size := UInt64

/-- The first handle that a table gives out unless it is told otherwise. -/
def baseHandleIndex : Handle := 0xD000

/-- The priority of a main thread unless its process is told otherwise. -/
def defaultPriority : Priority := 44

/-- The address `distance` bytes above `address`, if 64 bits hold it. -/
def VirtAddr.plus? (address : VirtAddr) (distance : Size) : Option VirtAddr :=
  if address.toNat + distance.toNat < UInt64.size then some (address + distance) else none

theorem VirtAddr.plus?_eq_none_iff {address : VirtAddr} {distance : Size} :
    VirtAddr.plus? address distance = none ↔ UInt64.size ≤ address.toNat + distance.toNat := by
  unfold VirtAddr.plus?
  split <;> simp <;> omega

theorem VirtAddr.toNat_of_plus? {address sum : VirtAddr} {distance : Size}
    (h : VirtAddr.plus? address distance = some sum) :
    sum.toNat = address.toNat + distance.toNat := by
  unfold VirtAddr.plus? at h
  split at h
  · cases h
    rename_i fits
    rw [UInt64.toNat_add]
    exact Nat.mod_eq_of_lt fits
  · cases h

end GuestKernel
