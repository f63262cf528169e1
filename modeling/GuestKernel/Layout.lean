import GuestKernel.Error

/-!
# Where a process puts its regions

The page geometry of the guest, and the placement of the heap and of the area from which pages of
thread-local storage (TLS) are taken. `tlsSlots_mul_tlsSlotSize` says that the slots fill a page.

A page of thread-local storage is only asked for at an address of the area; nothing here says that
the page ends inside the area.
-/

set_option autoImplicit false

namespace GuestKernel

def pageSize : Size := 0x1000

def tlsSlotSize : Size := 0x200

def tlsSlots : Nat := 8

theorem toNat_pageSize : pageSize.toNat = 4096 := rfl

theorem toNat_tlsSlotSize : tlsSlotSize.toNat = 512 := rfl

theorem tlsSlots_mul_tlsSlotSize : tlsSlots * tlsSlotSize.toNat = pageSize.toNat := by decide

/-- The placement of the regions that a process sets up for itself. -/
structure GuestLayout where
  heapBase : VirtAddr := 0x08000000
  /-- The first address of the area for thread-local storage; its pages go upwards from here. -/
  tlsBase : VirtAddr := 0x06000000
  tlsSize : Size := 0x02000000
  deriving DecidableEq

namespace GuestLayout

/-- The first address after the area for thread-local storage. -/
def tlsEnd (layout : GuestLayout) : Except Fault VirtAddr :=
  VirtAddr.plus layout.tlsBase layout.tlsSize

/-- Whether `address` lies in the area for thread-local storage. The end of the area is worked out
only for an address that is not below its start. -/
def isTlsAddress (layout : GuestLayout) (address : VirtAddr) : Except Fault Bool :=
  if address < layout.tlsBase then .ok false
  else layout.tlsEnd.map fun finish => address < finish

section Laws
variable {layout : GuestLayout} {address : VirtAddr}

theorem isTlsAddress_eq_true_iff :
    layout.isTlsAddress address = .ok true ↔
      layout.tlsBase.toNat ≤ address.toNat ∧
        address.toNat < layout.tlsBase.toNat + layout.tlsSize.toNat ∧
        layout.tlsBase.toNat + layout.tlsSize.toNat < UInt64.size := by
  unfold isTlsAddress
  split
  · rename_i below
    rw [UInt64.lt_iff_toNat_lt] at below
    simp only [Except.ok.injEq, Bool.false_eq_true, false_iff]
    omega
  · rename_i above
    rw [UInt64.lt_iff_toNat_lt] at above
    rw [tlsEnd]
    cases h : VirtAddr.plus layout.tlsBase layout.tlsSize with
    | ok finish =>
      have value := VirtAddr.plus_eq_ok_iff.mp h
      have small := finish.toNat_lt
      simp only [Except.map, Except.ok.injEq, decide_eq_true_eq, UInt64.lt_iff_toNat_lt, value,
        UInt64.size]
      omega
    | error fault =>
      have large := (VirtAddr.plus_eq_error_iff.mp h).2
      simp only [Except.map, reduceCtorEq, false_iff]
      omega

/-- Whether an address lies in the area is not decided if the area has no representable end. -/
theorem isTlsAddress_eq_error_iff {fault : Fault} :
    layout.isTlsAddress address = .error fault ↔
      fault = .overflow ∧ layout.tlsBase.toNat ≤ address.toNat ∧
        UInt64.size ≤ layout.tlsBase.toNat + layout.tlsSize.toNat := by
  unfold isTlsAddress
  split
  · rename_i below
    rw [UInt64.lt_iff_toNat_lt] at below
    simp only [reduceCtorEq, false_iff]
    omega
  · rename_i above
    rw [UInt64.lt_iff_toNat_lt, Nat.not_lt] at above
    rw [tlsEnd]
    cases h : VirtAddr.plus layout.tlsBase layout.tlsSize with
    | ok finish =>
      have value := VirtAddr.plus_eq_ok_iff.mp h
      have small := finish.toNat_lt
      simp only [Except.map, reduceCtorEq, false_iff, UInt64.size]
      omega
    | error found =>
      obtain ⟨rfl, large⟩ := VirtAddr.plus_eq_error_iff.mp h
      simp [Except.map, above, large, eq_comm]

/-- No address from the end of the area on lies in it. -/
theorem isTlsAddress_of_le (fits : layout.tlsBase.toNat + layout.tlsSize.toNat < UInt64.size)
    (above : layout.tlsBase.toNat + layout.tlsSize.toNat ≤ address.toNat) :
    layout.isTlsAddress address = .ok false := by
  cases h : layout.isTlsAddress address with
  | error fault =>
    have large := (isTlsAddress_eq_error_iff.mp h).2.2
    omega
  | ok inside =>
    cases inside with
    | false => rfl
    | true =>
      have below := (isTlsAddress_eq_true_iff.mp h).2.1
      omega

end Laws

end GuestLayout

structure ProcessConfig where
  baseHandleIndex : Handle := GuestKernel.baseHandleIndex
  defaultPriority : Priority := GuestKernel.defaultPriority
  heapSize : Size := 0x02000000
  layout : GuestLayout := {}
  deriving DecidableEq

end GuestKernel
