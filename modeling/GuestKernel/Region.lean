import GuestKernel.Error

/-!
# Regions of guest memory

A `Region` is a range of addresses, an `AccessPermission` a set of the three kinds of access, and a
`RegionRequest` what a process asks of the allocator that maps its regions.
`Region.contains_iff` reads containment on numbers without a bound, so a region that reaches the
last address is no special case.
-/

set_option autoImplicit false

namespace GuestKernel

/-- A range of guest addresses, given by its first address and its length. -/
structure Region where
  address : VirtAddr
  size : Size
  deriving DecidableEq

/-- Whether `a` lies in the region; the difference never passes below zero. -/
def Region.contains (r : Region) (a : VirtAddr) : Bool :=
  r.address ≤ a && a - r.address < r.size

theorem Region.contains_iff (r : Region) (a : VirtAddr) :
    r.contains a = true ↔
      r.address.toNat ≤ a.toNat ∧ a.toNat < r.address.toNat + r.size.toNat := by
  simp only [Region.contains, Bool.and_eq_true, decide_eq_true_eq]
  constructor
  · rintro ⟨low, high⟩
    rw [UInt64.lt_iff_toNat_lt, UInt64.toNat_sub_of_le _ _ low] at high
    rw [UInt64.le_iff_toNat_le] at low
    omega
  · rintro ⟨low, high⟩
    have low' : r.address ≤ a := UInt64.le_iff_toNat_le.mpr low
    refine ⟨low', ?_⟩
    rw [UInt64.lt_iff_toNat_lt, UInt64.toNat_sub_of_le _ _ low']
    omega

/-- Which kinds of access to a region are allowed. -/
structure AccessPermission where
  read : Bool
  write : Bool
  execute : Bool
  deriving DecidableEq

namespace AccessPermission

/-- Reading and writing: the permission of heaps and of thread-local storage. -/
def readWrite : AccessPermission := ⟨true, true, false⟩

/-- The set as a number: reading is worth 1, writing 2 and executing 4. -/
def bits (p : AccessPermission) : Nat :=
  p.read.toNat + 2 * p.write.toNat + 4 * p.execute.toNat

/-- The set whose number has the three low bits of `n`. -/
def truncate (n : Nat) : AccessPermission := ⟨n.testBit 0, n.testBit 1, n.testBit 2⟩

/-- The set whose number is `n`, if there is one. -/
def ofBits? (n : Nat) : Option AccessPermission :=
  if n < 8 then some (truncate n) else none

/-- Joins two sets kind by kind. -/
def combine (f : Bool → Bool → Bool) (p q : AccessPermission) : AccessPermission :=
  ⟨f p.read q.read, f p.write q.write, f p.execute q.execute⟩

def union : AccessPermission → AccessPermission → AccessPermission := combine (· || ·)

def intersection : AccessPermission → AccessPermission → AccessPermission := combine (· && ·)

def difference : AccessPermission → AccessPermission → AccessPermission := combine (· && !·)

def complement (p : AccessPermission) : AccessPermission := ⟨!p.read, !p.write, !p.execute⟩

def isEmpty (p : AccessPermission) : Bool := p == ⟨false, false, false⟩

def isAll (p : AccessPermission) : Bool := p == ⟨true, true, true⟩

/-- Whether every access that `q` allows is allowed by `p`. -/
def contains (p q : AccessPermission) : Bool := p.intersection q == q

def intersects (p q : AccessPermission) : Bool := !(p.intersection q).isEmpty

theorem truncate_bits (p : AccessPermission) : truncate p.bits = p := by
  obtain ⟨r, w, x⟩ := p
  cases r <;> cases w <;> cases x <;> rfl

theorem ofBits?_bits (p : AccessPermission) : ofBits? p.bits = some p := by
  have small : p.bits < 8 := by
    obtain ⟨r, w, x⟩ := p
    cases r <;> cases w <;> cases x <;> decide
  rw [ofBits?, if_pos small, truncate_bits]

end AccessPermission

inductive RegionPurpose where
  | heap
  | threadLocal
  deriving DecidableEq

/-- What a process asks of the allocator of its regions. -/
structure RegionRequest where
  region : Region
  permission : AccessPermission
  purpose : RegionPurpose
  deriving DecidableEq

namespace RegionRequest

/-- Asks for a region to read and to write. -/
def readWrite (address : VirtAddr) (size : Size) (purpose : RegionPurpose) : RegionRequest :=
  ⟨⟨address, size⟩, .readWrite, purpose⟩

/-- The first address after the requested region. -/
def finish (r : RegionRequest) : Except Fault VirtAddr :=
  VirtAddr.plus r.region.address r.region.size

end RegionRequest

end GuestKernel
