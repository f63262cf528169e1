import Mathlib
import GuestKernel.GuestProcess.Mutex

/-!
# The two fields of a tag

A tag holds the handle of an owner without one bit, and that bit apart. `ownedTag_and_mask` and
`ownedTag_and_bit` read the two fields of a tag that the kernel writes, for every handle; a handle
that does not have the bit is the owner field itself.
-/

set_option autoImplicit false

namespace GuestKernel

theorem or_and_distrib (a b c : UInt32) : (a ||| b) &&& c = (a &&& c) ||| (b &&& c) := by
  apply UInt32.toBitVec_inj.mp
  rw [UInt32.toBitVec_and, UInt32.toBitVec_or, UInt32.toBitVec_or, UInt32.toBitVec_and,
    UInt32.toBitVec_and]
  ext i hi
  simp only [BitVec.getElem_and, BitVec.getElem_or]
  exact Bool.and_or_distrib_right _ _ _

theorem mutexWaitersBit_ne_zero : mutexWaitersBit ≠ 0 := by decide

theorem bit_and_mask : mutexWaitersBit &&& mutexOwnerMask = 0 := UInt32.and_not_self

theorem masked_and_mask (handle : Handle) :
    handle &&& mutexOwnerMask &&& mutexOwnerMask = handle &&& mutexOwnerMask := by
  rw [UInt32.and_assoc, UInt32.and_self]

theorem masked_and_bit (handle : Handle) : handle &&& mutexOwnerMask &&& mutexWaitersBit = 0 := by
  rw [UInt32.and_assoc, UInt32.and_comm mutexOwnerMask, bit_and_mask, UInt32.and_zero]

theorem fields_or (tag : UInt32) : (tag &&& mutexWaitersBit) ||| (tag &&& mutexOwnerMask) = tag := by
  have all : mutexWaitersBit ||| mutexOwnerMask = -1 := UInt32.or_not_self
  rw [UInt32.and_comm tag, UInt32.and_comm tag, ← or_and_distrib, all, UInt32.and_comm,
    UInt32.and_neg_one]

/-- A handle without the bit of the waiters is its own owner field. -/
theorem masked_of_clear {handle : Handle} (clear : handle &&& mutexWaitersBit = 0) :
    handle &&& mutexOwnerMask = handle := by
  have parts := fields_or handle
  rwa [clear, UInt32.zero_or] at parts

theorem and_bit_cases (tag : UInt32) :
    tag &&& mutexWaitersBit = 0 ∨ tag &&& mutexWaitersBit = mutexWaitersBit := by
  have bit : mutexWaitersBit.toNat = 2 ^ 30 := rfl
  have value : (tag &&& mutexWaitersBit).toNat = (tag.toNat.testBit 30).toNat * 2 ^ 30 := by
    rw [UInt32.toNat_and, bit, Nat.and_two_pow]
  cases set : tag.toNat.testBit 30 with
  | false =>
    left
    apply UInt32.toNat_inj.mp
    rw [value, set]
    rfl
  | true =>
    right
    apply UInt32.toNat_inj.mp
    rw [value, set]
    rfl

theorem or_bit_of_marked {tag : UInt32} (marked : tag &&& mutexWaitersBit ≠ 0) :
    tag ||| mutexWaitersBit = tag := by
  have bit := (and_bit_cases tag).resolve_left marked
  have parts := fields_or tag
  rw [bit] at parts
  rw [UInt32.or_comm, ← parts, ← UInt32.or_assoc, UInt32.or_self]

theorem or_bit_and_bit (tag : UInt32) :
    (tag ||| mutexWaitersBit) &&& mutexWaitersBit = mutexWaitersBit := by
  rw [or_and_distrib, UInt32.and_self]
  rcases and_bit_cases tag with bare | marked
  · rw [bare, UInt32.zero_or]
  · rw [marked, UInt32.or_self]

/-- Two words have no owner. -/
theorem and_mask_eq_zero_iff {tag : UInt32} :
    tag &&& mutexOwnerMask = 0 ↔ tag = 0 ∨ tag = mutexWaitersBit := by
  constructor
  · intro ownerless
    have parts := fields_or tag
    rw [ownerless, UInt32.or_zero] at parts
    rw [← parts]
    exact and_bit_cases tag
  · rintro (rfl | rfl)
    · exact UInt32.zero_and
    · exact bit_and_mask

/-- The owner field of a tag that the kernel writes. -/
theorem ownedTag_and_mask (owner : Handle) (contended : Bool) :
    ownedTag owner contended &&& mutexOwnerMask = owner &&& mutexOwnerMask := by
  cases contended with
  | false => exact masked_and_mask owner
  | true =>
    change ((owner &&& mutexOwnerMask) ||| mutexWaitersBit) &&& mutexOwnerMask = _
    rw [or_and_distrib, masked_and_mask, bit_and_mask, UInt32.or_zero]

/-- The bit of the waiters of a tag that the kernel writes. -/
theorem ownedTag_and_bit (owner : Handle) (contended : Bool) :
    ownedTag owner contended &&& mutexWaitersBit = if contended then mutexWaitersBit else 0 := by
  cases contended with
  | false => exact masked_and_bit owner
  | true =>
    change ((owner &&& mutexOwnerMask) ||| mutexWaitersBit) &&& mutexWaitersBit = _
    rw [or_and_distrib, masked_and_bit, UInt32.and_self, UInt32.zero_or]
    rfl

theorem ownedTag_and_bit_ne_zero_iff (owner : Handle) (contended : Bool) :
    ownedTag owner contended &&& mutexWaitersBit ≠ 0 ↔ contended = true := by
  rw [ownedTag_and_bit]
  cases contended with
  | false => simp
  | true => simp [mutexWaitersBit_ne_zero]

theorem ownedTag_or_bit (owner : Handle) (contended : Bool) :
    ownedTag owner contended ||| mutexWaitersBit = ownedTag owner true := by
  cases contended with
  | false => rfl
  | true =>
    change (owner &&& mutexOwnerMask) ||| mutexWaitersBit ||| mutexWaitersBit = _
    rw [UInt32.or_assoc, UInt32.or_self]
    rfl

theorem ownedTag_ne_zero {owner : Handle} (contended : Bool)
    (owned : owner &&& mutexOwnerMask ≠ 0) : ownedTag owner contended ≠ 0 := by
  intro zero
  apply owned
  rw [← ownedTag_and_mask owner contended, zero, UInt32.zero_and]

theorem masked_eq_iff {handle : Handle} :
    handle &&& mutexOwnerMask = handle ↔ handle &&& mutexWaitersBit = 0 := by
  constructor
  · intro same
    rw [← same]
    exact masked_and_bit handle
  · exact masked_of_clear

/-- A handle that the owner field can hold, other than the one that says that nobody is the owner. -/
structure FitsTag (handle : Handle) : Prop where
  ne_zero : handle ≠ 0
  clear : handle &&& mutexWaitersBit = 0

/-- The owner field is the handle, and says that there is an owner. -/
def Names (tag : UInt32) (handle : Handle) : Prop :=
  tag &&& mutexOwnerMask = handle ∧ tag &&& mutexOwnerMask ≠ 0

/-- A tag that is written for a handle names it if and only if the handle fits. -/
theorem names_iff_of_field {tag : UInt32} {handle : Handle}
    (field : tag &&& mutexOwnerMask = handle &&& mutexOwnerMask) :
    Names tag handle ↔ FitsTag handle := by
  rw [Names, field, masked_eq_iff]
  constructor
  · rintro ⟨clear, owned⟩
    rw [masked_of_clear clear] at owned
    exact ⟨owned, clear⟩
  · rintro ⟨ne_zero, clear⟩
    rw [masked_of_clear clear]
    exact ⟨clear, ne_zero⟩

theorem fitsTag_of_lt {handle : Handle} (positive : 0 < handle.toNat)
    (low : handle.toNat < mutexWaitersBit.toNat) : FitsTag handle := by
  refine ⟨?_, ?_⟩
  · rintro rfl
    exact Nat.lt_irrefl 0 positive
  · apply UInt32.toNat_inj.mp
    have bit : mutexWaitersBit.toNat = 2 ^ 30 := rfl
    have unset : handle.toNat.testBit 30 = false := Nat.testBit_lt_two_pow (bit ▸ low)
    rw [UInt32.toNat_and, bit, Nat.and_two_pow, unset]
    rfl

end GuestKernel
