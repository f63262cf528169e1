import Mathlib
import GuestKernel.Memory.LittleEndian.Basic

/-!
# Numbers as bytes: the two conversions undo each other

`value_bytes` says that reading the bytes of a number gives back as much of it as they hold, and
`bytes_value` that bytes are the bytes of the number that they stand for. `value_append` and
`value_slice` say what bytes stand for that are put together, or cut out of others.
-/

set_option autoImplicit false

namespace GuestKernel

namespace LittleEndian

theorem ofList_lt (l : List UInt8) : ofList l < 256 ^ l.length := by
  induction l with
  | nil => simp [ofList]
  | cons b rest ih =>
    have small := b.toNat_lt
    rw [ofList, List.length_cons, pow_succ]
    omega

theorem value_lt {width : Nat} (v : Vector UInt8 width) : value v < 256 ^ width := by
  have h := ofList_lt v.toList
  rwa [Vector.length_toList] at h

/-- The bytes of a number as a list, by division. -/
def digits : Nat → Nat → List UInt8
  | 0, _ => []
  | width + 1, n => .ofNat n :: digits width (n / 256)

theorem shiftRight_succ_byte (n i : Nat) : n >>> (8 * (i + 1)) = (n / 256) >>> (8 * i) := by
  have byte : n >>> 8 = n / 256 := Nat.shiftRight_eq_div_pow n 8
  rw [Nat.mul_add, Nat.mul_one, Nat.add_comm, Nat.shiftRight_add, byte]

theorem toList_bytes (width n : Nat) : (bytes width n).toList = digits width n := by
  induction width generalizing n with
  | zero => simp [bytes, digits]
  | succ width ih =>
    rw [digits, ← ih]
    simp only [bytes, Vector.toList_ofFn, List.ofFn_succ, Fin.val_zero, Nat.mul_zero,
      Nat.shiftRight_zero, Fin.val_succ, shiftRight_succ_byte]

theorem ofList_digits (width n : Nat) : ofList (digits width n) = n % 256 ^ width := by
  induction width generalizing n with
  | zero => simp [digits, ofList, Nat.mod_one]
  | succ width ih =>
    have byte : (UInt8.ofNat n).toNat = n % 256 := UInt8.toNat_ofNat'
    rw [digits, ofList, ih, byte, pow_succ', Nat.mod_mul]

theorem digits_ofList (l : List UInt8) : digits l.length (ofList l) = l := by
  induction l with
  | nil => rfl
  | cons b rest ih =>
    have small := b.toNat_lt
    have low : UInt8.ofNat (b.toNat + 256 * ofList rest) = b := by
      apply UInt8.toNat_inj.mp
      rw [UInt8.toNat_ofNat']
      omega
    have high : (b.toNat + 256 * ofList rest) / 256 = ofList rest := by omega
    rw [List.length_cons, digits, ofList, low, high, ih]

/-- Reading the bytes of a number gives back as much of it as they hold. -/
theorem value_bytes (width n : Nat) : value (bytes width n) = n % 256 ^ width := by
  rw [value, toList_bytes, ofList_digits]

/-- Bytes are the bytes of the number that they stand for. -/
theorem bytes_value {width : Nat} (v : Vector UInt8 width) : bytes width (value v) = v := by
  apply Vector.toList_inj.mp
  have h := digits_ofList v.toList
  rw [Vector.length_toList] at h
  rw [toList_bytes, value, h]

section Parts
variable {width m n : Nat}

theorem value_bytes_of_lt (h : n < 256 ^ width) : value (bytes width n) = n := by
  rw [value_bytes, Nat.mod_eq_of_lt h]

theorem getElem_bytes (width n i : Nat) (h : i < width) :
    (bytes width n)[i] = .ofNat (n / 256 ^ i) := by
  have power : 2 ^ (8 * i) = 256 ^ i := pow_mul 2 8 i
  rw [bytes, Vector.getElem_ofFn, Nat.shiftRight_eq_div_pow, power]

theorem ofList_append (l r : List UInt8) :
    ofList (l ++ r) = ofList l + 256 ^ l.length * ofList r := by
  induction l with
  | nil => simp [ofList]
  | cons b rest ih =>
    rw [List.cons_append, ofList, ofList, ih, List.length_cons, pow_succ]
    ring

theorem value_append (v : Vector UInt8 m) (w : Vector UInt8 n) :
    value (v ++ w) = value v + 256 ^ m * value w := by
  rw [value, Vector.toList_append, ofList_append, Vector.length_toList, value, value]

/-- The number at an offset inside a wider one. -/
theorem value_slice (v : Vector UInt8 n) (offset : Nat) (inside : offset + m ≤ n) :
    value (.ofFn fun i : Fin m => v[offset + i.val]) = value v / 256 ^ offset % 256 ^ m := by
  have same : (Vector.ofFn fun i : Fin m => v[offset + i.val]) =
      bytes m (value v / 256 ^ offset) := by
    ext i h
    have byte : v[offset + i] = .ofNat (value v / 256 ^ (offset + i)) := by
      rw [← getElem_bytes n (value v) (offset + i) (by omega)]
      simp only [bytes_value]
    rw [getElem_bytes, Nat.div_div_eq_div_mul, ← pow_add, ← byte, Vector.getElem_ofFn]
  rw [same, value_bytes]

end Parts

end LittleEndian

end GuestKernel
