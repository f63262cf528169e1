import Mathlib
import GuestKernel.Memory.LittleEndian.Lemmas
import GuestKernel.Memory.Value

/-!
# The types of the values in guest memory

A value of one of these types has an `image`: the number that its bytes stand for, with
`x mod 2 ^ n` for a negative `x` of `n` bits. `value_encode` and `image_decode` say that the
conversions of the types go through the image, and that they undo each other follows from it.
-/

set_option autoImplicit false

namespace GuestKernel

inductive GuestType where
  | u8 | u16 | u32 | u64
  | i8 | i16 | i32 | i64
  | quad
  deriving DecidableEq

namespace GuestType

open LittleEndian

abbrev Value : GuestType → Type
  | u8 => UInt8
  | u16 => UInt16
  | u32 => UInt32
  | u64 => UInt64
  | i8 => Int8
  | i16 => Int16
  | i32 => Int32
  | i64 => Int64
  | quad => Vector UInt32 4

instance : (t : GuestType) → GuestValue t.Value
  | u8 => inferInstanceAs (GuestValue UInt8)
  | u16 => inferInstanceAs (GuestValue UInt16)
  | u32 => inferInstanceAs (GuestValue UInt32)
  | u64 => inferInstanceAs (GuestValue UInt64)
  | i8 => inferInstanceAs (GuestValue Int8)
  | i16 => inferInstanceAs (GuestValue Int16)
  | i32 => inferInstanceAs (GuestValue Int32)
  | i64 => inferInstanceAs (GuestValue Int64)
  | quad => inferInstanceAs (GuestValue (Vector UInt32 4))

/-- The number of bytes of a value. -/
def size : GuestType → Nat
  | u8 | i8 => 1
  | u16 | i16 => 2
  | u32 | i32 => 4
  | u64 | i64 => 8
  | quad => 16

abbrev width (t : GuestType) : Nat := GuestValue.width t.Value

/-- The number that a value is in memory: `x mod 2 ^ n` of a number with `n` bits, and four numbers
as the digits of one to the base `2 ^ 32`. -/
def image : (t : GuestType) → t.Value → Nat
  | u8, x => x.toNat
  | u16, x => x.toNat
  | u32, x => x.toNat
  | u64, x => x.toNat
  | i8, x => (x.toInt % 2 ^ 8).toNat
  | i16, x => (x.toInt % 2 ^ 16).toNat
  | i32, x => (x.toInt % 2 ^ 32).toNat
  | i64, x => (x.toInt % 2 ^ 64).toNat
  | quad, x => (x.get 0).toNat + 2 ^ 32 * (x.get 1).toNat + 2 ^ 64 * (x.get 2).toNat +
      2 ^ 96 * (x.get 3).toNat

/-- The bits of a signed number are those of its remainder. -/
theorem toNat_emod_toInt {w : Nat} (x : BitVec w) : (x.toInt % 2 ^ w).toNat = x.toNat := by
  have back := congrArg BitVec.toNat (BitVec.ofInt_toInt (x := x))
  rw [BitVec.toNat_ofInt] at back
  exact_mod_cast back

theorem eq_of_emod_toInt {w : Nat} {x y : BitVec w}
    (same : (x.toInt % 2 ^ w).toNat = (y.toInt % 2 ^ w).toNat) : x = y := by
  rw [toNat_emod_toInt, toNat_emod_toInt] at same
  exact BitVec.eq_of_toNat_eq same

theorem value_encode_word (x : UInt32) : value (GuestValue.encode x) = x.toNat :=
  value_bytes_of_lt x.toNat_lt

theorem value_encode : (t : GuestType) → (x : t.Value) → value (GuestValue.encode x) = t.image x
  | u8, x => value_bytes_of_lt x.toNat_lt
  | u16, x => value_bytes_of_lt x.toNat_lt
  | u32, x => value_encode_word x
  | u64, x => value_bytes_of_lt x.toNat_lt
  | i8, x => (value_bytes_of_lt x.toUInt8.toNat_lt).trans (toNat_emod_toInt x.toBitVec).symm
  | i16, x => (value_bytes_of_lt x.toUInt16.toNat_lt).trans (toNat_emod_toInt x.toBitVec).symm
  | i32, x => (value_bytes_of_lt x.toUInt32.toNat_lt).trans (toNat_emod_toInt x.toBitVec).symm
  | i64, x => (value_bytes_of_lt x.toUInt64.toNat_lt).trans (toNat_emod_toInt x.toBitVec).symm
  | quad, x => by
    change value (GuestValue.encode x[0] ++ GuestValue.encode x[1] ++ GuestValue.encode x[2] ++
      GuestValue.encode x[3]) = _
    simp only [value_append, value_encode_word]
    rfl

theorem image_decode_quad (v : Vector UInt8 16) : quad.image (GuestValue.decode v) = value v := by
  have small := value_lt v
  have word (i : Nat) (h : i < 4) : ((GuestValue.decode v : Vector UInt32 4)[i]).toNat =
      value v / 256 ^ (4 * i) % 256 ^ 4 := by
    have slice := value_slice (m := 4) v (4 * i) (by omega)
    rw [← slice]
    exact (congrArg UInt32.toNat (Vector.getElem_ofFn h)).trans
      (UInt32.toNat_ofNat_of_lt' (value_lt _))
  have whole (x : Vector UInt32 4) : quad.image x =
      x[0].toNat + 2 ^ 32 * x[1].toNat + 2 ^ 64 * x[2].toNat + 2 ^ 96 * x[3].toNat := rfl
  rw [whole, word 0 (by decide), word 1 (by decide), word 2 (by decide), word 3 (by decide)]
  omega

theorem image_decode : (t : GuestType) → (v : Vector UInt8 t.width) →
    t.image (GuestValue.decode v) = value v
  | u8, v => UInt8.toNat_ofNat_of_lt' (value_lt v)
  | u16, v => UInt16.toNat_ofNat_of_lt' (value_lt v)
  | u32, v => UInt32.toNat_ofNat_of_lt' (value_lt v)
  | u64, v => UInt64.toNat_ofNat_of_lt' (value_lt v)
  | i8, v => (toNat_emod_toInt _).trans (UInt8.toNat_ofNat_of_lt' (value_lt v))
  | i16, v => (toNat_emod_toInt _).trans (UInt16.toNat_ofNat_of_lt' (value_lt v))
  | i32, v => (toNat_emod_toInt _).trans (UInt32.toNat_ofNat_of_lt' (value_lt v))
  | i64, v => (toNat_emod_toInt _).trans (UInt64.toNat_ofNat_of_lt' (value_lt v))
  | quad, v => image_decode_quad v

/-- The elements of an array are the digits of its image. -/
theorem toNat_getElem (x : Vector UInt32 4) (i : Nat) (h : i < 4) :
    x[i].toNat = quad.image x / 256 ^ (4 * i) % 256 ^ 4 := by
  have first := x[0].toNat_lt
  have second := x[1].toNat_lt
  have third := x[2].toNat_lt
  have fourth := x[3].toNat_lt
  have index : i = 0 ∨ i = 1 ∨ i = 2 ∨ i = 3 := by omega
  have whole : quad.image x =
      x[0].toNat + 2 ^ 32 * x[1].toNat + 2 ^ 64 * x[2].toNat + 2 ^ 96 * x[3].toNat := rfl
  rw [whole]
  rcases index with rfl | rfl | rfl | rfl
  · omega
  · omega
  · omega
  · omega

/-- No two values of a type have one image. -/
theorem image_injective : (t : GuestType) → Function.Injective t.image
  | u8, _, _, same => UInt8.toNat_inj.mp same
  | u16, _, _, same => UInt16.toNat_inj.mp same
  | u32, _, _, same => UInt32.toNat_inj.mp same
  | u64, _, _, same => UInt64.toNat_inj.mp same
  | i8, _, _, same => Int8.toBitVec_inj.mp (eq_of_emod_toInt same)
  | i16, _, _, same => Int16.toBitVec_inj.mp (eq_of_emod_toInt same)
  | i32, _, _, same => Int32.toBitVec_inj.mp (eq_of_emod_toInt same)
  | i64, _, _, same => Int64.toBitVec_inj.mp (eq_of_emod_toInt same)
  | quad, x, y, same => by
    apply Vector.ext
    intro i h
    apply UInt32.toNat_inj.mp
    rw [toNat_getElem x i h, toNat_getElem y i h, same]

variable (t : GuestType)

theorem width_eq_size : t.width = t.size := by
  cases t <;> rfl

theorem width_le_maxBuffer : t.width ≤ GuestMemory.maxBuffer := by
  cases t <;> decide

theorem decode_encode (x : t.Value) : GuestValue.decode (GuestValue.encode x) = x := by
  apply t.image_injective
  rw [image_decode, value_encode]

theorem encode_decode (v : Vector UInt8 t.width) :
    GuestValue.encode (GuestValue.decode v : t.Value) = v := by
  rw [← bytes_value (GuestValue.encode _), value_encode, image_decode, bytes_value]

end GuestType

end GuestKernel
