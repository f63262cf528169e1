import GuestKernel.Memory.Access
import GuestKernel.Memory.LittleEndian.Basic

/-!
# Typed values in guest memory

The guest keeps numbers as bytes with the least significant one first, and negative numbers in
two's complement. `GuestValue` gives a type its width and its two conversions, and `readValue` and
`writeValue` move a value of such a type.
-/

set_option autoImplicit false

namespace GuestKernel

/-- A type whose values lie in guest memory. -/
class GuestValue (α : Type) where
  width : Nat
  encode : α → Vector UInt8 width
  decode : Vector UInt8 width → α

namespace GuestValue

instance : GuestValue UInt8 where
  width := 1
  encode x := LittleEndian.bytes 1 x.toNat
  decode v := .ofNat (LittleEndian.value v)

instance : GuestValue UInt16 where
  width := 2
  encode x := LittleEndian.bytes 2 x.toNat
  decode v := .ofNat (LittleEndian.value v)

instance : GuestValue UInt32 where
  width := 4
  encode x := LittleEndian.bytes 4 x.toNat
  decode v := .ofNat (LittleEndian.value v)

instance : GuestValue UInt64 where
  width := 8
  encode x := LittleEndian.bytes 8 x.toNat
  decode v := .ofNat (LittleEndian.value v)

instance : GuestValue Int8 where
  width := 1
  encode x := encode x.toUInt8
  decode v := (decode v : UInt8).toInt8

instance : GuestValue Int16 where
  width := 2
  encode x := encode x.toUInt16
  decode v := (decode v : UInt16).toInt16

instance : GuestValue Int32 where
  width := 4
  encode x := encode x.toUInt32
  decode v := (decode v : UInt32).toInt32

instance : GuestValue Int64 where
  width := 8
  encode x := encode x.toUInt64
  decode v := (decode v : UInt64).toInt64

/-- Four numbers behind each other. -/
instance : GuestValue (Vector UInt32 4) where
  width := 16
  encode x := encode x[0] ++ encode x[1] ++ encode x[2] ++ encode x[3]
  decode v := .ofFn fun i =>
    .ofNat (LittleEndian.value (.ofFn fun (j : Fin 4) => v[4 * i.val + j.val]))

end GuestValue

namespace GuestMemory

variable {M : Type} [MemoryChannel M]

def readValue (α : Type) [GuestValue α] (address : VirtAddr) : Action M α := do
  let bytes ← read address (GuestValue.width α)
  return GuestValue.decode bytes

def writeValue {α : Type} [GuestValue α] (address : VirtAddr) (value : α) : Action M Unit :=
  write address (GuestValue.encode value)

end GuestMemory

end GuestKernel
