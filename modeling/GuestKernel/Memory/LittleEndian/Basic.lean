/-!
# Numbers as bytes

`LittleEndian.bytes` writes a number as bytes, the least significant first, and
`LittleEndian.value` reads such bytes. That the two undo each other is in
`GuestKernel.Memory.LittleEndian.Lemmas`.
-/

set_option autoImplicit false

namespace GuestKernel

namespace LittleEndian

/-- The `width` lowest bytes of a number, the least significant first. -/
def bytes (width n : Nat) : Vector UInt8 width :=
  .ofFn fun i => .ofNat (n >>> (8 * i.val))

/-- The number that a list of bytes stands for, the least significant first. -/
def ofList : List UInt8 → Nat
  | [] => 0
  | b :: rest => b.toNat + 256 * ofList rest

/-- The number that bytes stand for. -/
def value {width : Nat} (v : Vector UInt8 width) : Nat := ofList v.toList

end LittleEndian

end GuestKernel
