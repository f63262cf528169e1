import GuestKernel.Error

/-!
# Channels into guest memory

A memory channel moves whole buffers between the kernel and the guest, or fails. It is a parameter
of everything that touches guest memory: a type `M` of channel states with two operations.

Nothing is assumed here about what a channel remembers; channels that do remember are `Window` and
`FileImage`.
-/

set_option autoImplicit false

namespace GuestKernel

/-- The operations of a memory channel whose states are of type `M`. -/
class MemoryChannel (M : Type) where
  /-- Reads `size` bytes from `address` on. -/
  readAt (channel : M) (address : VirtAddr) (size : Nat) : Except IoError (Vector UInt8 size) × M
  /-- Writes the bytes from `address` on. -/
  writeAt {size : Nat} (channel : M) (address : VirtAddr) (bytes : Vector UInt8 size) :
    Except IoError Unit × M

end GuestKernel
