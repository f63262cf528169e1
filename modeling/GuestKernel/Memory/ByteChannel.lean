import GuestKernel.Memory.ByteStore
import GuestKernel.Memory.Channel

/-!
# Channels that carry bytes

A `ByteChannel` is a memory channel behind which there is a byte under every address: a read that
succeeds gives these bytes, a write that succeeds overwrites them, and nothing else changes them.
Which accesses succeed is NOT part of the law; any of them may fail, without an effect on the bytes.
-/

set_option autoImplicit false

namespace GuestKernel

/-- A memory channel in front of bytes. -/
class ByteChannel (M : Type) extends MemoryChannel M where
  /-- The byte under an address. -/
  byteAt : M → Nat → UInt8
  byteAt_readAt (channel : M) (address : VirtAddr) (size : Nat) :
    byteAt (MemoryChannel.readAt channel address size).2 = byteAt channel
  read_ok {channel : M} {address : VirtAddr} {size : Nat} {bytes : Vector UInt8 size} :
    (MemoryChannel.readAt channel address size).1 = .ok bytes →
      ∀ (i : Nat) (h : i < size), bytes[i] = byteAt channel (address.toNat + i)
  byteAt_writeAt_ok {channel : M} {address : VirtAddr} {size : Nat} {bytes : Vector UInt8 size} :
    (MemoryChannel.writeAt channel address bytes).1 = .ok () →
      byteAt (MemoryChannel.writeAt channel address bytes).2 =
        overwrite (byteAt channel) address.toNat bytes
  byteAt_writeAt_error {channel : M} {address : VirtAddr} {size : Nat} {bytes : Vector UInt8 size}
    {cause : IoError} :
    (MemoryChannel.writeAt channel address bytes).1 = .error cause →
      byteAt (MemoryChannel.writeAt channel address bytes).2 = byteAt channel

end GuestKernel
