import GuestKernel.Action
import GuestKernel.Memory.Channel

/-!
# Reading, writing and copying guest memory

The three accesses of the kernel to guest memory, over any channel. Nothing is asked of the channel
for an empty buffer, and nothing for one that is too large to be made. A failure of the channel is
logged and becomes a refusal with the address and the size of the access; it is not tried again.

A copy reads everything before it writes anything, so its two ranges may overlap; when the write
fails the read has happened.
-/

set_option autoImplicit false

namespace GuestKernel

namespace GuestMemory

variable {M : Type} [MemoryChannel M]

/-- The refusal because of a failed access. -/
def accessFailure (address : VirtAddr) (size : Nat) (cause : IoError) : KernelError :=
  .memoryAccessFailure address (.ofNat size) cause

/-- The size of the largest buffer: no distance within a buffer is negative as a signed word. -/
def maxBuffer : Nat := 0x7FFFFFFFFFFFFFFF

/-- Reads `size` bytes from `address` on, into a buffer of its own. -/
def read (address : VirtAddr) (size : Nat) : Action M (Vector UInt8 size) := fun channel =>
  if size = 0 then ⟨.ok (.replicate size 0), channel, []⟩
  else if maxBuffer < size then ⟨.error .bufferTooLarge, channel, []⟩
  else
    match MemoryChannel.readAt channel address size with
    | (.ok bytes, channel) => ⟨.ok bytes, channel, []⟩
    | (.error cause, channel) =>
      ⟨.error (.error (accessFailure address size cause)), channel,
        [.readFailed (.ofNat size) address cause]⟩

/-- Writes bytes from `address` on. -/
def write {size : Nat} (address : VirtAddr) (bytes : Vector UInt8 size) :
    Action M Unit := fun channel =>
  if size = 0 then ⟨.ok (), channel, []⟩
  else
    match MemoryChannel.writeAt channel address bytes with
    | (.ok _, channel) => ⟨.ok (), channel, []⟩
    | (.error cause, channel) =>
      ⟨.error (.error (accessFailure address size cause)), channel,
        [.writeFailed (.ofNat size) address cause]⟩

/-- Copies `size` bytes from one address to another. -/
def copy (source destination : VirtAddr) (size : Nat) : Action M Unit := do
  let bytes ← read source size
  write destination bytes

end GuestMemory

end GuestKernel
