import GuestKernel.Memory.ByteChannel

/-!
# A file of the host as a memory channel

A `FileChannel` is a file that the host has opened for reading and writing, with the path that it
was opened from. The memory of a process of the host is such a file too.

Which files a host has and which of them it opens is NOT decided here. The host is a parameter: it
answers a path with the file, or with its text for why it does not open it.
-/

set_option autoImplicit false

namespace GuestKernel

/-- A file that the host has opened, of a type `F` of memory channels. -/
structure FileChannel (F : Type) where
  file : F
  path : String
  deriving DecidableEq

namespace FileChannel

variable {F : Type}

/-- Opens a memory channel at a path. -/
def ofPath (host : String → Except String F) (path : String) :
    Except KernelError (FileChannel F) :=
  match host path with
  | .ok file => .ok ⟨file, path⟩
  | .error message => .error (.channelOpen path message)

/-- Opens a memory channel into a process of the host. -/
def ofProcess (host : String → Except String F) (pid : UInt32) :
    Except KernelError (FileChannel F) :=
  ofPath host s!"/proc/{pid.toNat}/mem"

instance [MemoryChannel F] : MemoryChannel (FileChannel F) where
  readAt channel address size :=
    let (outcome, file) := MemoryChannel.readAt channel.file address size
    (outcome, { channel with file })
  writeAt channel address bytes :=
    let (outcome, file) := MemoryChannel.writeAt channel.file address bytes
    (outcome, { channel with file })

instance [ByteChannel F] : ByteChannel (FileChannel F) where
  byteAt channel := ByteChannel.byteAt channel.file
  byteAt_readAt channel := ByteChannel.byteAt_readAt channel.file
  read_ok := ByteChannel.read_ok (M := F)
  byteAt_writeAt_ok := ByteChannel.byteAt_writeAt_ok (M := F)
  byteAt_writeAt_error := ByteChannel.byteAt_writeAt_error (M := F)

end FileChannel

end GuestKernel
