import GuestKernel.Memory.ByteChannel

/-!
# Guest memory in a file of the host

A `FileImage` is a memory channel whose addresses are offsets in a file. A read that reaches past
the end of the file fails; a write past the end makes the file longer, and what lies between reads
as zeros. The host counts offsets with 63 bits and refuses an access whose end they do not hold.
-/

set_option autoImplicit false

namespace GuestKernel

/-- A file of the host as a memory channel. -/
structure FileImage where
  length : Nat
  store : ByteStore
  deriving DecidableEq

namespace FileImage

/-- A file of zeros. -/
def new (length : Nat) : FileImage := ⟨length, .zeros⟩

/-- The report of an offset that the host does not hold. -/
def invalidOffset : IoError := ⟨.invalidInput, "Invalid argument (os error 22)"⟩

/-- The report of a file that ends before the buffer is full. -/
def shortFile : IoError := ⟨.unexpectedEof, "failed to fill whole buffer"⟩

/-- The first offset that the host does not hold. -/
def offsetLimit : Nat := 0x8000000000000000

/-- Whether the host can count to the end of an access. -/
def countable (address : VirtAddr) (size : Nat) : Bool := address.toNat + size < offsetLimit

def readAt (file : FileImage) (address : VirtAddr) (size : Nat) :
    Except IoError (Vector UInt8 size) :=
  if !countable address size then .error invalidOffset
  else if file.length < address.toNat + size then .error shortFile
  else .ok (file.store.read address.toNat size)

def writeAt {size : Nat} (file : FileImage) (address : VirtAddr) (bytes : Vector UInt8 size) :
    Except IoError FileImage :=
  if !countable address size then .error invalidOffset
  else .ok ⟨max file.length (address.toNat + size), file.store.write address.toNat bytes⟩

instance : MemoryChannel FileImage where
  readAt file address size := (file.readAt address size, file)
  writeAt file address bytes :=
    match file.writeAt address bytes with
    | .ok file' => (.ok (), file')
    | .error cause => (.error cause, file)

theorem readAt_eq_read {file : FileImage} {address : VirtAddr} {size : Nat}
    {bytes : Vector UInt8 size} (done : file.readAt address size = .ok bytes) :
    bytes = file.store.read address.toNat size := by
  unfold readAt at done
  split at done
  · cases done
  · split at done
    · cases done
    · cases done
      rfl

theorem store_of_writeAt {file file' : FileImage} {address : VirtAddr} {size : Nat}
    {bytes : Vector UInt8 size} (done : file.writeAt address bytes = .ok file') :
    file'.store = file.store.write address.toNat bytes := by
  unfold writeAt at done
  split at done
  · cases done
  · cases done
    rfl

instance : ByteChannel FileImage where
  byteAt file := file.store.byteAt
  byteAt_readAt _ _ _ := rfl
  read_ok done i h := by
    rw [readAt_eq_read done, ByteStore.getElem_read]
  byteAt_writeAt_ok {file address size bytes} done := by
    simp only [MemoryChannel.writeAt] at done ⊢
    cases outcome : file.writeAt address bytes with
    | error cause => simp [outcome] at done
    | ok file' => simp only [store_of_writeAt outcome, ByteStore.byteAt_write]
  byteAt_writeAt_error {file address size bytes cause} failed := by
    simp only [MemoryChannel.writeAt] at failed ⊢
    cases outcome : file.writeAt address bytes with
    | error cause => rfl
    | ok file' => simp [outcome] at failed

end FileImage

end GuestKernel
