/-!
# Bytes under addresses

A `ByteStore` keeps what was written, the latest write first; a byte that was never written is
zero. `byteAt_write` is all that its users need: a write overwrites the bytes under its own
addresses and leaves every other byte alone. The addresses are numbers without a bound, so a store
can stand for an area that is mostly empty.
-/

set_option autoImplicit false

namespace GuestKernel

/-- Bytes under addresses after the ones from `start` on have been written over. -/
def overwrite {size : Nat} (bytes : Nat → UInt8) (start : Nat) (written : Vector UInt8 size) :
    Nat → UInt8 := fun a =>
  if h : start ≤ a ∧ a - start < size then written[a - start] else bytes a

theorem overwrite_inside {size : Nat} (bytes : Nat → UInt8) (start : Nat)
    (written : Vector UInt8 size) (i : Nat) (h : i < size) :
    overwrite bytes start written (start + i) = written[i] := by
  simp [overwrite, h]

theorem overwrite_outside {size : Nat} (bytes : Nat → UInt8) (start : Nat)
    (written : Vector UInt8 size) (a : Nat) (h : a < start ∨ start + size ≤ a) :
    overwrite bytes start written a = bytes a := by
  have outside : ¬ (start ≤ a ∧ a - start < size) := by omega
  simp [overwrite, outside]

/-- Bytes written at consecutive addresses. -/
structure Patch where
  start : Nat
  bytes : Array UInt8
  deriving DecidableEq

/-- The byte that a patch puts at an address, if it covers it. -/
def Patch.byteAt? (patch : Patch) (a : Nat) : Option UInt8 :=
  if patch.start ≤ a then patch.bytes[a - patch.start]? else none

/-- Everything that was written, the latest first. -/
structure ByteStore where
  patches : List Patch
  deriving DecidableEq

namespace ByteStore

/-- The store of which every byte is zero. -/
def zeros : ByteStore := ⟨[]⟩

/-- The byte at an address: of the latest write that covers it. -/
def byteAt (store : ByteStore) (a : Nat) : UInt8 :=
  (store.patches.findSome? fun patch => patch.byteAt? a).getD 0

/-- The `size` bytes from an address on. -/
def read (store : ByteStore) (start size : Nat) : Vector UInt8 size :=
  .ofFn fun i => store.byteAt (start + i)

/-- Writes bytes from an address on. -/
def write {size : Nat} (store : ByteStore) (start : Nat) (bytes : Vector UInt8 size) : ByteStore :=
  ⟨⟨start, bytes.toArray⟩ :: store.patches⟩

@[simp] theorem byteAt_zeros (a : Nat) : zeros.byteAt a = 0 := rfl

theorem byteAt_write {size : Nat} (store : ByteStore) (start : Nat) (bytes : Vector UInt8 size) :
    (store.write start bytes).byteAt = overwrite store.byteAt start bytes := by
  funext a
  simp only [byteAt, write, List.findSome?_cons, Patch.byteAt?, overwrite]
  by_cases low : start ≤ a
  · by_cases high : a - start < size
    · simp [low, high]
    · simp [low, high]
  · simp [low]

@[simp] theorem getElem_read (store : ByteStore) (start size i : Nat) (h : i < size) :
    (store.read start size)[i] = store.byteAt (start + i) := by
  simp [read]

theorem read_write_same {size : Nat} (store : ByteStore) (start : Nat)
    (bytes : Vector UInt8 size) : (store.write start bytes).read start size = bytes := by
  ext i h
  simp [byteAt_write, overwrite_inside, h]

end ByteStore

end GuestKernel
