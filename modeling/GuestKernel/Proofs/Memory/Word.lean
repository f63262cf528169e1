import Mathlib
import GuestKernel.Memory.ByteChannel
import GuestKernel.Memory.Value
import GuestKernel.Proofs.Memory.GuestType

/-!
# Words in guest memory

`GuestMemory.wordAt` is the 32-bit number under an address, read past the channel. A read that
succeeds gives it and changes no byte; a write that succeeds replaces it; a write that fails leaves
every byte alone. For a channel of which nothing is known, `readValue_cases` and `writeValue_cases`
say what a call leaves.
-/

set_option autoImplicit false

namespace GuestKernel

namespace GuestMemory

section AnyChannel
variable {M : Type} [MemoryChannel M] (c : M) (address : VirtAddr)

/-- A read asks the channel once and passes its answer on. -/
theorem readWord_cases :
    (∃ bytes : Vector UInt8 4, (MemoryChannel.readAt c address 4).1 = .ok bytes ∧
      readValue UInt32 address c =
        ⟨.ok (GuestValue.decode bytes), (MemoryChannel.readAt c address 4).2, []⟩) ∨
    (∃ cause, (MemoryChannel.readAt c address 4).1 = .error cause ∧
      readValue UInt32 address c =
        ⟨.error (.error (accessFailure address 4 cause)), (MemoryChannel.readAt c address 4).2,
          [.readFailed 4 address cause]⟩) := by
  have width : GuestValue.width UInt32 = 4 := rfl
  have unfolded : readValue UInt32 address c =
      Action.andThen (read address 4 c) fun bytes => pure (GuestValue.decode bytes) := rfl
  rcases h : MemoryChannel.readAt c address 4 with ⟨answer, after⟩
  cases answer with
  | ok bytes =>
    refine Or.inl ⟨bytes, rfl, ?_⟩
    rw [unfolded]
    simp [read, h, maxBuffer]
  | error cause =>
    refine Or.inr ⟨cause, rfl, ?_⟩
    rw [unfolded]
    simp [read, h, maxBuffer]

/-- A write asks the channel once and passes its answer on. -/
theorem writeWord_cases (value : UInt32) :
    ((MemoryChannel.writeAt c address (GuestValue.encode value)).1 = .ok () ∧
      writeValue address value c =
        ⟨.ok (), (MemoryChannel.writeAt c address (GuestValue.encode value)).2, []⟩) ∨
    (∃ cause, (MemoryChannel.writeAt c address (GuestValue.encode value)).1 = .error cause ∧
      writeValue address value c =
        ⟨.error (.error (accessFailure address 4 cause)),
          (MemoryChannel.writeAt c address (GuestValue.encode value)).2,
          [.writeFailed 4 address cause]⟩) := by
  have width : GuestValue.width UInt32 = 4 := rfl
  rcases h : MemoryChannel.writeAt c address (GuestValue.encode value) with ⟨answer, after⟩
  cases answer with
  | ok done =>
    refine Or.inl ⟨rfl, ?_⟩
    simp [writeValue, write, h, width]
  | error cause =>
    refine Or.inr ⟨cause, rfl, ?_⟩
    simp [writeValue, write, h, width]

variable {c address} {d : M} {log : List LogRecord} {value : UInt32} {fault : Fault}

/-- An access to a word fails for one reason only. -/
theorem fault_of_readWord (h : readValue UInt32 address c = ⟨.error fault, d, log⟩) :
    ∃ cause, fault = .error (accessFailure address 4 cause) := by
  rcases readWord_cases c address with ⟨_, _, read⟩ | ⟨cause, _, read⟩
  · rw [h] at read
    cases read
  · rw [h] at read
    cases read
    exact ⟨cause, rfl⟩

theorem fault_of_writeWord (h : writeValue address value c = ⟨.error fault, d, log⟩) :
    ∃ cause, fault = .error (accessFailure address 4 cause) := by
  rcases writeWord_cases c address value with ⟨_, written⟩ | ⟨cause, _, written⟩
  · rw [h] at written
    cases written
  · rw [h] at written
    cases written
    exact ⟨cause, rfl⟩

end AnyChannel

section Bytes
variable {M : Type} [ByteChannel M] {c d : M} {address : VirtAddr}

/-- The word under an address. -/
def wordAt (c : M) (address : VirtAddr) : UInt32 :=
  GuestValue.decode (.ofFn fun i => ByteChannel.byteAt c (address.toNat + i.val))

theorem wordAt_congr (h : ByteChannel.byteAt d = ByteChannel.byteAt c) :
    wordAt d address = wordAt c address := by
  rw [wordAt, wordAt, h]

theorem wordAt_of_overwrite {value : UInt32}
    (h : ByteChannel.byteAt d =
      overwrite (ByteChannel.byteAt c) address.toNat (GuestValue.encode value)) :
    wordAt d address = value := by
  have bytes : (Vector.ofFn fun i : Fin (GuestValue.width UInt32) =>
      ByteChannel.byteAt d (address.toNat + i.val)) = GuestValue.encode value := by
    apply Vector.ext
    intro i hi
    rw [Vector.getElem_ofFn, h, overwrite_inside]
  rw [wordAt, bytes]
  exact GuestType.u32.decode_encode value

variable {log : List LogRecord} {value : UInt32} {fault : Fault}

theorem byteAt_of_readWord {answer : Except Fault UInt32}
    (h : readValue UInt32 address c = ⟨answer, d, log⟩) :
    ByteChannel.byteAt d = ByteChannel.byteAt c := by
  rcases readWord_cases c address with ⟨_, _, read⟩ | ⟨_, _, read⟩
  · rw [h] at read
    cases read
    exact ByteChannel.byteAt_readAt c address 4
  · rw [h] at read
    cases read
    exact ByteChannel.byteAt_readAt c address 4

/-- A read that succeeds gives the word. -/
theorem eq_wordAt_of_readWord (h : readValue UInt32 address c = ⟨.ok value, d, log⟩) :
    value = wordAt c address := by
  rcases readWord_cases c address with ⟨bytes, answer, read⟩ | ⟨cause, _, read⟩
  · rw [h] at read
    cases read
    have same : bytes = .ofFn fun i => ByteChannel.byteAt c (address.toNat + i.val) := by
      apply Vector.ext
      intro i hi
      rw [Vector.getElem_ofFn]
      exact ByteChannel.read_ok answer i hi
    rw [same]
    rfl
  · rw [h] at read
    cases read

theorem byteAt_of_writeWord_ok (h : writeValue address value c = ⟨.ok (), d, log⟩) :
    ByteChannel.byteAt d =
      overwrite (ByteChannel.byteAt c) address.toNat (GuestValue.encode value) := by
  rcases writeWord_cases c address value with ⟨answer, written⟩ | ⟨cause, _, written⟩
  · rw [h] at written
    cases written
    exact ByteChannel.byteAt_writeAt_ok answer
  · rw [h] at written
    cases written

theorem byteAt_of_writeWord_error (h : writeValue address value c = ⟨.error fault, d, log⟩) :
    ByteChannel.byteAt d = ByteChannel.byteAt c := by
  rcases writeWord_cases c address value with ⟨_, written⟩ | ⟨cause, answer, written⟩
  · rw [h] at written
    cases written
  · rw [h] at written
    cases written
    exact ByteChannel.byteAt_writeAt_error answer

/-- A write that succeeds replaces the word. -/
theorem wordAt_of_writeWord_ok (h : writeValue address value c = ⟨.ok (), d, log⟩) :
    wordAt d address = value :=
  wordAt_of_overwrite (byteAt_of_writeWord_ok h)

theorem wordAt_of_writeWord_error (h : writeValue address value c = ⟨.error fault, d, log⟩) :
    wordAt d address = wordAt c address :=
  wordAt_congr (byteAt_of_writeWord_error h)

theorem wordAt_of_readWord {answer : Except Fault UInt32}
    (h : readValue UInt32 address c = ⟨answer, d, log⟩) : wordAt d address = wordAt c address :=
  wordAt_congr (byteAt_of_readWord h)

end Bytes

end GuestMemory

end GuestKernel
