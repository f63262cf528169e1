import Mathlib
import GuestKernel.Memory.Window
import GuestKernel.Proofs.Memory.Word

/-!
# Channels that decide by direction and range

A `SteadyChannel` carries bytes and refuses an access or not by its direction, its address and its
length alone; no access changes what it refuses. Reading and writing a word of such a channel is a
function of the word and of two refusals.
-/

set_option autoImplicit false

namespace GuestKernel

def refused? {α : Type} : Except IoError α → Option IoError
  | .ok _ => none
  | .error cause => some cause

/-- A channel in front of bytes that refuses accesses by their direction and range. -/
class SteadyChannel (M : Type) extends ByteChannel M where
  refusal : M → Direction → VirtAddr → Nat → Option IoError
  refused_readAt (channel : M) (address : VirtAddr) (size : Nat) :
    refused? (MemoryChannel.readAt channel address size).1 = refusal channel .read address size
  refused_writeAt {size : Nat} (channel : M) (address : VirtAddr) (bytes : Vector UInt8 size) :
    refused? (MemoryChannel.writeAt channel address bytes).1 = refusal channel .write address size
  refusal_readAt (channel : M) (address : VirtAddr) (size : Nat) :
    refusal (MemoryChannel.readAt channel address size).2 = refusal channel
  refusal_writeAt {size : Nat} (channel : M) (address : VirtAddr) (bytes : Vector UInt8 size) :
    refusal (MemoryChannel.writeAt channel address bytes).2 = refusal channel

/-- The windows for which no failure is planned. -/
def CalmWindow : Type := {w : Window // w.readOutage = none ∧ w.writeOutage = none}

namespace CalmWindow

theorem calm_readAt {w : Window} (calm : w.readOutage = none ∧ w.writeOutage = none)
    (address : VirtAddr) (size : Nat) :
    (w.readAt address size).2.readOutage = none ∧ (w.readAt address size).2.writeOutage = none := by
  obtain ⟨reads, writes⟩ := calm
  simp only [Window.readAt, Window.noteCall, reads, Outage.meet]
  split
  · exact ⟨rfl, writes⟩
  · exact ⟨rfl, writes⟩

theorem calm_writeAt {w : Window} {size : Nat} (calm : w.readOutage = none ∧ w.writeOutage = none)
    (address : VirtAddr) (bytes : Vector UInt8 size) :
    (w.writeAt address bytes).2.readOutage = none ∧
      (w.writeAt address bytes).2.writeOutage = none := by
  obtain ⟨reads, writes⟩ := calm
  simp only [Window.writeAt, Window.noteCall, writes, Outage.meet]
  split
  · exact ⟨reads, rfl⟩
  · exact ⟨reads, rfl⟩

instance : ByteChannel CalmWindow where
  readAt w address size :=
    ((w.val.readAt address size).1,
      ⟨(w.val.readAt address size).2, calm_readAt w.property address size⟩)
  writeAt w address bytes :=
    ((w.val.writeAt address bytes).1,
      ⟨(w.val.writeAt address bytes).2, calm_writeAt w.property address bytes⟩)
  byteAt w := ByteChannel.byteAt w.val
  byteAt_readAt w := ByteChannel.byteAt_readAt w.val
  read_ok := ByteChannel.read_ok (M := Window)
  byteAt_writeAt_ok := ByteChannel.byteAt_writeAt_ok (M := Window)
  byteAt_writeAt_error := ByteChannel.byteAt_writeAt_error (M := Window)

def refusal (w : CalmWindow) (direction : Direction) (address : VirtAddr) (size : Nat) :
    Option IoError :=
  if w.val.covers address size then none
  else some (.ofKind (if direction = .read then .unexpectedEof else .writeZero))

theorem covers_readAt (w : Window) (address there : VirtAddr) (size length : Nat) :
    (w.readAt address size).2.covers there length = w.covers there length := by
  simp only [Window.readAt]
  split
  · rfl
  · split <;> rfl

theorem covers_writeAt (w : Window) {size : Nat} (address there : VirtAddr)
    (bytes : Vector UInt8 size) (length : Nat) :
    (w.writeAt address bytes).2.covers there length = w.covers there length := by
  simp only [Window.writeAt]
  split
  · rfl
  · split <;> rfl

theorem refused_readAt (w : CalmWindow) (address : VirtAddr) (size : Nat) :
    refused? (w.val.readAt address size).1 = refusal w .read address size := by
  simp only [Window.readAt, w.property.1, Outage.meet, Window.peek?, refusal, if_true]
  cases w.val.covers address size <;> rfl

theorem refused_writeAt (w : CalmWindow) {size : Nat} (address : VirtAddr)
    (bytes : Vector UInt8 size) :
    refused? (w.val.writeAt address bytes).1 = refusal w .write address size := by
  simp only [Window.writeAt, w.property.2, Outage.meet, refusal]
  cases w.val.covers address size <;> rfl

instance : SteadyChannel CalmWindow where
  refusal := refusal
  refused_readAt := refused_readAt
  refused_writeAt w address bytes := refused_writeAt w address bytes
  refusal_readAt w address size := by
    funext direction there length
    exact congrArg (fun inside : Bool => if inside then none else _)
      (covers_readAt w.val address there size length)
  refusal_writeAt w address bytes := by
    funext direction there length
    exact congrArg (fun inside : Bool => if inside then none else _)
      (covers_writeAt w.val address there bytes length)

def new (base : VirtAddr) (size : Size) : CalmWindow := ⟨.new base size, rfl, rfl⟩

end CalmWindow

namespace GuestMemory

/-- Bytes after a word was stored, or none was. -/
def storeWord (address : VirtAddr) : Option UInt32 → (Nat → UInt8) → Nat → UInt8
  | none, bytes => bytes
  | some word, bytes => overwrite bytes address.toNat (GuestValue.encode word)

/-- Words that share no byte. -/
def WordsApart (a b : VirtAddr) : Prop := a.toNat + 4 ≤ b.toNat ∨ b.toNat + 4 ≤ a.toNat

/-- What is written to ranges that are apart may be written in either order. -/
theorem overwrite_comm {m n a b : Nat} (bytes : Nat → UInt8) (v : Vector UInt8 m)
    (w : Vector UInt8 n) (apart : a + m ≤ b ∨ b + n ≤ a) :
    overwrite (overwrite bytes b w) a v = overwrite (overwrite bytes a v) b w := by
  funext x
  by_cases inside : a ≤ x ∧ x < a + m
  · obtain ⟨i, rfl⟩ := Nat.exists_eq_add_of_le inside.1
    have outside : a + i < b ∨ b + n ≤ a + i := by omega
    rw [overwrite_inside _ a v i (by omega), overwrite_outside _ b w _ outside,
      overwrite_inside _ a v i (by omega)]
  · have outside : x < a ∨ a + m ≤ x := by omega
    rw [overwrite_outside _ a v x outside]
    unfold overwrite
    split
    · rfl
    · exact (overwrite_outside bytes a v x outside).symm

theorem storeWord_comm {a b : VirtAddr} (apart : WordsApart a b) (first second : Option UInt32)
    (bytes : Nat → UInt8) :
    storeWord a first (storeWord b second bytes) =
      storeWord b second (storeWord a first bytes) := by
  cases first with
  | none => rfl
  | some v =>
    cases second with
    | none => rfl
    | some w => exact overwrite_comm bytes (GuestValue.encode v) (GuestValue.encode w) apart

section Steady
variable {M : Type} [SteadyChannel M] {c d e : M} {address there : VirtAddr} {word : Option UInt32}

/-- The channel after a word was stored, or none was. -/
structure Stored (c : M) (address : VirtAddr) (word : Option UInt32) (d : M) : Prop where
  bytes : ByteChannel.byteAt d = storeWord address word (ByteChannel.byteAt c)
  refusal : SteadyChannel.refusal d = SteadyChannel.refusal c

theorem Stored.refl (c : M) : Stored c address none c := ⟨rfl, rfl⟩

theorem Stored.after_none (first : Stored c address none d) (second : Stored d there word e) :
    Stored c there word e := by
  refine ⟨?_, second.refusal.trans first.refusal⟩
  rw [second.bytes, first.bytes]
  rfl

theorem Stored.wordAt (stored : Stored c address word d) (apart : WordsApart address there) :
    wordAt d there = wordAt c there := by
  cases word with
  | none => exact wordAt_congr stored.bytes
  | some value =>
    have width : GuestValue.width UInt32 = 4 := rfl
    unfold WordsApart at apart
    unfold GuestMemory.wordAt
    congr 2
    funext i
    have small := i.isLt
    rw [stored.bytes, storeWord, overwrite_outside]
    omega

variable {log : List LogRecord} {value : UInt32} {fault : Fault}

theorem stored_readAt (c : M) (address there : VirtAddr) (size : Nat) :
    Stored c there none (MemoryChannel.readAt c address size).2 :=
  ⟨ByteChannel.byteAt_readAt c address size, SteadyChannel.refusal_readAt c address size⟩

theorem readWord_ok (h : readValue UInt32 address c = ⟨.ok value, d, log⟩) :
    SteadyChannel.refusal c .read address 4 = none ∧ value = wordAt c address ∧
      Stored c address none d := by
  have word := eq_wordAt_of_readWord h
  rcases readWord_cases c address with ⟨bytes, answer, read⟩ | ⟨cause, answer, read⟩
  · rw [h] at read
    cases read
    refine ⟨?_, word, stored_readAt c address address 4⟩
    rw [← SteadyChannel.refused_readAt, answer]
    rfl
  · rw [h] at read
    cases read

theorem readWord_error (h : readValue UInt32 address c = ⟨.error fault, d, log⟩) :
    ∃ cause, SteadyChannel.refusal c .read address 4 = some cause ∧
      fault = .error (accessFailure address 4 cause) ∧ Stored c address none d := by
  rcases readWord_cases c address with ⟨bytes, answer, read⟩ | ⟨cause, answer, read⟩
  · rw [h] at read
    cases read
  · rw [h] at read
    cases read
    refine ⟨cause, ?_, rfl, stored_readAt c address address 4⟩
    rw [← SteadyChannel.refused_readAt, answer]
    rfl

theorem writeWord_ok (h : writeValue address value c = ⟨.ok (), d, log⟩) :
    SteadyChannel.refusal c .write address 4 = none ∧ Stored c address (some value) d := by
  have bytes := byteAt_of_writeWord_ok h
  rcases writeWord_cases c address value with ⟨answer, written⟩ | ⟨cause, answer, written⟩
  · rw [h] at written
    cases written
    refine ⟨?_, bytes, SteadyChannel.refusal_writeAt c address _⟩
    have same := SteadyChannel.refused_writeAt c address (GuestValue.encode value)
    rw [answer] at same
    exact same.symm
  · rw [h] at written
    cases written

theorem writeWord_error (h : writeValue address value c = ⟨.error fault, d, log⟩) :
    ∃ cause, SteadyChannel.refusal c .write address 4 = some cause ∧
      fault = .error (accessFailure address 4 cause) ∧ Stored c address none d := by
  have bytes := byteAt_of_writeWord_error h
  rcases writeWord_cases c address value with ⟨answer, written⟩ | ⟨cause, answer, written⟩
  · rw [h] at written
    cases written
  · rw [h] at written
    cases written
    refine ⟨cause, ?_, rfl, bytes, SteadyChannel.refusal_writeAt c address _⟩
    have same := SteadyChannel.refused_writeAt c address (GuestValue.encode value)
    rw [answer] at same
    exact same.symm

end Steady

end GuestMemory

end GuestKernel
