import Mathlib
import GuestKernel.Memory.LittleEndian.Lemmas
import GuestKernel.Proofs.Memory.GuestType
import GuestKernel.Proofs.Memory.History

/-!
# Typed values in guest memory

Behind a channel that carries bytes there is a number of any width under any address, `numberAt`.
Typed access is access to these numbers: a write puts the image of its value there, a read gives the
value with that image, and the number at an offset inside a wider one is
`n / 256 ^ offset % 256 ^ width`.
-/

set_option autoImplicit false

namespace GuestKernel

namespace GuestMemory

open LittleEndian

section Numbers
variable {M : Type} [ByteChannel M]

/-- The bytes from an address on, read past the channel. -/
def bytesAt (c : M) (start size : Nat) : Vector UInt8 size :=
  .ofFn fun i => ByteChannel.byteAt c (start + i.val)

/-- The number that the bytes from an address on stand for. -/
def numberAt (c : M) (start width : Nat) : Nat := value (bytesAt c start width)

theorem numberAt_inside (c : M) (start : Nat) {width offset n : Nat} (inside : offset + n ≤ width) :
    numberAt c (start + offset) n = numberAt c start width / 256 ^ offset % 256 ^ n := by
  have slice := value_slice (bytesAt c start width) offset inside
  simp only [bytesAt, Vector.getElem_ofFn, ← Nat.add_assoc] at slice
  exact slice

/-- A byte is a digit of the number that it is part of. -/
theorem toNat_byteAt (c : M) (start : Nat) {width i : Nat} (inside : i < width) :
    (ByteChannel.byteAt c (start + i)).toNat = numberAt c start width / 256 ^ i % 256 := by
  have byte : numberAt c (start + i) 1 = (ByteChannel.byteAt c (start + i)).toNat := by
    simp [numberAt, bytesAt, value, Vector.toList_ofFn, List.ofFn_succ, ofList]
  rw [← byte, numberAt_inside c start inside, pow_one]

end Numbers

section Access
variable {M : Type} [MemoryChannel M]

/-- Whether a channel answers a read of so many bytes. -/
def Answers (c : M) (address : VirtAddr) (size : Nat) : Prop :=
  ∃ bytes, (MemoryChannel.readAt c address size).1 = .ok bytes

/-- Whether a channel takes any so many bytes. -/
def Takes (c : M) (address : VirtAddr) (size : Nat) : Prop :=
  ∀ bytes : Vector UInt8 size, (MemoryChannel.writeAt c address bytes).1 = .ok ()

theorem outcome_write {c : M} {address : VirtAddr} {size : Nat} (takes : Takes c address size)
    (bytes : Vector UInt8 size) : (write address bytes c).outcome = .ok () := by
  have exit := write_exit address bytes c
  rcases ended : write address bytes c with ⟨outcome, d, log⟩
  rw [ended] at exit
  cases exit with
  | empty none => rfl
  | done some answer => rfl
  | failed some answer =>
    have done := takes bytes
    rw [answer] at done
    cases done

end Access

section Values
variable {M : Type} [ByteChannel M] {c : M} {address : VirtAddr}

theorem outcome_read {size : Nat} (answers : Answers c address size) (small : size ≤ maxBuffer) :
    (read address size c).outcome = .ok (bytesAt c address.toNat size) := by
  have exit := read_exit address size c
  have value (bytes : Vector UInt8 size) {d : M} (ended : ReadExit address size c (.ok bytes) d) :
      bytes = bytesAt c address.toNat size := by
    ext i h
    rw [ended.value i h, bytesAt, Vector.getElem_ofFn]
  rcases ended : read address size c with ⟨outcome, d, log⟩
  rw [ended] at exit
  cases exit with
  | empty none => exact congrArg Except.ok (value _ (.empty none))
  | tooLarge large => omega
  | failed some answer =>
    obtain ⟨bytes, done⟩ := answers
    rw [answer] at done
    cases done
  | done some answer => exact congrArg Except.ok (value _ (.done some answer))

variable (t : GuestType)

theorem outcome_readValue_answered (answers : Answers c address t.width) :
    (readValue t.Value address c).outcome =
      .ok (GuestValue.decode (bytesAt c address.toNat t.width)) := by
  rw [outcome_readValue, outcome_read answers t.width_le_maxBuffer]
  rfl

/-- A read gives the value of which the number under the address is the image. -/
theorem exists_readValue (answers : Answers c address t.width) :
    ∃ x, (readValue t.Value address c).outcome = .ok x ∧
      t.image x = numberAt c address.toNat t.width :=
  ⟨_, outcome_readValue_answered t answers, t.image_decode _⟩

theorem byteAt_readValue :
    ByteChannel.byteAt (readValue t.Value address c).state = ByteChannel.byteAt c := by
  rw [state_readValue]
  exact (read_exit address _ c).unchanged

theorem numberAt_readValue (start width : Nat) :
    numberAt (readValue t.Value address c).state start width = numberAt c start width := by
  rw [numberAt, numberAt, bytesAt, bytesAt, byteAt_readValue]

variable {size : Nat}

theorem byteAt_write (takes : Takes c address size) (bytes : Vector UInt8 size) :
    ByteChannel.byteAt (write address bytes c).state =
      overwrite (ByteChannel.byteAt c) address.toNat bytes := by
  have exit := write_exit address bytes c
  rw [outcome_write takes bytes] at exit
  exact exit.overwritten

theorem bytesAt_write (takes : Takes c address size) (bytes : Vector UInt8 size) :
    bytesAt (write address bytes c).state address.toNat size = bytes := by
  ext i h
  rw [bytesAt, Vector.getElem_ofFn, byteAt_write takes bytes, overwrite_inside _ _ _ i h]

/-- A write puts the image of its value under the address. -/
theorem numberAt_writeValue (takes : Takes c address t.width) (x : t.Value) :
    numberAt (writeValue address x c).state address.toNat t.width = t.image x := by
  rw [numberAt, writeValue, bytesAt_write takes, t.value_encode]

theorem byteAt_write_outside (takes : Takes c address size) (bytes : Vector UInt8 size) (a : Nat)
    (outside : a < address.toNat ∨ address.toNat + size ≤ a) :
    ByteChannel.byteAt (write address bytes c).state a = ByteChannel.byteAt c a := by
  rw [byteAt_write takes bytes, overwrite_outside _ _ _ a outside]

/-- From a state of a channel on, typed access to each range that the channel accepts is access to
numbers in memory. -/
structure IsTyped (c : M) : Prop where
  width : ∀ t : GuestType, t.width = t.size
  /-- A write puts the digits of the image there, the lowest first, and changes no other byte. -/
  written : ∀ (t : GuestType) (address : VirtAddr) (x : t.Value), Takes c address t.width →
    (writeValue address x c).outcome = .ok () ∧
    (∀ i, i < t.width →
      (ByteChannel.byteAt (writeValue address x c).state (address.toNat + i)).toNat =
        t.image x / 256 ^ i % 256) ∧
    ∀ a, a < address.toNat ∨ address.toNat + t.width ≤ a →
      ByteChannel.byteAt (writeValue address x c).state a = ByteChannel.byteAt c a
  returned : ∀ (t : GuestType) (address : VirtAddr) (x : t.Value), Takes c address t.width →
    Answers (writeValue address x c).state address t.width →
      (readValue t.Value address (writeValue address x c).state).outcome = .ok x
  /-- Bytes that are read as a value and written elsewhere are the same bytes there. -/
  carried : ∀ (t : GuestType) (source target : VirtAddr) (bytes : Vector UInt8 t.width),
    let filled := (write source bytes c).state
    let read := readValue t.Value source filled
    Takes c source t.width → Answers filled source t.width → Takes read.state target t.width →
      ∃ x, read.outcome = .ok x ∧ (writeValue target x read.state).outcome = .ok () ∧
        bytesAt (writeValue target x read.state).state target.toNat t.width = bytes
  /-- A value that is read at an offset inside a wider one is that part of it. -/
  part : ∀ (t s : GuestType) (address inner : VirtAddr) (offset : Nat) (x : t.Value),
    inner.toNat = address.toNat + offset → offset + s.width ≤ t.width →
    Takes c address t.width → Answers (writeValue address x c).state inner s.width →
      ∃ y, (readValue s.Value inner (writeValue address x c).state).outcome = .ok y ∧
        s.image y = t.image x / 256 ^ offset % 256 ^ s.width
  /-- Of two reads of which one is inside the other, it gives that part. -/
  nested : ∀ (t s : GuestType) (address inner : VirtAddr) (offset : Nat),
    let read := readValue t.Value address c
    inner.toNat = address.toNat + offset → offset + s.width ≤ t.width →
    Answers c address t.width → Answers read.state inner s.width →
      ∃ x y, read.outcome = .ok x ∧ (readValue s.Value inner read.state).outcome = .ok y ∧
        s.image y = t.image x / 256 ^ offset % 256 ^ s.width
  halves : ∀ (address upper : VirtAddr) (x : UInt64),
    let stored := (writeValue address x c).state
    let read := readValue UInt32 address stored
    upper.toNat = address.toNat + 4 → Takes c address 8 → Answers stored address 4 →
    Answers read.state upper 4 →
      ∃ low high, read.outcome = .ok low ∧ (readValue UInt32 upper read.state).outcome = .ok high ∧
        x.toNat = low.toNat + 2 ^ 32 * high.toNat
  element : ∀ (address inner : VirtAddr) (x : Vector UInt32 4) (i : Nat) (h : i < 4),
    inner.toNat = address.toNat + 4 * i → Takes c address 16 →
    Answers (writeValue address x c).state inner 4 →
      (readValue UInt32 inner (writeValue address x c).state).outcome = .ok x[i]

theorem readValue_inside {d : M} (s : GuestType) {inner : VirtAddr} {offset n : Nat}
    (place : inner.toNat = address.toNat + offset) (inside : offset + s.width ≤ t.width)
    (whole : numberAt d address.toNat t.width = n) (answers : Answers d inner s.width) :
    ∃ y, (readValue s.Value inner d).outcome = .ok y ∧
      s.image y = n / 256 ^ offset % 256 ^ s.width := by
  obtain ⟨y, outcome, image⟩ := exists_readValue s answers
  refine ⟨y, outcome, ?_⟩
  rw [image, place, numberAt_inside _ _ inside, whole]

theorem isTyped (c : M) : IsTyped c where
  width := GuestType.width_eq_size
  written t address x takes := by
    refine ⟨outcome_write takes _, fun i inside => ?_, byteAt_write_outside takes _⟩
    rw [toNat_byteAt _ _ inside, numberAt_writeValue t takes x]
  returned t address x takes answers := by
    rw [outcome_readValue_answered t answers, writeValue, bytesAt_write takes, t.decode_encode]
  carried t source target bytes := by
    intro filled read takes answers elsewhere
    have value := outcome_readValue_answered t answers
    rw [bytesAt_write takes bytes] at value
    refine ⟨_, value, outcome_write elsewhere _, ?_⟩
    rw [writeValue, bytesAt_write elsewhere, t.encode_decode]
  part t s address inner offset x place inside takes answers :=
    readValue_inside t s place inside (numberAt_writeValue t takes x) answers
  nested t s address inner offset := by
    intro read place inside first second
    obtain ⟨x, outcome, image⟩ := exists_readValue t first
    have kept : numberAt read.state address.toNat t.width = t.image x :=
      (numberAt_readValue t address.toNat t.width).trans image.symm
    obtain ⟨y, answer, digits⟩ := readValue_inside t s place inside kept second
    exact ⟨x, y, outcome, answer, digits⟩
  halves address upper x := by
    intro stored read place takes first second
    have whole : numberAt stored address.toNat 8 = x.toNat := numberAt_writeValue .u64 takes x
    have kept : numberAt read.state address.toNat 8 = x.toNat :=
      (numberAt_readValue .u32 address.toNat 8).trans whole
    obtain ⟨low, answer, lower⟩ := readValue_inside .u64 .u32 (Nat.add_zero _).symm (by decide)
      whole first
    obtain ⟨high, answer', upper⟩ := readValue_inside .u64 .u32 place (by decide) kept second
    refine ⟨low, high, answer, answer', ?_⟩
    have small := x.toNat_lt
    change low.toNat = x.toNat / 256 ^ 0 % 256 ^ 4 at lower
    change high.toNat = x.toNat / 256 ^ 4 % 256 ^ 4 at upper
    omega
  element address inner x i h place takes answers := by
    have inside : 4 * i + 4 ≤ 16 := by omega
    obtain ⟨y, outcome, image⟩ :=
      readValue_inside .quad .u32 place inside (numberAt_writeValue .quad takes x) answers
    rw [outcome, UInt32.toNat_inj.mp (image.trans (GuestType.toNat_getElem x i h).symm)]

end Values

/-- A negative number, its upper half, and bytes that a signed value carries, in a window. -/
theorem isTyped_of_window :
    let c := Window.new 0x1000 0x20
    let stored := (writeValue 0x1004 (-2 : Int32) c).state
    let filled := (write 0x1010 (#v[0xFE, 0xFF] : Vector UInt8 2) c).state
    bytesAt stored 0x1002 8 = ⟨#[0, 0, 0xFE, 0xFF, 0xFF, 0xFF, 0, 0], rfl⟩ ∧
      (readValue Int32 0x1004 stored).outcome = .ok (-2) ∧
      (∃ y : Int16, (readValue Int16 0x1006 stored).outcome = .ok y ∧
        (y.toInt % 2 ^ 16).toNat = 0xFFFF) ∧
      ∃ x : Int16, (readValue Int16 0x1010 filled).outcome = .ok x ∧
        bytesAt (writeValue 0x1001 x (readValue Int16 0x1010 filled).state).state 0x1001 2 =
          #v[0xFE, 0xFF] := by
  intro c stored filled
  have takes (d : Window) (same : d.base = 0x1000 ∧ d.size = 0x20 ∧ d.writeOutage = none)
      (address : VirtAddr) (size : Nat)
      (inside : 0x1000 ≤ address.toNat ∧ address.toNat + size ≤ 0x1020) : Takes d address size := by
    intro bytes
    refine Window.writeAt_inside bytes same.2.2 ?_
    simp [Window.covers, same, inside]
  have number := takes c ⟨rfl, rfl, rfl⟩ 0x1004 4 (by decide)
  have source := takes c ⟨rfl, rfl, rfl⟩ 0x1010 2 (by decide)
  have target := takes (readValue Int16 0x1010 filled).state ⟨rfl, rfl, rfl⟩ 0x1001 2 (by decide)
  have typed : IsTyped c := isTyped c
  obtain ⟨x, outcome, _, carried⟩ :=
    typed.carried .i16 0x1010 0x1001 #v[0xFE, 0xFF] source ⟨_, rfl⟩ target
  refine ⟨rfl, ?_, ?_, x, outcome, carried⟩
  · exact typed.returned .i32 0x1004 (-2) number ⟨_, rfl⟩
  · exact typed.part .i32 .i16 0x1004 0x1006 2 (-2) rfl (by decide) number ⟨_, rfl⟩

end GuestMemory

end GuestKernel
