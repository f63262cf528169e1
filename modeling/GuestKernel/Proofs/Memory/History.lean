import Mathlib
import GuestKernel.Memory.Value
import GuestKernel.Memory.Window

/-!
# Guest memory as an array of bytes

`lastValue` reads a byte off the successful calls alone: the last one that stored something there
says what it is, and a copied byte is what the source held before the copy. Behind the accesses to a
channel that carries bytes there is this array, whatever accesses the channel refuses; `CallExit`
lists how a call ends, and the array follows from it call by call.
-/

set_option autoImplicit false

namespace GuestKernel

/-- A channel with all calls that were made of it, the first one first. -/
structure Traced (M : Type) where
  channel : M
  calls : List ChannelCall

namespace Traced

variable {M : Type}

def note (c : Traced M) (channel : M) (direction : Direction) (address : VirtAddr) (size : Nat) :
    Traced M :=
  ⟨channel, c.calls ++ [⟨direction, address, size⟩]⟩

instance [MemoryChannel M] : MemoryChannel (Traced M) where
  readAt c address size :=
    ((MemoryChannel.readAt c.channel address size).1,
      c.note (MemoryChannel.readAt c.channel address size).2 .read address size)
  writeAt {size} c address bytes :=
    ((MemoryChannel.writeAt c.channel address bytes).1,
      c.note (MemoryChannel.writeAt c.channel address bytes).2 .write address size)

instance [ByteChannel M] : ByteChannel (Traced M) where
  byteAt c := ByteChannel.byteAt c.channel
  byteAt_readAt c := ByteChannel.byteAt_readAt c.channel
  read_ok := ByteChannel.read_ok
  byteAt_writeAt_ok := ByteChannel.byteAt_writeAt_ok
  byteAt_writeAt_error := ByteChannel.byteAt_writeAt_error

end Traced

/-- A call that reads, writes or copies guest memory. -/
inductive MemoryCall where
  | read (address : VirtAddr) (size : Size)
  | write (address : VirtAddr) {size : Size} (bytes : Vector UInt8 size.toNat)
  | copy (source destination : VirtAddr) (size : Size)
  | readValue (α : Type) [GuestValue α] (address : VirtAddr)
  | writeValue {α : Type} [GuestValue α] (address : VirtAddr) (value : α)

namespace MemoryCall

def Answer : MemoryCall → Type
  | read _ size => Vector UInt8 size.toNat
  | readValue α _ => α
  | write .. | copy .. | writeValue .. => Unit

def perform {M : Type} [MemoryChannel M] : (call : MemoryCall) → Action M call.Answer
  | read address size => GuestMemory.read address size.toNat
  | write address bytes => GuestMemory.write address bytes
  | copy source destination size => GuestMemory.copy source destination size.toNat
  | readValue α address => GuestMemory.readValue α address
  | writeValue address value => GuestMemory.writeValue address value

def size : MemoryCall → Nat
  | read _ size | copy _ _ size => size.toNat
  | @write _ size _ => size.toNat
  | readValue α _ => GuestValue.width α
  | @writeValue α _ _ _ => GuestValue.width α

def source : MemoryCall → Option VirtAddr
  | read address _ | copy address _ _ | readValue _ address => some address
  | write .. | writeValue .. => none

def target : MemoryCall → Option VirtAddr
  | write address _ | copy _ address _ | writeValue address _ => some address
  | read .. | readValue .. => none

/-- The bytes after a successful call. -/
def store (call : MemoryCall) (bytes : Nat → UInt8) : Nat → UInt8 :=
  match call with
  | read .. | readValue .. => bytes
  | write address written => overwrite bytes address.toNat written
  | writeValue address value => overwrite bytes address.toNat (GuestValue.encode value)
  | copy source destination size => fun a =>
    if destination.toNat ≤ a ∧ a < destination.toNat + size.toNat then
      bytes (source.toNat + (a - destination.toNat))
    else bytes a

end MemoryCall

/-- The byte under an address by the successful calls, the last one first. -/
def lastValue (done : List MemoryCall) : Nat → UInt8 := done.foldr MemoryCall.store fun _ => 0

namespace GuestMemory

variable {M : Type} [MemoryChannel M] {c d : M} {address : VirtAddr} {size : Nat}

inductive ReadExit (address : VirtAddr) (size : Nat) (c : M) :
    Except Fault (Vector UInt8 size) → M → Prop where
  | empty (none : size = 0) : ReadExit address size c (.ok (.replicate size 0)) c
  | tooLarge (large : maxBuffer < size) : ReadExit address size c (.error .bufferTooLarge) c
  | failed {cause : IoError} {d : M} (some : size ≠ 0)
      (answer : MemoryChannel.readAt c address size = (.error cause, d)) :
      ReadExit address size c (.error (.error (accessFailure address size cause))) d
  | done {bytes : Vector UInt8 size} {d : M} (some : size ≠ 0)
      (answer : MemoryChannel.readAt c address size = (.ok bytes, d)) :
      ReadExit address size c (.ok bytes) d

inductive WriteExit (address : VirtAddr) (bytes : Vector UInt8 size) (c : M) :
    Except Fault Unit → M → Prop where
  | empty (none : size = 0) : WriteExit address bytes c (.ok ()) c
  | failed {cause : IoError} {d : M} (some : size ≠ 0)
      (answer : MemoryChannel.writeAt c address bytes = (.error cause, d)) :
      WriteExit address bytes c (.error (.error (accessFailure address size cause))) d
  | done {d : M} (some : size ≠ 0)
      (answer : MemoryChannel.writeAt c address bytes = (.ok (), d)) :
      WriteExit address bytes c (.ok ()) d

theorem read_exit (address : VirtAddr) (size : Nat) (c : M) :
    ReadExit address size c (read address size c).outcome (read address size c).state := by
  unfold read
  split
  · rename_i none
    exact .empty none
  · rename_i some
    split
    · rename_i large
      exact .tooLarge large
    · split
      · rename_i answer
        exact .done some answer
      · rename_i answer
        exact .failed some answer

theorem write_exit (address : VirtAddr) (bytes : Vector UInt8 size) (c : M) :
    WriteExit address bytes c (write address bytes c).outcome (write address bytes c).state := by
  unfold write
  split
  · rename_i none
    exact .empty none
  · rename_i some
    split
    · rename_i answer
      exact .done some answer
    · rename_i answer
      exact .failed some answer

theorem readValue_eq (α : Type) [GuestValue α] (address : VirtAddr) (c : M) :
    readValue α address c = Action.andThen (read address (GuestValue.width α) c) fun bytes =>
      pure (GuestValue.decode bytes) := rfl

theorem state_readValue (α : Type) [GuestValue α] (address : VirtAddr) (c : M) :
    (readValue α address c).state = (read address (GuestValue.width α) c).state := by
  rw [readValue_eq]
  rcases read address (GuestValue.width α) c with ⟨answer, d, log⟩
  cases answer <;> rfl

theorem outcome_readValue (α : Type) [GuestValue α] (address : VirtAddr) (c : M) :
    (readValue α address c).outcome =
      (read address (GuestValue.width α) c).outcome.map GuestValue.decode := by
  rw [readValue_eq]
  rcases read address (GuestValue.width α) c with ⟨answer, d, log⟩
  cases answer <;> rfl

/-- The ends of a copy: its read fails, or what was read is written. -/
theorem copy_exit (source destination : VirtAddr) (size : Nat) (c : M) :
    (∃ fault d, ReadExit source size c (.error fault) d ∧
      (copy source destination size c).outcome = .error fault ∧
      (copy source destination size c).state = d) ∨
    (∃ bytes d, ReadExit source size c (.ok bytes) d ∧
      WriteExit destination bytes d (copy source destination size c).outcome
        (copy source destination size c).state) := by
  have exit := read_exit source size c
  rw [copy, Action.bind_apply]
  rcases ended : read source size c with ⟨answer, d, log⟩
  rw [ended] at exit
  cases answer with
  | error fault => exact Or.inl ⟨fault, d, exit, rfl, rfl⟩
  | ok bytes => exact Or.inr ⟨bytes, d, exit, write_exit destination bytes d⟩

end GuestMemory

namespace GuestMemory

variable {M : Type} [ByteChannel M] {c d : M} {address : VirtAddr} {size : Nat}

theorem ReadExit.unchanged {answer : Except Fault (Vector UInt8 size)}
    (exit : ReadExit address size c answer d) : ByteChannel.byteAt d = ByteChannel.byteAt c := by
  have same := ByteChannel.byteAt_readAt c address size
  cases exit with
  | empty none => rfl
  | tooLarge large => rfl
  | failed some answer => rwa [answer] at same
  | done some answer => rwa [answer] at same

theorem ReadExit.value {bytes : Vector UInt8 size} (exit : ReadExit address size c (.ok bytes) d)
    (i : Nat) (h : i < size) : bytes[i] = ByteChannel.byteAt c (address.toNat + i) := by
  cases exit with
  | empty none => omega
  | done some answer => exact ByteChannel.read_ok (congrArg Prod.fst answer) i h

theorem WriteExit.overwritten {bytes : Vector UInt8 size}
    (exit : WriteExit address bytes c (.ok ()) d) :
    ByteChannel.byteAt d = overwrite (ByteChannel.byteAt c) address.toNat bytes := by
  cases exit with
  | empty none =>
    funext a
    rw [overwrite_outside]
    omega
  | done some answer =>
    have written := ByteChannel.byteAt_writeAt_ok (congrArg Prod.fst answer)
    rwa [answer] at written

theorem WriteExit.unchanged {bytes : Vector UInt8 size} {fault : Fault}
    (exit : WriteExit address bytes c (.error fault) d) :
    ByteChannel.byteAt d = ByteChannel.byteAt c := by
  cases exit with
  | failed some answer =>
    have kept := ByteChannel.byteAt_writeAt_error (congrArg Prod.fst answer)
    rwa [answer] at kept

end GuestMemory

namespace MemoryCall

open GuestMemory

/-- What a copy has written is what its source held before. -/
theorem overwrite_of_copied {bytes : Nat → UInt8} {source destination : VirtAddr} {size : Size}
    {read : Vector UInt8 size.toNat}
    (value : ∀ (i : Nat) (h : i < size.toNat), read[i] = bytes (source.toNat + i)) :
    overwrite bytes destination.toNat read = (copy source destination size).store bytes := by
  funext a
  by_cases inside : destination.toNat ≤ a ∧ a < destination.toNat + size.toNat
  · obtain ⟨i, rfl⟩ := Nat.exists_eq_add_of_le inside.1
    simp only [store]
    rw [overwrite_inside _ _ _ i (by omega), value, if_pos inside, Nat.add_sub_cancel_left]
  · simp only [store]
    rw [overwrite_outside _ _ _ _ (by omega), if_neg inside]

variable {M : Type} [ByteChannel M]

theorem byteAt_of_ok (call : MemoryCall) (c : M) {answer : call.Answer}
    (ok : (call.perform c).outcome = .ok answer) :
    ByteChannel.byteAt (call.perform c).state = call.store (ByteChannel.byteAt c) := by
  cases call with
  | read address size => exact (read_exit address size.toNat c).unchanged
  | readValue α address =>
    rw [perform, state_readValue]
    exact (read_exit address _ c).unchanged
  | write address bytes =>
    have exit := write_exit address bytes c
    change (GuestMemory.write address bytes c).outcome = .ok () at ok
    rw [ok] at exit
    exact exit.overwritten
  | writeValue address value =>
    have exit := write_exit address (GuestValue.encode value) c
    change (GuestMemory.write address (GuestValue.encode value) c).outcome = .ok () at ok
    rw [ok] at exit
    exact exit.overwritten
  | copy source destination size =>
    change (GuestMemory.copy source destination size.toNat c).outcome = .ok () at ok
    rcases copy_exit source destination size.toNat c with
      ⟨_, _, _, failed, _⟩ | ⟨bytes, d, read, exit⟩
    · rw [ok] at failed
      cases failed
    · rw [ok] at exit
      refine exit.overwritten.trans ?_
      rw [read.unchanged]
      exact overwrite_of_copied read.value

theorem byteAt_of_error (call : MemoryCall) (c : M) {fault : Fault}
    (failed : (call.perform c).outcome = .error fault) :
    ByteChannel.byteAt (call.perform c).state = ByteChannel.byteAt c := by
  cases call with
  | read address size => exact (read_exit address size.toNat c).unchanged
  | readValue α address =>
    rw [perform, state_readValue]
    exact (read_exit address _ c).unchanged
  | write address bytes =>
    have exit := write_exit address bytes c
    change (GuestMemory.write address bytes c).outcome = .error fault at failed
    rw [failed] at exit
    exact exit.unchanged
  | writeValue address value =>
    have exit := write_exit address (GuestValue.encode value) c
    change (GuestMemory.write address (GuestValue.encode value) c).outcome = .error fault at failed
    rw [failed] at exit
    exact exit.unchanged
  | copy source destination size =>
    change (GuestMemory.copy source destination size.toNat c).outcome = .error fault at failed
    rcases copy_exit source destination size.toNat c with
      ⟨_, _, read, _, rfl⟩ | ⟨bytes, d, read, exit⟩
    · exact read.unchanged
    · rw [failed] at exit
      exact exit.unchanged.trans read.unchanged

end MemoryCall

namespace MemoryCall

open GuestMemory

variable {M : Type} [MemoryChannel M]

/-- Why a call failed, with what it asked the channel for: the half that failed comes last. -/
inductive Failure (call : MemoryCall) (c : Traced M) : Fault → Traced M → Prop where
  | tooLarge (reads : call.source ≠ none) (large : maxBuffer < call.size) :
      Failure call c .bufferTooLarge c
  | reading {address : VirtAddr} {cause : IoError} {d : M} (half : call.source = some address)
      (answer : MemoryChannel.readAt c.channel address call.size = (.error cause, d)) :
      Failure call c (.error (.memoryAccessFailure address (.ofNat call.size) cause))
        ⟨d, c.calls ++ [⟨.read, address, call.size⟩]⟩
  | writing {address : VirtAddr} {bytes : Vector UInt8 call.size} {cause : IoError} {d : M}
      (only : call.source = none) (half : call.target = some address)
      (answer : MemoryChannel.writeAt c.channel address bytes = (.error cause, d)) :
      Failure call c (.error (.memoryAccessFailure address (.ofNat call.size) cause))
        ⟨d, c.calls ++ [⟨.write, address, call.size⟩]⟩
  | copying {source target : VirtAddr} {bytes : Vector UInt8 call.size} {cause : IoError} {d e : M}
      (first : call.source = some source) (half : call.target = some target)
      (read : MemoryChannel.readAt c.channel source call.size = (.ok bytes, d))
      (answer : MemoryChannel.writeAt d target bytes = (.error cause, e)) :
      Failure call c (.error (.memoryAccessFailure target (.ofNat call.size) cause))
        ⟨e, c.calls ++ [⟨.read, source, call.size⟩, ⟨.write, target, call.size⟩]⟩

variable (call : MemoryCall) {c d : Traced M} {fault : Fault} {address : VirtAddr}

theorem failure_of_read (half : call.source = some address)
    (exit : ReadExit address call.size c (.error fault) d) : call.Failure c fault d := by
  cases exit with
  | tooLarge large => exact .tooLarge (half ▸ Option.some_ne_none address) large
  | failed some answer =>
    obtain ⟨failed, rfl⟩ := Prod.mk.inj answer
    exact .reading half (Prod.ext failed rfl)

theorem failure_of_write {bytes : Vector UInt8 call.size} (only : call.source = none)
    (half : call.target = some address) (exit : WriteExit address bytes c (.error fault) d) :
    call.Failure c fault d := by
  cases exit with
  | failed some answer =>
    obtain ⟨failed, rfl⟩ := Prod.mk.inj answer
    exact .writing only half (Prod.ext failed rfl)

theorem failure_of_copy {source : VirtAddr} {bytes : Vector UInt8 call.size} {e : Traced M}
    (first : call.source = some source) (half : call.target = some address)
    (read : ReadExit source call.size c (.ok bytes) d)
    (exit : WriteExit address bytes d (.error fault) e) : call.Failure c fault e := by
  cases exit with
  | failed some answer =>
    cases read with
    | empty none => exact absurd none some
    | done _ asked =>
      obtain ⟨done, rfl⟩ := Prod.mk.inj asked
      obtain ⟨failed, rfl⟩ := Prod.mk.inj answer
      have last := Failure.copying first half (Prod.ext done rfl) (Prod.ext failed rfl)
      rw [List.append_cons] at last
      exact last

theorem failure_of_error (c : Traced M)
    (failed : (call.perform c).outcome = .error fault) :
    call.Failure c fault (call.perform c).state := by
  cases call with
  | read address size =>
    have exit := read_exit address size.toNat c
    change (GuestMemory.read address size.toNat c).outcome = .error fault at failed
    rw [failed] at exit
    exact failure_of_read (.read address size) rfl exit
  | readValue α address =>
    have exit := read_exit address (GuestValue.width α) c
    change (GuestMemory.readValue α address c).outcome = .error fault at failed
    rw [outcome_readValue] at failed
    rw [perform, state_readValue]
    cases ended : (GuestMemory.read address (GuestValue.width α) c).outcome with
    | ok bytes =>
      rw [ended] at failed
      cases failed
    | error found =>
      rw [ended] at failed exit
      cases failed
      exact failure_of_read (.readValue α address) rfl exit
  | write address bytes =>
    have exit := write_exit address bytes c
    change (GuestMemory.write address bytes c).outcome = .error fault at failed
    rw [failed] at exit
    exact failure_of_write (.write address bytes) rfl rfl exit
  | writeValue address value =>
    have exit := write_exit address (GuestValue.encode value) c
    change (GuestMemory.write address (GuestValue.encode value) c).outcome = .error fault at failed
    rw [failed] at exit
    exact failure_of_write (.writeValue address value) rfl rfl exit
  | copy source destination size =>
    change (GuestMemory.copy source destination size.toNat c).outcome = .error fault at failed
    rcases copy_exit source destination size.toNat c with
      ⟨_, _, read, ended, rfl⟩ | ⟨_, _, read, exit⟩
    · rw [failed] at ended
      cases ended
      exact failure_of_read (.copy source destination size) rfl read
    · rw [failed] at exit
      exact failure_of_copy (.copy source destination size) rfl rfl read exit

theorem perform_of_empty (call : MemoryCall) (c : M) (none : call.size = 0) :
    ∃ answer, call.perform c = ⟨.ok answer, c, []⟩ := by
  cases call with
  | read address size => exact ⟨.replicate _ 0, if_pos none⟩
  | write address bytes => exact ⟨(), if_pos none⟩
  | copy source destination size =>
    refine ⟨(), ?_⟩
    have read : GuestMemory.read source size.toNat c = ⟨.ok (.replicate _ 0), c, []⟩ := if_pos none
    have write : GuestMemory.write destination (.replicate size.toNat 0) c = ⟨.ok (), c, []⟩ :=
      if_pos none
    change GuestMemory.copy source destination size.toNat c = _
    rw [GuestMemory.copy, Action.bind_apply, read, Action.andThen_ok, write]
    rfl
  | readValue α address =>
    refine ⟨(GuestValue.decode (.replicate _ 0) : α), ?_⟩
    have read : GuestMemory.read address (GuestValue.width α) c = ⟨.ok (.replicate _ 0), c, []⟩ :=
      if_pos none
    change GuestMemory.readValue α address c = _
    rw [readValue_eq, read]
    rfl
  | writeValue address value => exact ⟨(), if_pos none⟩

end MemoryCall

/-- A channel with the calls that succeeded on it, the last one first. -/
structure MemoryRun (M : Type) where
  channel : Traced M
  done : List MemoryCall

namespace MemoryRun

variable {M : Type} [ByteChannel M]

def after (s : MemoryRun M) (call : MemoryCall) : MemoryRun M where
  channel := (call.perform s.channel).state
  done :=
    match (call.perform s.channel).outcome with
    | .ok _ => call :: s.done
    | .error _ => s.done

/-- The runs that start with bytes that are all zero. Between calls the channel may become one that
refuses other accesses. -/
inductive Reachable : MemoryRun M → Prop where
  | start {channel : M} (zeros : ByteChannel.byteAt channel = fun _ => 0) :
      Reachable ⟨⟨channel, []⟩, []⟩
  | told {s : MemoryRun M} (reachable : Reachable s) {channel : M}
      (same : ByteChannel.byteAt channel = ByteChannel.byteAt s.channel.channel) :
      Reachable ⟨⟨channel, s.channel.calls⟩, s.done⟩
  | call {s : MemoryRun M} (reachable : Reachable s) (call : MemoryCall) : Reachable (s.after call)

variable {s : MemoryRun M}

theorem Reachable.bytes (h : Reachable s) : ByteChannel.byteAt s.channel = lastValue s.done := by
  induction h with
  | start zeros => exact zeros
  | told _ same ih => exact same.trans ih
  | @call s _ call ih =>
    unfold after
    cases ended : (call.perform s.channel).outcome with
    | ok answer => exact (call.byteAt_of_ok s.channel ended).trans (congrArg call.store ih)
    | error fault => exact (call.byteAt_of_error s.channel ended).trans ih

/-- The accesses to a channel are accesses to the array of bytes that the successful calls made. -/
structure IsByteArray (s : MemoryRun M) : Prop where
  bytes : ByteChannel.byteAt s.channel = lastValue s.done
  read : ∀ (address : VirtAddr) (size : Nat) (bytes : Vector UInt8 size),
    (GuestMemory.read address size s.channel).outcome = .ok bytes →
      ∀ (i : Nat) (h : i < size), bytes[i] = lastValue s.done (address.toNat + i)
  readValue : ∀ (α : Type) [GuestValue α] (address : VirtAddr) (value : α),
    (GuestMemory.readValue α address s.channel).outcome = .ok value →
      value = GuestValue.decode (.ofFn fun i => lastValue s.done (address.toNat + i.val))
  copy : ∀ source destination size : UInt64,
    (GuestMemory.copy source destination size.toNat s.channel).outcome = .ok () → ∀ a,
      ByteChannel.byteAt (GuestMemory.copy source destination size.toNat s.channel).state a =
        if destination.toNat ≤ a ∧ a < destination.toNat + size.toNat then
          lastValue s.done (source.toNat + (a - destination.toNat))
        else lastValue s.done a
  /-- A call that fails reports the half that failed and changes no byte. -/
  failure : ∀ (call : MemoryCall) (fault : Fault),
    (call.perform s.channel).outcome = .error fault →
      call.Failure s.channel fault (call.perform s.channel).state ∧
        ByteChannel.byteAt (call.perform s.channel).state = lastValue s.done
  empty : ∀ call : MemoryCall, call.size = 0 →
    ∃ answer, call.perform s.channel = ⟨.ok answer, s.channel, []⟩

theorem Reachable.isByteArray (h : Reachable s) : IsByteArray s := by
  have all := h.bytes
  have value : ∀ (address : VirtAddr) (size : Nat) (bytes : Vector UInt8 size),
      (GuestMemory.read address size s.channel).outcome = .ok bytes →
        ∀ (i : Nat) (h : i < size), bytes[i] = lastValue s.done (address.toNat + i) := by
    intro address size bytes ok i inside
    have exit := GuestMemory.read_exit address size s.channel
    rw [ok] at exit
    rw [exit.value i inside, all]
  refine ⟨all, value, ?_, ?_, ?_, fun call none => call.perform_of_empty s.channel none⟩
  · intro α _ address typed ok
    rw [GuestMemory.outcome_readValue] at ok
    cases ended : (GuestMemory.read address (GuestValue.width α) s.channel).outcome with
    | error fault =>
      rw [ended] at ok
      cases ok
    | ok bytes =>
      rw [ended] at ok
      cases ok
      congr 1
      ext i inside
      rw [value address _ bytes ended i inside, Vector.getElem_ofFn]
  · intro source destination size ok a
    have stored := (MemoryCall.copy source destination size).byteAt_of_ok s.channel ok
    rw [all] at stored
    exact congrFun stored a
  · intro call fault failed
    have same := call.byteAt_of_error s.channel failed
    exact ⟨call.failure_of_error s.channel failed, same.trans all⟩

theorem Reachable.planned {s : MemoryRun Window} (h : Reachable s) (direction : Direction)
    (outage : Option Outage) :
    Reachable ⟨⟨s.channel.channel.plan direction outage, s.channel.calls⟩, s.done⟩ :=
  h.told (by cases direction <;> rfl)

/-- A word is copied onto a part of itself, and another copy is refused. -/
theorem isByteArray_with_overlap : ∃ s : MemoryRun Window, IsByteArray s ∧ s.done.length = 2 ∧
    (List.range 6).map (fun i => lastValue s.done (0x1000 + i)) = [1, 2, 1, 2, 3, 4] ∧
    s.channel.calls = [⟨.write, 0x1000, 4⟩, ⟨.read, 0x1000, 4⟩, ⟨.write, 0x1002, 4⟩,
      ⟨.read, 0x1000, 4⟩] := by
  have start : Reachable ⟨⟨Window.new 0x1000 0x10, []⟩, []⟩ := .start rfl
  have written := start.call (.writeValue 0x1000 (0x04030201 : UInt32))
  have copied := written.call (.copy 0x1000 0x1002 4)
  have refused := (copied.planned .read (some ⟨0, .ofKind .timedOut⟩)).call (.copy 0x1000 0x1008 4)
  exact ⟨_, refused.isByteArray, rfl, by decide, by decide⟩

/-- No buffer holds so many bytes, so that the copy fails before it asks the channel. -/
theorem copy_larger_than_any_buffer :
    (GuestMemory.copy 0x8000000 0x8000000 0x8000000000000000 (Window.new 0x8000000 0x1000)).outcome =
        .error .bufferTooLarge ∧
      ∀ address size cause, Fault.bufferTooLarge ≠ .error (.memoryAccessFailure address size cause) :=
  ⟨rfl, nofun⟩

end MemoryRun

end GuestKernel
