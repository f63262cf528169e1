import GuestKernel.Memory.ByteChannel

/-!
# A bounded window of guest memory

A `Window` is a memory channel onto a fixed range of addresses; an access that is not wholly inside
fails without an effect. It writes down the calls it gets, and an `Outage` can be planned for either
direction: so many calls still go through, every later one fails. Through all outages a window is a
piece of byte memory, as its instance of `ByteChannel` says.
-/

set_option autoImplicit false

namespace GuestKernel

inductive Direction where
  | read
  | write
  deriving DecidableEq

structure ChannelCall where
  direction : Direction
  address : VirtAddr
  size : Nat
  deriving DecidableEq

/-- A planned failure of a channel. -/
structure Outage where
  /-- The number of calls that still go through. -/
  grace : Nat
  /-- What every later call reports. -/
  cause : IoError
  deriving DecidableEq

/-- What an outage does to one call, and how it stands afterwards. -/
def Outage.meet : Option Outage → Option IoError × Option Outage
  | none => (none, none)
  | some ⟨0, cause⟩ => (some cause, some ⟨0, cause⟩)
  | some ⟨grace + 1, cause⟩ => (none, some ⟨grace, cause⟩)

/-- A memory channel onto the `size` bytes from `base` on. -/
structure Window where
  base : VirtAddr
  size : Size
  store : ByteStore
  readOutage : Option Outage
  writeOutage : Option Outage
  calls : List ChannelCall
  deriving DecidableEq

namespace Window

def new (base : VirtAddr) (size : Size) : Window := ⟨base, size, .zeros, none, none, []⟩

/-- Whether an access of `size` bytes at `address` is wholly inside. -/
def covers (w : Window) (address : VirtAddr) (size : Nat) : Bool :=
  w.base.toNat ≤ address.toNat && address.toNat + size ≤ w.base.toNat + w.size.toNat

/-- The bytes at an address, without a call of the channel. -/
def peek? (w : Window) (address : VirtAddr) (size : Nat) : Option (Vector UInt8 size) :=
  if w.covers address size then some (w.store.read address.toNat size) else none

def plan (w : Window) (direction : Direction) (outage : Option Outage) : Window :=
  match direction with
  | .read => { w with readOutage := outage }
  | .write => { w with writeOutage := outage }

def forgetCalls (w : Window) : Window := { w with calls := [] }

/-- The window after it noted a call and the outage of its direction has moved on. -/
def noteCall (w : Window) (direction : Direction) (address : VirtAddr) (size : Nat) : Window :=
  let w := { w with calls := w.calls ++ [ChannelCall.mk direction address size] }
  match direction with
  | .read => { w with readOutage := (Outage.meet w.readOutage).2 }
  | .write => { w with writeOutage := (Outage.meet w.writeOutage).2 }

def readAt (w : Window) (address : VirtAddr) (size : Nat) :
    Except IoError (Vector UInt8 size) × Window :=
  let after := w.noteCall .read address size
  match (Outage.meet w.readOutage).1 with
  | some cause => (.error cause, after)
  | none =>
    match w.peek? address size with
    | some bytes => (.ok bytes, after)
    | none => (.error (.ofKind .unexpectedEof), after)

def writeAt {size : Nat} (w : Window) (address : VirtAddr) (bytes : Vector UInt8 size) :
    Except IoError Unit × Window :=
  let after := w.noteCall .write address size
  match (Outage.meet w.writeOutage).1 with
  | some cause => (.error cause, after)
  | none =>
    if w.covers address size then
      (.ok (), { after with store := w.store.write address.toNat bytes })
    else (.error (.ofKind .writeZero), after)

instance : MemoryChannel Window where
  readAt := readAt
  writeAt := writeAt

@[simp] theorem noteCall_store (w : Window) (direction : Direction) (address : VirtAddr)
    (size : Nat) : (w.noteCall direction address size).store = w.store := by
  cases direction <;> rfl

/-- A window without an outage answers every read that is wholly inside. -/
theorem readAt_inside {w : Window} {address : VirtAddr} {size : Nat} (calm : w.readOutage = none)
    (inside : w.covers address size = true) :
    (w.readAt address size).1 = .ok (w.store.read address.toNat size) := by
  simp [readAt, calm, Outage.meet, peek?, inside]

/-- A window without an outage does every write that is wholly inside. -/
theorem writeAt_inside {w : Window} {address : VirtAddr} {size : Nat} (bytes : Vector UInt8 size)
    (calm : w.writeOutage = none) (inside : w.covers address size = true) :
    (w.writeAt address bytes).1 = .ok () := by
  simp [writeAt, calm, Outage.meet, inside]

/-- Reading changes no byte, whether it succeeds or not. -/
theorem readAt_store (w : Window) (address : VirtAddr) (size : Nat) :
    (w.readAt address size).2.store = w.store := by
  simp only [readAt]
  split
  · simp
  · split <;> simp

theorem byteAt_writeAt {w : Window} {address : VirtAddr} {size : Nat} {bytes : Vector UInt8 size}
    (done : (w.writeAt address bytes).1 = .ok ()) :
    (w.writeAt address bytes).2.store.byteAt = overwrite w.store.byteAt address.toNat bytes := by
  simp only [writeAt] at done ⊢
  split
  · rename_i failed
    simp [failed] at done
  · rename_i calm
    simp only [calm] at done
    split
    · exact ByteStore.byteAt_write ..
    · rename_i outside
      simp [outside] at done

theorem readAt_eq_read {w : Window} {address : VirtAddr} {size : Nat} {bytes : Vector UInt8 size}
    (done : (w.readAt address size).1 = .ok bytes) :
    bytes = w.store.read address.toNat size := by
  simp only [readAt, peek?] at done
  split at done
  · cases done
  · split at done
    · rename_i found
      split at found
      · cases found
        cases done
        rfl
      · cases found
    · cases done

/-- A write that fails changes no byte. -/
theorem writeAt_store_of_error {w : Window} {address : VirtAddr} {size : Nat}
    {bytes : Vector UInt8 size} {cause : IoError}
    (failed : (w.writeAt address bytes).1 = .error cause) :
    (w.writeAt address bytes).2.store = w.store := by
  simp only [writeAt] at failed ⊢
  split
  · simp
  · rename_i calm
    simp only [calm] at failed
    split
    · rename_i inside
      simp [inside] at failed
    · simp

instance : ByteChannel Window where
  byteAt w := w.store.byteAt
  byteAt_readAt w address size := by
    rw [show MemoryChannel.readAt w address size = w.readAt address size from rfl, readAt_store]
  read_ok done i h := by
    rw [readAt_eq_read done, ByteStore.getElem_read]
  byteAt_writeAt_ok done := byteAt_writeAt done
  byteAt_writeAt_error failed := by
    rw [show ∀ (w : Window) (a : VirtAddr) {n : Nat} (v : Vector UInt8 n),
      MemoryChannel.writeAt w a v = w.writeAt a v from fun _ _ _ _ => rfl,
      writeAt_store_of_error failed]

end Window

end GuestKernel
