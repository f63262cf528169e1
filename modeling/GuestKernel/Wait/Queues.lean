import GuestKernel.Action
import GuestKernel.FiniteMap
import GuestKernel.Wait.Entry

/-!
# Wait queues under addresses

Threads wait for a mutex or a condition variable, which is known by its address. Each address has a
queue in the order of arrival; the next one to be served is the one with the highest priority, of
several the first to have arrived. An address without waiting threads has no queue: `setQueue` never
stores an empty one.

An entry may be queued several times. Taking the next one goes by position, removing a certain one
by identity.
-/

set_option autoImplicit false

namespace GuestKernel

/-- Which entry of a queue is served next: its position and the entry. -/
def WaitEntry.chosen : List WaitEntry → Option (Nat × WaitEntry)
  | [] => none
  | entry :: rest =>
    match chosen rest with
    | none => some (0, entry)
    | some (i, best) =>
      if entry.priority < best.priority then some (i + 1, best) else some (0, entry)

/-- Waiting threads by the address for which they wait. -/
structure WaitQueues where
  queues : FiniteMap VirtAddr (List WaitEntry)

namespace WaitQueues

def empty : WaitQueues := ⟨.empty⟩

/-- The entries that wait at an address, in the order of arrival. -/
def queueAt (q : WaitQueues) (address : VirtAddr) : List WaitEntry :=
  (q.queues.get? address).getD []

/-- Replaces the queue of an address; an empty one is not kept. -/
def setQueue (q : WaitQueues) (address : VirtAddr) (queue : List WaitEntry) : WaitQueues :=
  if queue.isEmpty then ⟨q.queues.erase address⟩ else ⟨q.queues.insert address queue⟩

def waiters (q : WaitQueues) (address : VirtAddr) : Nat := (q.queueAt address).length

def push (address : VirtAddr) (entry : WaitEntry) : Action WaitQueues Unit := do
  .note (.waitStarted entry.tid entry.handle entry.priority address)
  .update fun q => q.setQueue address (q.queueAt address ++ [entry])

/-- The entry that would be served next at an address. -/
def peekNext (q : WaitQueues) (address : VirtAddr) : Option WaitEntry :=
  (WaitEntry.chosen (q.queueAt address)).map Prod.snd

/-- Takes the entry that is served next at an address. -/
def popNext (q : WaitQueues) (address : VirtAddr) : Option (WaitEntry × WaitQueues) :=
  (WaitEntry.chosen (q.queueAt address)).map fun (i, entry) =>
    (entry, q.setQueue address ((q.queueAt address).eraseIdx i))

/-- Removes the first occurrence of a certain entry from the queue of an address. -/
def remove (q : WaitQueues) (address : VirtAddr) (entry : WaitEntry) : Option WaitQueues :=
  ((q.queueAt address).findIdx? fun e => e.id == entry.id).map fun i =>
    q.setQueue address ((q.queueAt address).eraseIdx i)

/-- Takes entries at an address one after the other, at most so many; gives them in the order in
which they were taken. -/
def popUpTo : Nat → WaitQueues → VirtAddr → List WaitEntry × WaitQueues
  | 0, q, _ => ([], q)
  | amount + 1, q, address =>
    match q.popNext address with
    | none => ([], q)
    | some (entry, q) =>
      let (rest, q) := popUpTo amount q address
      (entry :: rest, q)

/-- Replacing a queue changes the queue of its address alone. -/
theorem queueAt_setQueue (q : WaitQueues) (a b : VirtAddr) (queue : List WaitEntry) :
    (q.setQueue a queue).queueAt b = if b = a then queue else q.queueAt b := by
  unfold setQueue
  split
  · rename_i h
    rw [List.isEmpty_iff] at h
    subst h
    simp only [queueAt, FiniteMap.get?_erase]
    split <;> rfl
  · simp only [queueAt, FiniteMap.get?_insert]
    split <;> rfl

end WaitQueues

end GuestKernel
