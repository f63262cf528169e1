import Mathlib
import GuestKernel.GuestProcess.Condition
import GuestKernel.GuestProcess.Mutex
import GuestKernel.GuestProcess.Threads
import GuestKernel.Proofs.Process.Frame

/-!
# Runs of a process in which threads wait

A `WaitRun` is a process together with what has happened to wait entries so far. A step is one call
on a mutex or a condition variable, the return of a call that waited, a change of guest memory by
the guest, or anything else that a process does. Which accesses to guest memory succeed is up to the
channel, which a guest step may replace by any other.

A call that waits at a condition variable returns once: because it was woken, or because its time
has passed and it then ends its own wait.
-/

set_option autoImplicit false

namespace GuestKernel

/-- What a thread waits for. -/
inductive WaitPlace where
  | mutex (address : VirtAddr)
  | condition (address : VirtAddr)
  deriving DecidableEq

/-- What happened to wait entries. -/
inductive WaitEvent where
  | arrived (place : WaitPlace) (entry : WaitEntry)
  /-- A mutex was unlocked and handed over. -/
  | handed (address : VirtAddr) (entry : WaitEntry)
  | signalled (address : VirtAddr) (woken : List WaitEntry)
  /-- A call that waited at a condition variable returned. -/
  | returned (address : VirtAddr) (entry : WaitEntry) (answer : Bool)
  deriving DecidableEq

namespace GuestProcess

variable {M A F α β : Type}

/-- The entries that wait at a place, in the order of arrival. -/
def queueOf (p : GuestProcess M A F) : WaitPlace → List WaitEntry
  | .mutex address => p.mutexes.queueAt address
  | .condition address => p.conditions.queueAt address

/-- Two processes with the same waiting threads. -/
structure SameWaits (p q : GuestProcess M A F) : Prop where
  mutexes : q.mutexes = p.mutexes
  conditions : q.conditions = p.conditions
  wakes : q.wakes = p.wakes

theorem SameWaits.refl (p : GuestProcess M A F) : SameWaits p p := ⟨rfl, rfl, rfl⟩

theorem SameWaits.trans {p q r : GuestProcess M A F} (h : SameWaits p q) (h' : SameWaits q r) :
    SameWaits p r :=
  ⟨h'.mutexes.trans h.mutexes, h'.conditions.trans h.conditions, h'.wakes.trans h.wakes⟩

/-- An action that leaves the waiting threads alone. -/
def KeepsWaits (a : Action (GuestProcess M A F) α) : Prop := ∀ p, SameWaits p (a p).state

theorem keepsWaits_bind {a : Action (GuestProcess M A F) α}
    {next : α → Action (GuestProcess M A F) β} (ha : KeepsWaits a)
    (hnext : ∀ x, KeepsWaits (next x)) : KeepsWaits (a >>= next) :=
  Action.along_bind (R := SameWaits) SameWaits.trans ha hnext

theorem keepsWaits_pure (x : α) : KeepsWaits (pure x : Action (GuestProcess M A F) α) :=
  fun p => .refl p

theorem keepsWaits_current : KeepsWaits (.current : Action (GuestProcess M A F) _) :=
  fun p => .refl p

theorem keepsWaits_note (record : LogRecord) :
    KeepsWaits (.note record : Action (GuestProcess M A F) Unit) := fun p => .refl p

theorem keepsWaits_onHandles (a : Action HandleTable α) :
    KeepsWaits (onHandles a : Action (GuestProcess M A F) α) := fun _ => ⟨rfl, rfl, rfl⟩

theorem keepsWaits_onChannel (a : Action M α) :
    KeepsWaits (onChannel a : Action (GuestProcess M A F) α) := fun _ => ⟨rfl, rfl, rfl⟩

theorem keepsWaits_signal : KeepsWaits (signal : Action (GuestProcess M A F) Unit) :=
  fun _ => ⟨rfl, rfl, rfl⟩

theorem keepsWaits_resetSignal : KeepsWaits (resetSignal : Action (GuestProcess M A F) Unit) :=
  fun _ => ⟨rfl, rfl, rfl⟩

theorem keepsWaits_setStatus (requested : ProcessStatus) :
    KeepsWaits (setStatus requested : Action (GuestProcess M A F) Unit) := by
  intro p
  simp only [setStatus, Action.bind_apply, Action.current_apply, Action.andThen_ok,
    Action.update_apply, Action.done_apply]
  cases (p.status.advance requested).1 <;> exact ⟨rfl, rfl, rfl⟩

section Regions
variable [RegionAllocator A]

theorem keepsWaits_getTlsSlot : KeepsWaits (getTlsSlot : Action (GuestProcess M A F) VirtAddr) :=
  keepsWaits_bind keepsWaits_current fun _ _ => ⟨rfl, rfl, rfl⟩

theorem keepsWaits_mapHeap : KeepsWaits (mapHeap : Action (GuestProcess M A F) Unit) := by
  refine keepsWaits_bind keepsWaits_current fun p => ?_
  split
  · refine keepsWaits_bind (fun _ => ⟨rfl, rfl, rfl⟩) fun memory => ?_
    refine keepsWaits_bind (keepsWaits_onHandles _) fun handle => ?_
    exact keepsWaits_bind (keepsWaits_note _) fun _ _ => ⟨rfl, rfl, rfl⟩
  · exact keepsWaits_pure ()

theorem keepsWaits_initializeMemory :
    KeepsWaits (initializeMemory : Action (GuestProcess M A F) Unit) := by
  refine keepsWaits_bind keepsWaits_mapHeap fun _ => ?_
  refine keepsWaits_bind keepsWaits_current fun p => ?_
  split
  · exact keepsWaits_bind (fun _ => ⟨rfl, rfl, rfl⟩) fun _ => keepsWaits_pure ()
  · exact keepsWaits_pure ()

variable [ThreadFactory F]

theorem keepsWaits_createThread (entryPoint : VirtAddr) (entryArgument : UInt64)
    (stackTop : VirtAddr) (priority : Priority) :
    KeepsWaits (createThread entryPoint entryArgument stackTop priority :
      Action (GuestProcess M A F) (Handle × ThreadObject)) := by
  refine keepsWaits_bind keepsWaits_getTlsSlot fun tls => ?_
  refine keepsWaits_bind (keepsWaits_onHandles _) fun handle => ?_
  refine keepsWaits_bind keepsWaits_current fun p => ?_
  refine keepsWaits_bind (fun _ => ⟨rfl, rfl, rfl⟩) fun made => ?_
  refine keepsWaits_bind (keepsWaits_onHandles _) fun _ => ?_
  refine keepsWaits_bind (fun _ => ⟨rfl, rfl, rfl⟩) fun _ => ?_
  exact keepsWaits_bind (keepsWaits_note _) fun _ => keepsWaits_pure _

theorem keepsWaits_createMainThread (entryPoint stackTop : VirtAddr) :
    KeepsWaits (createMainThread entryPoint stackTop :
      Action (GuestProcess M A F) (Handle × ThreadObject)) := by
  refine keepsWaits_bind keepsWaits_current fun p => ?_
  refine keepsWaits_bind (keepsWaits_createThread _ _ _ _) fun _ => ?_
  exact keepsWaits_bind (fun _ => ⟨rfl, rfl, rfl⟩) fun _ => keepsWaits_pure _

end Regions

end GuestProcess

structure WaitRun (M A F : Type) where
  process : GuestProcess M A F
  events : List WaitEvent

namespace WaitRun

open GuestProcess

variable {M A F α : Type}

/-- The run after a call; one that faults leaves no event. -/
def after (s : WaitRun M A F) (call : Action (GuestProcess M A F) α)
    (happened : α → List WaitEvent) : WaitRun M A F where
  process := (call s.process).state
  events := s.events ++ match (call s.process).outcome with
    | .ok answer => happened answer
    | .error _ => []

/-- What a call that locks a mutex does to wait entries. -/
def lockEvents (address : VirtAddr) : LockOutcome → List WaitEvent
  | .returned => []
  | .queued entry => [.arrived (.mutex address) entry]

/-- What a call that unlocks a mutex does to wait entries. -/
def unlockEvents (address : VirtAddr) : Option WaitEntry → List WaitEvent
  | none => []
  | some entry => [.handed address entry]

/-- A call that waits at a condition variable with this entry has not returned. -/
structure Waiting (s : WaitRun M A F) (address : VirtAddr) (entry : WaitEntry) : Prop where
  arrived : .arrived (.condition address) entry ∈ s.events
  pending : ∀ answer, .returned address entry answer ∉ s.events

section Steps
variable [MemoryChannel M]

inductive Step : WaitRun M A F → WaitRun M A F → Prop where
  | lock (s : WaitRun M A F) (address : VirtAddr) (owner : Handle) (insist : Bool)
      (thread : GuestThread) :
      Step s (s.after (mutexLock address owner insist thread) (lockEvents address))
  | unlock (s : WaitRun M A F) (address : VirtAddr) :
      Step s (s.after (mutexUnlock address) (unlockEvents address))
  | wait (s : WaitRun M A F) (address : VirtAddr) (thread : GuestThread) :
      Step s (s.after (conditionWait address thread)
        fun entry => [.arrived (.condition address) entry])
  | signal (s : WaitRun M A F) (address : VirtAddr) (amount : UInt64) :
      Step s (s.after (conditionSignal address amount) fun woken => [.signalled address woken])
  | timeout (s : WaitRun M A F) (address : VirtAddr) (entry : WaitEntry)
      (waiting : s.Waiting address entry) :
      Step s (s.after (conditionTimeout address entry)
        fun answer => [.returned address entry answer])
  /-- The thread that waits finds that it was woken. -/
  | wake (s : WaitRun M A F) (address : VirtAddr) (entry : WaitEntry)
      (waiting : s.Waiting address entry) (woken : s.process.wakes.isWoken entry = true) :
      Step s ⟨s.process, s.events ++ [.returned address entry true]⟩
  /-- The guest writes to its memory, or the channel changes its mind about what to refuse. -/
  | guest (s : WaitRun M A F) (channel : M) : Step s ⟨{ s.process with channel }, s.events⟩
  | other (s : WaitRun M A F) {α : Type} (call : Action (GuestProcess M A F) α)
      (keeps : KeepsWaits call) : Step s (s.after call fun _ => [])

/-- The runs that start with a new process. -/
inductive Reachable : WaitRun M A F → Prop where
  | start (index : Nat) (config : ProcessConfig) (channel : M) (allocator : A) (factory : F) :
      Reachable ⟨.new index config channel allocator factory, []⟩
  | step {s t : WaitRun M A F} (reachable : Reachable s) (step : Step s t) : Reachable t

end Steps

end WaitRun

end GuestKernel
