import Mathlib
import GuestKernel.Memory.Window
import GuestKernel.Proofs.Memory.Word
import GuestKernel.Proofs.Mutex.Tag
import GuestKernel.Proofs.Wait.Accounted
import GuestKernel.Proofs.Wait.ServiceOrder

/-!
# The order in which a mutex is handed over

Unlocking a mutex again and again serves the threads that are queued at it by descending priority,
and threads of one priority in the order of their arrival. `Unlocking` is a part of a run in which
the mutex is unlocked any number of times; in between, anything may happen that leaves the queue of
the mutex alone.
-/

set_option autoImplicit false

namespace GuestKernel

open GuestMemory WaitEntry

section Access
variable {M : Type} [MemoryChannel M]

/-- The accesses of an unlock to the word at an address go through. -/
structure Accessible (c : M) (address : VirtAddr) : Prop where
  read : ∃ tag, (readValue UInt32 address c).outcome = .ok tag
  write : ∀ tag : UInt32, (writeValue address tag c).outcome = .ok ()
  rewrite : ∀ tag : UInt32,
    (writeValue address tag (readValue UInt32 address c).state).outcome = .ok ()

end Access

namespace Window

theorem accessible {w : Window} {address : VirtAddr} (readable : w.readOutage = none)
    (writable : w.writeOutage = none) (inside : w.covers address 4 = true) :
    Accessible w address := by
  have written : ∀ (v : Window) (tag : UInt32), v.writeOutage = none → v.covers address 4 = true →
      (writeValue address tag v).outcome = .ok () := by
    intro v tag calm inside
    rcases writeWord_cases v address tag with ⟨_, done⟩ | ⟨cause, failed, _⟩
    · rw [done]
    · have done : (MemoryChannel.writeAt v address (GuestValue.encode tag)).1 = .ok () :=
        writeAt_inside _ calm inside
      rw [failed] at done
      cases done
  have asked : (readValue UInt32 address w).state = w.noteCall .read address 4 := by
    rcases readWord_cases w address with ⟨_, _, done⟩ | ⟨_, _, done⟩ <;>
    · rw [done]
      simp [MemoryChannel.readAt, Window.readAt, readable, Outage.meet, peek?, inside]
  refine ⟨?_, fun tag => written w tag writable inside, fun tag => ?_⟩
  · rcases readWord_cases w address with ⟨bytes, _, done⟩ | ⟨cause, failed, _⟩
    · exact ⟨_, by rw [done]⟩
    · have done : (MemoryChannel.readAt w address 4).1 = .ok _ := readAt_inside readable inside
      rw [failed] at done
      cases done
  · rw [asked]
    exact written _ tag writable inside

end Window

namespace WaitRun

open GuestProcess

variable {M A F : Type}

section Calls
variable [MemoryChannel M]

/-- A part of a run in which the mutex at an address is unlocked again and again, with the processes
at which it is. Every other step leaves the queue of the mutex alone. -/
inductive Unlocking (address : VirtAddr) : WaitRun M A F → List (GuestProcess M A F) → Prop where
  | stop (s : WaitRun M A F) : Unlocking address s []
  | elsewhere {s t : WaitRun M A F} {calls : List (GuestProcess M A F)} (step : Step s t)
      (untouched : t.process.mutexes.queueAt address = s.process.mutexes.queueAt address)
      (rest : Unlocking address t calls) : Unlocking address s calls
  | unlock {s : WaitRun M A F} {calls : List (GuestProcess M A F)}
      (accessible : Accessible s.process.channel address)
      (rest : Unlocking address (s.after (mutexUnlock address) (unlockEvents address)) calls) :
      Unlocking address s (s.process :: calls)

end Calls

variable [ByteChannel M]

/-- What an unlock does that serves the entry at a position of `order`, or comes after all. -/
def Serves (address : VirtAddr) (order : List WaitEntry) (i : Nat) (p : GuestProcess M A F) :
    Prop :=
  match order[i]? with
  | some e =>
    (mutexUnlock address p).outcome = .ok (some e) ∧
      p.wakes.isWoken e = false ∧
      (mutexUnlock address p).state.wakes = p.wakes.wake e ∧
      wordAt (mutexUnlock address p).state.channel address =
        (e.handle &&& mutexOwnerMask) ||| (if i + 1 < order.length then mutexWaitersBit else 0)
  | none =>
    (mutexUnlock address p).outcome = .ok none ∧
      (mutexUnlock address p).state.wakes = p.wakes ∧
      wordAt (mutexUnlock address p).state.channel address = 0

theorem ownedTag_eq (owner : Handle) (contended : Bool) :
    ownedTag owner contended =
      (owner &&& mutexOwnerMask) ||| (if contended then mutexWaitersBit else 0) := by
  cases contended with
  | true => rfl
  | false => exact UInt32.or_zero.symm

variable {p : GuestProcess M A F} {address : VirtAddr}

/-- With nobody queued an unlock clears the tag. -/
theorem serves_nobody (accessible : Accessible p.channel address)
    (nobody : p.mutexes.queueAt address = []) :
    Serves address [] 0 p ∧ (mutexUnlock address p).state.mutexes.queueAt address = [] := by
  obtain ⟨tag, readable⟩ := accessible.read
  have exit := mutexUnlock_exit p address
  rcases call : mutexUnlock address p with ⟨outcome, q, log⟩
  rw [call] at exit
  simp only [Serves, List.getElem?_nil, call]
  cases exit with
  | unread _ read =>
    rw [read] at readable
    cases readable
  | uncleared _ read write =>
    have done := accessible.rewrite 0
    rw [read, write] at done
    cases done
  | cleared _ read write => exact ⟨⟨rfl, rfl, wordAt_of_writeWord_ok write⟩, nobody⟩
  | unhanded cut => exact absurd (nobody ▸ cut.mem) List.not_mem_nil
  | handed cut => exact absurd (nobody ▸ cut.mem) List.not_mem_nil

/-- With threads queued an unlock serves the first of the order and leaves the others queued. -/
theorem serves_first (accessible : Accessible p.channel address)
    (distinct : Distinct (p.mutexes.queueAt address)) {before after : List WaitEntry}
    {e : WaitEntry} (cut : Selected (p.mutexes.queueAt address) before e after)
    (asleep : p.wakes.isWoken e = false) :
    Serves address (serviceOrder (p.mutexes.queueAt address)) 0 p ∧
      (mutexUnlock address p).state.mutexes.queueAt address = before ++ after := by
  have waiters : p.mutexes.waiters address =
      (serviceOrder (p.mutexes.queueAt address)).length := (length_serviceOrder _).symm
  rw [serviceOrder_of_selected cut] at waiters ⊢
  have exit := mutexUnlock_exit p address
  rcases call : mutexUnlock address p with ⟨outcome, q, log⟩
  rw [call] at exit
  simp only [Serves, List.getElem?_cons_zero, call]
  cases exit with
  | unread nobody | uncleared nobody | cleared nobody =>
    exact absurd (nobody ▸ cut.mem) List.not_mem_nil
  | unhanded cut' write =>
    have done := congrArg Effect.outcome write
    rw [accessible.write] at done
    cases done
  | handed cut' write =>
    obtain ⟨rfl, rfl, rfl⟩ := cut.unique cut'
    have removal := WaitQueues.remove_of_mem distinct cut.mem
    refine ⟨⟨rfl, asleep, rfl, ?_⟩, ?_⟩
    · rw [wordAt_of_writeWord_ok write, ownedTag_eq, waiters]
      simp
    · simp only [removal, Option.getD_some, WaitQueues.queueAt_setQueue_self]
      exact remaining_of_split distinct cut.split

/-- The later calls serve what the first one has left. -/
theorem Serves.succ {order : List WaitEntry} {e : WaitEntry} {i : Nat}
    (h : Serves address order i p) : Serves address (e :: order) (i + 1) p := by
  simpa only [Serves, List.getElem?_cons_succ, List.length_cons, Nat.add_lt_add_iff_right] using h

/-- Unlocking a mutex again and again serves its threads in order, and then clears the tag. -/
theorem Reachable.serves_in_order {s : WaitRun M A F} (h : Reachable s)
    {calls : List (GuestProcess M A F)} (unlocking : Unlocking address s calls) (i : Nat)
    (called : i < calls.length) :
    Serves address (serviceOrder (s.process.mutexes.queueAt address)) i calls[i] := by
  induction unlocking generalizing i with
  | stop => exact absurd called (Nat.not_lt_zero i)
  | elsewhere step untouched rest ih =>
    rw [← untouched]
    exact ih (h.step step) i called
  | @unlock s calls accessible rest ih =>
    have account := h.accounted
    have later := ih (h.step (.unlock s address))
    have left : (s.after (mutexUnlock address) (unlockEvents address)).process =
      (mutexUnlock address s.process).state := rfl
    rw [left] at later
    cases next : s.process.mutexes.peekNext address with
    | none =>
      have nobody := WaitQueues.peekNext_eq_none_iff.mp next
      obtain ⟨serves, queue⟩ := serves_nobody accessible nobody
      rw [queue, serviceOrder_nil] at later
      rw [nobody, serviceOrder_nil]
      cases i with
      | zero => exact serves
      | succ i => exact later i (Nat.lt_of_succ_lt_succ called)
    | some e =>
      obtain ⟨before, after, cut⟩ := WaitQueues.selected_of_peekNext next
      have queued : e ∈ s.process.queueOf (.mutex address) := cut.mem
      have asleep := account.asleep_of_queued queued
      obtain ⟨serves, queue⟩ :=
        serves_first accessible (account.distinct (.mutex address)) cut asleep
      cases i with
      | zero => exact serves
      | succ i =>
        have served := later i (Nat.lt_of_succ_lt_succ called)
        rw [queue] at served
        rw [serviceOrder_of_selected cut]
        exact served.succ

/-- Three threads at a mutex, two of them of the same priority, and one call more than they need. -/
theorem serves_three_in_order : ∃ (s : WaitRun Window Unit Unit) (calls : List _),
    Unlocking 0x1000 s calls ∧ calls.length = 4 ∧
      (serviceOrder (s.process.mutexes.queueAt 0x1000)).map WaitEntry.handle = [7, 8, 6] ∧
      ∀ (i : Nat) (called : i < calls.length),
        Serves 0x1000 (serviceOrder (s.process.mutexes.queueAt 0x1000)) i calls[i] := by
  have start := Reachable.start 0 {} (Window.new 0x1000 0x1000) () ()
  have owned := start.step (.lock _ 0x1000 0 true ⟨5, 1, 100, 0⟩)
  have low := owned.step (.lock _ 0x1000 5 false ⟨6, 1, 101, 0⟩)
  have high := low.step (.lock _ 0x1000 5 false ⟨7, 5, 102, 0⟩)
  have third := high.step (.lock _ 0x1000 5 false ⟨8, 5, 103, 0⟩)
  have calm : ∀ w : Window, w.readOutage = none → w.writeOutage = none →
      w.covers 0x1000 4 = true → Accessible w 0x1000 := fun w => Window.accessible
  refine ⟨_, [?p, ?q, ?r, ?t], ?unlocking, rfl, ?order,
    fun i called => third.serves_in_order ?unlocking i called⟩
  case unlocking =>
    refine .unlock (calm _ ?_ ?_ ?_) (.elsewhere (.wait _ 0x2000 ⟨5, 1, 100, 0⟩) ?_
      (.unlock (calm _ ?_ ?_ ?_) (.unlock (calm _ ?_ ?_ ?_) (.unlock (calm _ ?_ ?_ ?_) (.stop _)))))
    all_goals decide
  case order => cbv

end WaitRun

end GuestKernel
