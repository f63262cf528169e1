import Mathlib
import GuestKernel.Memory.Window
import GuestKernel.Proofs.FiniteMap
import GuestKernel.Proofs.Process.Core
import GuestKernel.Scripted.Allocator
import GuestKernel.Scripted.Factory

/-!
# The index of threads along a run

A process indexes its threads by the host threads that run them, and remembers its main thread by
that index only. Nothing is taken out of the index, but a new thread takes the place of an old one
with the same host thread. So the index holds the last thread of every host thread, and tells all
threads apart exactly as long as no host thread repeats, which is up to the factory. What carries
the proofs is that a call which makes a thread files it and does nothing else to the index,
`ProcessCall.threadIndex_perform`.
-/

set_option autoImplicit false

namespace GuestKernel

open GuestKernel.Action

namespace GuestProcess

variable {M A F : Type}

def threadIndex (p : GuestProcess M A F) : FiniteMap Tid ThreadObject × Option Tid :=
  (p.threads, p.mainThread)

def filed (threads : FiniteMap Tid ThreadObject) : Option ThreadObject → FiniteMap Tid ThreadObject
  | some made => threads.insert made.thread.tid made
  | none => threads

def marked (mainThread : Option Tid) : Option ThreadObject → Option Tid
  | some made => some made.thread.tid
  | none => mainThread

def madeBy (outcome : Except Fault (Handle × ThreadObject)) : Option ThreadObject :=
  outcome.toOption.map Prod.snd

/-- The action puts the thread that it makes into the index, and does nothing else to that. -/
def Files (a : Action (GuestProcess M A F) (Handle × ThreadObject)) : Prop := ∀ p,
  (a p).state.threadIndex = (filed p.threads (madeBy (a p).outcome), p.mainThread)

theorem files_bind {α : Type} {a : Action (GuestProcess M A F) α}
    {next : α → Action (GuestProcess M A F) (Handle × ThreadObject)} (first : a.Keeps threadIndex)
    (h : ∀ x, Files (next x)) : Files (a >>= next) := by
  intro p
  have start := first p
  rw [bind_apply]
  rcases ended : a p with ⟨outcome, q, log⟩
  rw [ended] at start
  obtain ⟨threads, mainThread⟩ := Prod.mk.inj start
  cases outcome with
  | error fault => exact start
  | ok x =>
    have later := h x q
    change q.threads = p.threads at threads
    change q.mainThread = p.mainThread at mainThread
    rwa [threads, mainThread] at later

variable [RegionAllocator A]

theorem threadIndex_initializeMemory :
    (initializeMemory (M := M) (A := A) (F := F)).Keeps threadIndex := by
  refine keeps_bind (keeps_bind keeps_current fun p => ?_) fun _ =>
    keeps_bind keeps_current fun p => ?_
  · cases p.heap.isNone with
    | true =>
      refine keeps_bind (fun _ => rfl) fun memory => keeps_bind (fun _ => rfl) fun handle => ?_
      exact keeps_bind (keeps_note _) fun _ => fun _ => rfl
    | false => exact keeps_pure ()
  · cases p.tlsPages.pages.isEmpty with
    | true => exact keeps_bind (fun _ => rfl) fun _ => keeps_pure ()
    | false => exact keeps_pure ()

variable [ThreadFactory F]

theorem files_createThread (entryPoint : VirtAddr) (entryArgument : UInt64) (stackTop : VirtAddr)
    (priority : Priority) :
    Files (M := M) (A := A) (F := F) (createThread entryPoint entryArgument stackTop priority) := by
  refine files_bind (fun _ => rfl) fun tls => files_bind (fun _ => rfl) fun handle => ?_
  refine files_bind (fun _ => rfl) fun p => files_bind (fun _ => rfl) fun made => ?_
  exact fun _ => rfl

/-- The main thread is indexed like any other, and remembered. -/
theorem threadIndex_createMainThread (entryPoint stackTop : VirtAddr) (p : GuestProcess M A F) :
    (createMainThread entryPoint stackTop p).state.threadIndex =
      (filed p.threads (madeBy (createMainThread entryPoint stackTop p).outcome),
        marked p.mainThread (madeBy (createMainThread entryPoint stackTop p).outcome)) := by
  have files := files_createThread entryPoint 0 stackTop p.config.defaultPriority p
  simp only [createMainThread, bind_apply, current_apply, andThen_ok]
  rcases created : createThread entryPoint 0 stackTop p.config.defaultPriority p with
    ⟨outcome, q, log⟩
  rw [created] at files
  cases outcome with
  | error fault => exact files
  | ok made => exact congrArg (fun index => (index.1, some made.2.thread.tid)) files

end GuestProcess

namespace ProcessCall

open GuestProcess

variable {M A F : Type} [RegionAllocator A] [ThreadFactory F]

def newMainThread? (p : GuestProcess M A F) : ProcessCall M A F → Option ThreadObject
  | createMainThread entryPoint stackTop =>
    madeBy (GuestProcess.createMainThread entryPoint stackTop p).outcome
  | _ => none

/-- The thread that a call makes, as the main one or not. -/
def newThread? (p : GuestProcess M A F) : ProcessCall M A F → Option ThreadObject
  | createThread entryPoint entryArgument stackTop priority =>
    madeBy (GuestProcess.createThread entryPoint entryArgument stackTop priority p).outcome
  | call => call.newMainThread? p

theorem newThread_of_main {p : GuestProcess M A F} {call : ProcessCall M A F} {made : ThreadObject}
    (h : call.newMainThread? p = some made) : call.newThread? p = some made := by
  cases call with
  | createThread => cases h
  | _ => exact h

variable [MemoryChannel M]

theorem threadIndex_perform (call : ProcessCall M A F) (p : GuestProcess M A F) :
    (call.perform p).state.threadIndex =
      (filed p.threads (call.newThread? p), marked p.mainThread (call.newMainThread? p)) := by
  cases elsewhere : call.isElsewhere with
  | true =>
    have same := congrArg (fun holdings => holdings.2.2) (keeps_holdings elsewhere p)
    cases call with
    | createThread => cases elsewhere
    | createMainThread => cases elsewhere
    | _ => exact same
  | false =>
    cases call with
    | initializeMemory => exact threadIndex_initializeMemory p
    | getTlsSlot => rfl
    | table call => rfl
    | createThread entryPoint entryArgument stackTop priority =>
      exact files_createThread entryPoint entryArgument stackTop priority p
    | createMainThread entryPoint stackTop =>
      exact threadIndex_createMainThread entryPoint stackTop p
    | _ => cases elsewhere

end ProcessCall

def lastOn (tid : Tid) (made : List ThreadObject) : Option ThreadObject :=
  (made.filter fun t => t.thread.tid = tid).getLast?

def hostThreads (made : List ThreadObject) : List Tid := made.map fun t => t.thread.tid

section LastOn
variable {made : List ThreadObject} {t : ThreadObject} {tid : Tid}

theorem lastOn_append_one : lastOn tid (made ++ [t]) =
    if tid = t.thread.tid then some t else lastOn tid made := by
  rw [lastOn, List.filter_append]
  split
  · rename_i same
    rw [List.filter_singleton, decide_eq_true same.symm]
    exact List.getLast?_concat
  · rename_i other
    rw [List.filter_singleton, decide_eq_false (Ne.symm other)]
    exact congrArg List.getLast? (List.append_nil _)

theorem mem_of_lastOn (h : lastOn tid made = some t) : t ∈ made ∧ t.thread.tid = tid := by
  obtain ⟨mem, same⟩ := List.mem_filter.mp (List.mem_of_getLast? h)
  exact ⟨mem, of_decide_eq_true same⟩

theorem lastOn_ne_none_iff : lastOn tid made ≠ none ↔ tid ∈ hostThreads made := by
  rw [hostThreads, List.mem_map]
  constructor
  · intro present
    obtain ⟨t, found⟩ := Option.ne_none_iff_exists'.mp present
    exact ⟨t, mem_of_lastOn found⟩
  · rintro ⟨t, mem, same⟩ absent
    have empty := List.getLast?_eq_none_iff.mp absent
    exact List.filter_eq_nil_iff.mp empty t mem (decide_eq_true same)

/-- If no host thread repeats, every thread is the last one on its own. -/
theorem lastOn_of_nodup (apart : (hostThreads made).Nodup) (mem : t ∈ made) :
    lastOn t.thread.tid made = some t := by
  have present := lastOn_ne_none_iff.mpr (List.mem_map.mpr ⟨t, mem, rfl⟩)
  obtain ⟨other, found⟩ := Option.ne_none_iff_exists'.mp present
  obtain ⟨there, same⟩ := mem_of_lastOn found
  rw [found, List.inj_on_of_nodup_map apart there mem same]

theorem card_hostThreads_eq_iff :
    (hostThreads made).toFinset.card = made.length ↔ (hostThreads made).Nodup := by
  have same : (hostThreads made).length = made.length := List.length_map _
  rw [List.card_toFinset, ← same]
  constructor
  · intro all
    rw [← List.dedup_eq_self]
    exact (List.dedup_sublist _).eq_of_length all
  · intro apart
    rw [List.dedup_eq_self.mpr apart]

end LastOn

namespace ProcessRun

variable {M A F : Type} [RegionAllocator A] [ThreadFactory F]

def threadsMade (s : ProcessRun M A F) : List ThreadObject :=
  s.calls.filterMap fun made => made.2.newThread? made.1

def mainThreads (s : ProcessRun M A F) : List ThreadObject :=
  s.calls.filterMap fun made => made.2.newMainThread? made.1

theorem mem_threadsMade_of_main {s : ProcessRun M A F} {t : ThreadObject}
    (mem : t ∈ s.mainThreads) : t ∈ s.threadsMade := by
  obtain ⟨made, there, main⟩ := List.mem_filterMap.mp mem
  exact List.mem_filterMap.mpr ⟨made, there, ProcessCall.newThread_of_main main⟩

variable [MemoryChannel M] {config : ProcessConfig} {s : ProcessRun M A F}

theorem threadsMade_after (call : ProcessCall M A F) :
    (s.after call).threadsMade = s.threadsMade ++ (call.newThread? s.process).toList :=
  filterMap_after _ s call

theorem mainThreads_after (call : ProcessCall M A F) :
    (s.after call).mainThreads = s.mainThreads ++ (call.newMainThread? s.process).toList :=
  filterMap_after _ s call

theorem Reachable.thread_eq (h : Reachable config s) (tid : Tid) :
    s.process.thread? tid = lastOn tid s.threadsMade := by
  induction h with
  | start => rfl
  | @call s reachable call ih =>
    have step := congrArg Prod.fst (call.threadIndex_perform s.process)
    change (call.perform s.process).state.threads = _ at step
    rw [threadsMade_after, GuestProcess.thread?, after, step]
    cases call.newThread? s.process with
    | none =>
      rw [Option.toList_none, List.append_nil]
      exact ih
    | some made =>
      rw [Option.toList_some, lastOn_append_one, ← ih]
      exact FiniteMap.get?_insert ..

theorem Reachable.mainThread_eq (h : Reachable config s) :
    s.process.mainThread = s.mainThreads.getLast?.map fun t => t.thread.tid := by
  induction h with
  | start => rfl
  | @call s reachable call ih =>
    have step := congrArg Prod.snd (call.threadIndex_perform s.process)
    change (call.perform s.process).state.mainThread = _ at step
    rw [mainThreads_after, after, step]
    cases call.newMainThread? s.process with
    | none =>
      rw [Option.toList_none, List.append_nil]
      exact ih
    | some made =>
      rw [Option.toList_some, List.getLast?_concat]
      rfl

/-- What the index of a process knows of the threads that were made. -/
structure Indexed (s : ProcessRun M A F) : Prop where
  thread : ∀ tid, s.process.thread? tid = lastOn tid s.threadsMade
  count : s.process.threads.size = (hostThreads s.threadsMade).toFinset.card
  main : s.process.mainThread? =
    s.mainThreads.getLast?.bind fun made => lastOn made.thread.tid s.threadsMade
  /-- All threads are counted exactly if no two have the same host thread. -/
  complete : s.process.threads.size = s.threadsMade.length ↔ (hostThreads s.threadsMade).Nodup
  apart : (hostThreads s.threadsMade).Nodup → s.process.mainThread? = s.mainThreads.getLast?

/-- The index has the last thread of every host thread, and the main thread is the one that has the
host thread of the main thread made last. -/
theorem Reachable.threads_indexed (h : Reachable config s) : Indexed s := by
  have count : s.process.threads.size = (hostThreads s.threadsMade).toFinset.card := by
    rw [← FiniteMap.card_keys]
    congr 1
    ext tid
    rw [FiniteMap.mem_keys_iff, List.mem_toFinset, ← lastOn_ne_none_iff, ← h.thread_eq]
    rfl
  have main : s.process.mainThread? =
      s.mainThreads.getLast?.bind fun made => lastOn made.thread.tid s.threadsMade := by
    rw [GuestProcess.mainThread?, h.mainThread_eq, Option.bind_map]
    exact congrArg s.mainThreads.getLast?.bind (funext fun made => h.thread_eq made.thread.tid)
  refine ⟨h.thread_eq, count, main, count ▸ card_hostThreads_eq_iff, fun apart => ?_⟩
  rw [main]
  cases last : s.mainThreads.getLast? with
  | none => rfl
  | some made =>
    have mem := mem_threadsMade_of_main (List.mem_of_getLast? last)
    exact lastOn_of_nodup apart mem

/-- A main thread, a thread that the factory refuses, another one, and a second main thread. -/
theorem threads_indexed_with_refusal : ∃ s : ProcessRun Window ScriptedAllocator ScriptedFactory,
    hostThreads s.threadsMade = [1000, 1001, 1002] ∧ hostThreads s.mainThreads = [1000, 1002] ∧
    Indexed s := by
  let refusing : ScriptedFactory := ⟨{ refusal := some .handlesExhausted }, 1001, []⟩
  have start : Reachable {} _ :=
    .start 0 (Window.new 0x1000 0x1000) ScriptedAllocator.new ScriptedFactory.new
  have main := start.call (.createMainThread 0x1000 0x2000)
  have refused := (main.call (.replace .new refusing)).call (.createThread 0x1000 0 0x2000 5)
  have other := (refused.call (.replace .new ⟨{}, 1001, []⟩)).call (.createThread 0x1000 0 0x2000 5)
  have last := other.call (.createMainThread 0x1000 0x2000)
  exact ⟨_, by decide, by decide, last.threads_indexed⟩

/-- A factory runs the main thread and another one on the same host thread. -/
theorem two_threads_one_host : ∃ s : ProcessRun Window ScriptedAllocator ScriptedFactory,
    Reachable {} s ∧ s.threadsMade.length = 2 ∧ s.process.threads.size = 1 ∧
    s.mainThreads.getLast?.map (fun made => made.thread.handle) = some 0xD001 ∧
    s.process.mainThread?.map (fun made => made.thread.handle) = some 0xD002 := by
  let repeating : ScriptedFactory := ⟨{ tid := some 7 }, 1000, []⟩
  have start : Reachable {} _ :=
    .start 0 (Window.new 0x1000 0x1000) ScriptedAllocator.new repeating
  have main := start.call (.createMainThread 0x1000 0x2000)
  have both := main.call (.createThread 0x1000 0 0x2000 5)
  exact ⟨_, both, by decide, by decide, by decide, by decide⟩

end ProcessRun

end GuestKernel
