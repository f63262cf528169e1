import Mathlib
import GuestKernel.Memory.Window
import GuestKernel.Proofs.Process.Stages
import GuestKernel.Proofs.Tls.Capacity
import GuestKernel.Proofs.Tls.Refusal

/-!
# A thread is made as a whole or not at all

A creation that succeeds has asked the factory once, with what the caller said, with a handle that
was never given out and with a slot that nobody had taken; the thread is then bound and indexed.
One that fails leaves the index, the main thread and all earlier bindings alone and binds no thread;
what it uses up is told by the stage at which it fails. In between the factory may do anything to
the bindings, which is its own doing in both cases.
-/

set_option autoImplicit false

namespace GuestKernel

open HandleTable

/-- Lets a program give something else in the end. -/
def TableProgram.map {α β : Type} (f : α → β) : TableProgram α → TableProgram β
  | done value => done (f value)
  | call c next => call c fun answer => (next answer).map f

theorem TableProgram.run_map {α β : Type} (f : α → β) (program : TableProgram α)
    (table : HandleTable) : (program.map f).run table =
      ⟨(program.run table).outcome.map f, (program.run table).state, (program.run table).log⟩ := by
  induction program generalizing table with
  | done value => rfl
  | call c next ih =>
    simp only [map, run, Action.bind_apply, Action.attempt_apply, Action.andThen_ok, ih]

/-- A factory with all the threads that it was asked for, the first one first. -/
structure Briefed (F : Type) where
  factory : F
  briefs : List ThreadParams

instance {F : Type} [ThreadFactory F] : ThreadFactory (Briefed F) where
  create briefed params := (ThreadFactory.create briefed.factory params).map fun made =>
    (made.1, ⟨made.2, briefed.briefs ++ [params]⟩)

/-- It maps thread-local storage where it is asked to, or not at all. -/
def Placing (A : Type) [RegionAllocator A] : Prop :=
  ∀ (allocator : A) (request : RegionRequest) (memory : MemoryObject),
    request.purpose = .threadLocal → (RegionAllocator.allocate allocator request).1 = .ok memory →
      memory.region.address = request.region.address

@[reducible] def Placing.toAllocator {A : Type} [RegionAllocator A] (h : Placing A) :
    PlacingAllocator A where
  placed := fun {allocator request memory} => h allocator request memory

namespace ProcessRun

open GuestProcess

section Given
variable {M A F : Type} [MemoryChannel M] [RegionAllocator A] [ThreadFactory F]

/-- A call of the run has given the handle out, be it for something that was not bound. -/
def HandedOut (s : ProcessRun M A F) (handle : Handle) : Prop :=
  ∃ made ∈ s.calls, made.1.counter ≤ handle.toNat ∧
    handle.toNat < (made.2.perform made.1).state.counter

variable {config : ProcessConfig} {s : ProcessRun M A F} {handle : Handle}

/-- What was given out lies between the first handle and the next one. -/
theorem Reachable.handedOut_iff (h : Reachable config s) : s.HandedOut handle ↔
    config.baseHandleIndex.toNat ≤ handle.toNat ∧ handle.toNat < s.process.counter := by
  induction h with
  | start index channel allocator factory =>
    constructor
    · rintro ⟨_, mem, _⟩
      cases mem
    · rintro ⟨low, high⟩
      exact absurd (Nat.lt_of_le_of_lt low high) (Nat.lt_irrefl _)
  | @call s reachable call ih =>
    have base := reachable.threadHandles_range.1
    have up := call.counter_le (p := s.process)
    have split : (s.after call).HandedOut handle ↔ s.HandedOut handle ∨
        s.process.counter ≤ handle.toNat ∧
          handle.toNat < (call.perform s.process).state.counter := by
      simp only [HandedOut, after, List.mem_append, List.mem_singleton, or_and_right, exists_or,
        exists_eq_left]
    rw [split, ih]
    change _ ↔ _ ∧ handle.toNat < (call.perform s.process).state.counter
    omega

/-- A slot is not taken a second time, if the pages lie where they were asked for. -/
theorem Reachable.slot_new (h : Reachable config s) (placing : Placing A) {tls : VirtAddr}
    (slot : (getTlsSlot s.process).outcome = .ok tls) : tls ∉ s.slots := by
  have after : (s.after .getTlsSlot).slots = s.slots ++ [tls] := by
    rw [slots_after]
    change s.slots ++ (getTlsSlot s.process).outcome.toOption.toList = _
    rw [slot]
    rfl
  let _ : PlacingAllocator A := placing.toAllocator
  obtain ⟨count, located⟩ := (h.call .getTlsSlot).located
  have apart := located.slots_apart.1
  rw [after] at apart
  intro mem
  exact (List.nodup_append.mp apart).2.2 tls mem tls (List.mem_singleton_self _) rfl

end Given

end ProcessRun

namespace GuestProcess

variable {M A F : Type} [RegionAllocator A]

section Exits
variable [ThreadFactory F] {p q : GuestProcess M A F} {brief : Handle → VirtAddr → ThreadParams}
variable {answer : Except Fault (Handle × ThreadObject)} {count : Nat}

theorem ThreadExit.tlsPages (exit : ThreadExit p brief answer q) :
    q.tlsPages = (getTlsSlot p).state.tlsPages := by
  cases exit <;> rfl

theorem ThreadExit.mainThread (exit : ThreadExit p brief answer q) :
    q.mainThread = p.mainThread := by
  cases exit <;> rfl

theorem deletions_threadEvents (answer : Except Fault (Handle × ThreadObject)) :
    deletions (threadEvents answer) = 0 := by
  cases answer <;> rfl

theorem not_deleted_threadEvents {handle : Handle} :
    .deleted handle ∉ threadEvents answer := by
  cases answer with
  | error fault => exact List.not_mem_nil
  | ok made =>
    intro mem
    cases List.mem_singleton.mp mem

theorem ThreadExit.size (exit : ThreadExit p brief answer q) (packed : p.tlsPages.Packed count)
    (issued : p.handles.Issued) :
    q.handles.size + deletions (p.factoryEvents brief) + p.tlsPages.pages.length =
      p.handles.size + (threadEvents answer).length + q.tlsPages.pages.length +
        creations (p.factoryEvents brief) := by
  obtain ⟨page, step⟩ := getTlsSlot_storage packed
  have total := (step.evolves.trans exit.evolves).size issued
  have pages := step.creations
  have none := step.deletions
  have kept := deletions_threadEvents answer
  have last : creations (threadEvents answer) = (threadEvents answer).length := by
    cases answer <;> rfl
  rw [exit.tlsPages]
  simp only [deletions_append, creations_append] at total
  omega

theorem ThreadExit.kept (exit : ThreadExit p brief answer q) (packed : p.tlsPages.Packed count)
    {handle : Handle} (given : handle.toNat < p.counter)
    (undeleted : .deleted handle ∉ p.factoryEvents brief) :
    q.handles.bindings.get? handle = p.handles.bindings.get? handle := by
  obtain ⟨page, step⟩ := getTlsSlot_storage packed
  refine (step.evolves.trans exit.evolves).kept given fun mem => ?_
  rcases List.mem_append.mp mem with early | late
  · exact step.not_deleted handle early
  · rcases List.mem_append.mp late with factory | last
    · exact undeleted factory
    · exact not_deleted_threadEvents last

/-- What is bound without a thread is a page, or the factory's own. -/
theorem ThreadExit.added {fault : Fault} (exit : ThreadExit p brief (.error fault) q)
    (packed : p.tlsPages.Packed count) {handle : Handle}
    (before : p.handles.bindings.get? handle = none) (now : q.handles.bindings.get? handle ≠ none) :
    handle ∈ boundHandles (p.factoryEvents brief) ∨
      handle = p.handles.next ∧ q.tlsPages.pages.length = p.tlsPages.pages.length + 1 := by
  obtain ⟨page, step⟩ := getTlsSlot_storage packed
  have mem := (step.evolves.trans exit.evolves).bound_of_new before now
  rw [threadEvents, List.append_nil, boundHandles_append] at mem
  rcases List.mem_append.mp mem with early | late
  · rw [exit.tlsPages]
    exact .inr (step.of_bound early)
  · exact .inl late

theorem ThreadExit.of_slotless (exit : ThreadExit p brief answer q) {fault : Fault}
    (failed : (getTlsSlot p).outcome = .error fault) :
    answer = .error fault ∧ q = (getTlsSlot p).state := by
  cases exit with
  | slotless slot =>
    cases failed.symm.trans slot
    exact ⟨rfl, rfl⟩
  | handleless slot used => cases failed.symm.trans slot
  | refused slot room ran => cases failed.symm.trans slot
  | made slot room ran => cases failed.symm.trans slot

theorem ThreadExit.of_handleless (exit : ThreadExit p brief answer q) {tls : VirtAddr}
    (taken : (getTlsSlot p).outcome = .ok tls) (used : UInt32.size ≤ p.threadHandle.toNat + 1) :
    answer = .error (.error .handlesExhausted) ∧ q = (getTlsSlot p).state := by
  cases exit with
  | slotless slot => cases taken.symm.trans slot
  | handleless slot used => exact ⟨rfl, rfl⟩
  | refused slot room ran => omega
  | made slot room ran => omega

theorem ThreadExit.of_asked (exit : ThreadExit p brief answer q) {tls : VirtAddr} {factory : F}
    {made : Except Fault ThreadObject} (taken : (getTlsSlot p).outcome = .ok tls)
    (room : p.threadHandle.toNat + 1 < UInt32.size)
    (ran : (p.factoryRun (brief p.threadHandle tls)).outcome = .ok (made, factory)) :
    answer = made.map (p.threadHandle, ·) ∧ q.factory = factory ∧
      q.handles.next = (p.factoryRun (brief p.threadHandle tls)).state.next := by
  cases exit with
  | slotless slot => cases taken.symm.trans slot
  | handleless slot used => omega
  | refused slot room answered =>
    cases taken.symm.trans slot
    cases ran.symm.trans answered
    exact ⟨rfl, rfl, rfl⟩
  | made slot room answered =>
    cases taken.symm.trans slot
    cases ran.symm.trans answered
    exact ⟨rfl, rfl, rfl⟩

theorem threadHandle_lt_factoryRun (room : p.threadHandle.toNat + 1 < UInt32.size)
    (params : ThreadParams) : p.threadHandle.toNat < (p.factoryRun params).state.next.toNat := by
  have passed : (getTlsSlot p).state.handles.advance.next.toNat = p.threadHandle.toNat + 1 :=
    toNat_next_advance room
  have up := (TableProgram.evolves_run (ThreadFactory.create p.factory params)
    (getTlsSlot p).state.handles.advance).up
  rw [passed] at up
  exact up

/-- Without a thread nothing is bound to the handle that it was to have. -/
theorem ThreadExit.unbound {fault : Fault} (exit : ThreadExit p brief (.error fault) q)
    (packed : p.tlsPages.Packed count) (issued : p.handles.Issued) :
    q.handles.bindings.get? p.threadHandle = none := by
  obtain ⟨page, step⟩ := getTlsSlot_storage packed
  have absent : (getTlsSlot p).state.handles.bindings.get? p.threadHandle = none := by
    by_contra bound
    exact Nat.lt_irrefl _ (step.evolves.issued issued p.threadHandle bound)
  cases exit with
  | slotless slot => exact absent
  | handleless slot used => exact absent
  | refused slot room ran =>
    have passed : p.threadHandle.toNat < (getTlsSlot p).state.handles.advance.next.toNat := by
      rw [toNat_next_advance room]
      exact Nat.lt_succ_self _
    exact (TableProgram.evolves_run _ _).unbound passed absent

end Exits

theorem briefs_of_run [ThreadFactory F] {p : GuestProcess M A (Briefed F)} {params : ThreadParams}
    {answer : Except Fault ThreadObject} {factory : Briefed F}
    (ran : (p.factoryRun params).outcome = .ok (answer, factory)) :
    factory.briefs = p.factory.briefs ++ [params] := by
  obtain ⟨value, log, own⟩ := TableProgram.exists_run_eq
    (ThreadFactory.create p.factory.factory params) (getTlsSlot p).state.handles.advance
  change ((TableProgram.map _ (ThreadFactory.create p.factory.factory params)).run _).outcome = _
    at ran
  rw [TableProgram.run_map, own] at ran
  cases ran
  rfl

end GuestProcess

namespace ProcessRun

open GuestProcess

variable {M A F : Type} [MemoryChannel M] [RegionAllocator A] [ThreadFactory F]

/-- What is so after a thread was made with this handle and this slot. -/
structure ThreadMade (s : ProcessRun M A (Briefed F)) (brief : Handle → VirtAddr → ThreadParams)
    (q : GuestProcess M A (Briefed F)) (handle : Handle) (made : ThreadObject) (tls : VirtAddr) :
    Prop where
  slot : (getTlsSlot s.process).outcome = .ok tls
  briefed : q.factory.briefs = s.process.factory.briefs ++ [brief handle tls]
  handleNew : ¬ s.HandedOut handle
  slotNew : Placing A → tls ∉ s.slots
  object : q.handles.getObject handle = .ok made.toObject
  thread : q.thread? made.thread.tid = some made
  mainThread : q.mainThread = s.process.mainThread
  size : q.handles.size + deletions (s.process.factoryEvents brief) +
      s.process.tlsPages.pages.length =
    s.process.handles.size + 1 + q.tlsPages.pages.length +
      creations (s.process.factoryEvents brief)

/-- What is so after a thread could not be made. -/
structure NothingMade (s : ProcessRun M A (Briefed F)) (brief : Handle → VirtAddr → ThreadParams)
    (q : GuestProcess M A (Briefed F)) : Prop where
  threads : q.threads = s.process.threads
  mainThread : q.mainThread = s.process.mainThread
  kept : ∀ handle, s.process.handles.bindings.get? handle ≠ none →
    .deleted handle ∉ s.process.factoryEvents brief →
      q.handles.bindings.get? handle = s.process.handles.bindings.get? handle
  /-- A handle that is bound now is that of a page, or the factory has bound it. -/
  added : ∀ handle, s.process.handles.bindings.get? handle = none →
    q.handles.bindings.get? handle ≠ none →
      handle ∈ boundHandles (s.process.factoryEvents brief) ∨
        handle = s.process.handles.next ∧
          q.tlsPages.pages.length = s.process.tlsPages.pages.length + 1
  size : q.handles.size + deletions (s.process.factoryEvents brief) +
      s.process.tlsPages.pages.length =
    s.process.handles.size + q.tlsPages.pages.length + creations (s.process.factoryEvents brief)

structure AllOrNothing (s : ProcessRun M A (Briefed F))
    (brief : Handle → VirtAddr → ThreadParams)
    (e : Effect (GuestProcess M A (Briefed F)) (Handle × ThreadObject)) : Prop where
  all : ∀ handle made, e.outcome = .ok (handle, made) →
    ∃ tls, ThreadMade s brief e.state handle made tls
  nothing : ∀ fault, e.outcome = .error fault → NothingMade s brief e.state
  /-- Looking for a slot has bound the memory of a page at most. -/
  storage : ∃ events, StorageStep s.process.tlsPages s.process.handles events
    (getTlsSlot s.process).state.tlsPages (getTlsSlot s.process).state.handles
  slotless : ∀ fault, (getTlsSlot s.process).outcome = .error fault →
    e.outcome = .error fault ∧ e.state = (getTlsSlot s.process).state ∧
      e.state.factory = s.process.factory ∧ ∀ cause, fault = .error cause →
        e.state = { s.process with allocator := e.state.allocator }
  handleless : ∀ tls, (getTlsSlot s.process).outcome = .ok tls →
    UInt32.size ≤ s.process.threadHandle.toNat + 1 →
      e.outcome = .error (.error .handlesExhausted) ∧ e.state = (getTlsSlot s.process).state ∧
        e.state.factory = s.process.factory
  /-- The factory decides about the rest; if it refuses, the slot and the handle are lost. -/
  asked : ∀ tls answer factory, (getTlsSlot s.process).outcome = .ok tls →
    s.process.threadHandle.toNat + 1 < UInt32.size →
      (s.process.factoryRun (brief s.process.threadHandle tls)).outcome = .ok (answer, factory) →
        e.outcome = answer.map (s.process.threadHandle, ·) ∧ e.state.factory = factory ∧
          factory.briefs = s.process.factory.briefs ++ [brief s.process.threadHandle tls] ∧
          e.state.tlsPages = (getTlsSlot s.process).state.tlsPages ∧
          s.process.threadHandle.toNat < e.state.counter ∧
          ∀ fault, answer = .error fault →
            e.state.handles.bindings.get? s.process.threadHandle = none

section Proof
variable {config : ProcessConfig} {s : ProcessRun M A (Briefed F)}
variable {brief : Handle → VirtAddr → ThreadParams} {q : GuestProcess M A (Briefed F)}

theorem Reachable.threadMade (h : Reachable config s) {handle : Handle} {made : ThreadObject}
    (exit : ThreadExit s.process brief (.ok (handle, made)) q) :
    ∃ tls, ThreadMade s brief q handle made tls := by
  obtain ⟨count, kept⟩ := h.packed
  obtain ⟨page, step⟩ := getTlsSlot_storage kept.packed
  have size := exit.size kept.packed h.issued
  cases exit with
  | @made tls _ factory slot room ran =>
    refine ⟨tls, slot, briefs_of_run ran, ?_, fun placing => h.slot_new placing slot, ?_, ?_, rfl,
      size⟩
    · rw [h.handedOut_iff]
      rintro ⟨_, high⟩
      exact absurd step.evolves.up (Nat.not_le.mpr high)
    · apply (getObject_eq_ok_iff ..).mpr
      rw [bind_apply, FiniteMap.get?_insert, if_pos rfl]
      rfl
    · exact (FiniteMap.get?_insert ..).trans (if_pos rfl)

theorem Reachable.nothingMade (h : Reachable config s) {fault : Fault}
    (exit : ThreadExit s.process brief (.error fault) q) : NothingMade s brief q := by
  obtain ⟨count, kept⟩ := h.packed
  refine ⟨?_, exit.mainThread, fun handle bound => exit.kept kept.packed (h.issued handle bound),
    fun handle before now => exit.added kept.packed before now,
    exit.size kept.packed h.issued⟩
  cases exit <;> rfl

/-- Whatever the allocator and the factory do, a thread is made as a whole or not at all. -/
theorem Reachable.all_or_nothing (h : Reachable config s) (entryPoint : VirtAddr)
    (entryArgument : UInt64) (stackTop : VirtAddr) (priority : Priority) :
    AllOrNothing s (fun handle tls => ⟨s.process.index, handle, entryPoint, entryArgument, stackTop,
        tls, priority⟩)
      (createThread entryPoint entryArgument stackTop priority s.process) := by
  have exit := createThread_exit entryPoint entryArgument stackTop priority s.process
  generalize (fun handle tls => (⟨s.process.index, handle, entryPoint, entryArgument, stackTop,
    tls, priority⟩ : ThreadParams)) = brief at exit ⊢
  generalize createThread entryPoint entryArgument stackTop priority s.process = e at exit ⊢
  obtain ⟨outcome, q, log⟩ := e
  obtain ⟨count, kept⟩ := h.packed
  have storage := getTlsSlot_storage kept.packed
  refine ⟨?_, ?_, storage, ?_, ?_, ?_⟩
  · rintro handle made rfl
    exact h.threadMade exit
  · rintro fault rfl
    exact h.nothingMade exit
  · intro fault failed
    obtain ⟨rfl, rfl⟩ := exit.of_slotless failed
    refine ⟨rfl, rfl, rfl, ?_⟩
    rintro cause rfl
    rcases slotRefusal_of_failed kept.packed failed with
      overflow | ⟨requested, reason, allocator, refusal⟩
    · cases overflow
    · change (getTlsSlot s.process).state =
        { s.process with allocator := (getTlsSlot s.process).state.allocator }
      rw [getTlsSlot_of_refusal kept.packed refusal]
  · intro tls taken used
    obtain ⟨rfl, rfl⟩ := exit.of_handleless taken used
    exact ⟨rfl, rfl, rfl⟩
  · intro tls answer factory taken room ran
    obtain ⟨rfl, rfl, next⟩ := exit.of_asked taken room ran
    refine ⟨rfl, rfl, briefs_of_run ran, exit.tlsPages, ?_, ?_⟩
    · change s.process.threadHandle.toNat < q.handles.next.toNat
      rw [next]
      exact threadHandle_lt_factoryRun room _
    · rintro fault rfl
      exact exit.unbound kept.packed h.issued

end Proof

/-- The factory binds an event each time. It refuses the first thread, whose slot and handle are lost
with a new page behind them, and makes the second. -/
theorem all_or_nothing_after_refusal :
    ∃ s : ProcessRun Window ScriptedAllocator (Briefed ScriptedFactory),
      s.slots = [0x06000200] ∧ s.process.handles.size = 2 ∧ s.process.threads.size = 0 ∧
      (createThread 0x1000 7 0x2000 5 s.process).outcome.toOption.map
        (fun made => (made.1, made.2.thread.tls)) = some (0xD003, 0x06000400) ∧
      (createThread 0x1000 7 0x2000 5 s.process).state.handles.size = 4 ∧
      AllOrNothing s (fun handle tls => ⟨s.process.index, handle, 0x1000, 7, 0x2000, tls, 5⟩)
        (createThread 0x1000 7 0x2000 5 s.process) := by
  let refusing : ScriptedFactory := ⟨{ event := some 1, refusal := some .handlesExhausted }, 1000, []⟩
  let working : ScriptedFactory := ⟨{ event := some 2 }, 1000, []⟩
  have start : Reachable {} _ :=
    .start 0 (Window.new 0x1000 0x1000) ScriptedAllocator.new (⟨refusing, []⟩ : Briefed _)
  have refused := start.call (.createThread 0x1000 7 0x2000 5)
  have working := refused.call (.replace ScriptedAllocator.new ⟨working, []⟩)
  exact ⟨_, by decide, by decide, by decide, by decide, by decide, working.all_or_nothing ..⟩

end ProcessRun

end GuestKernel
