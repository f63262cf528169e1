import Mathlib
import GuestKernel.Proofs.HandleTable.Evolution
import GuestKernel.Proofs.Process.Initialization

/-!
# The stages of the creation of a thread

A thread is made in four stages: it gets a slot of thread-local storage, it gets a handle, the
factory makes it, and it is bound and indexed. Each of the first three may fail, and `ThreadExit`
lists the ends with all that was done until then. Whatever a call of a process does, its handle
table evolves, so the handles that are bound are among those that were given out.
-/

set_option autoImplicit false

namespace GuestKernel

open TlsPageList HandleTable

theorem HandleTable.evolves_extended {table : HandleTable} {binding : Binding}
    (room : table.next.toNat + 1 < UInt32.size) :
    table.Evolves [.created table.next binding] (table.extended binding) :=
  (TableChange.created binding room).evolves

/-- A slot was looked for: at most one page was mapped and bound, and this is all that became of the
handles. -/
inductive StorageStep (list : TlsPageList) (table : HandleTable) :
    List TableEvent → TlsPageList → HandleTable → Prop where
  | kept {more : TlsPageList} (pages : more.pages.length = list.pages.length) :
      StorageStep list table [] more table
  | mapped {more : TlsPageList} (memory : MemoryObject)
      (pages : more.pages.length = list.pages.length + 1)
      (room : table.next.toNat + 1 < UInt32.size) :
      StorageStep list table [.created table.next (.ofMemory memory)] more
        (table.extended (.ofMemory memory))

namespace StorageStep

variable {list more : TlsPageList} {table after : HandleTable} {events : List TableEvent}

theorem evolves (h : StorageStep list table events more after) : table.Evolves events after := by
  cases h with
  | kept pages => exact .refl table
  | mapped memory pages room => exact evolves_extended room

theorem creations (h : StorageStep list table events more after) :
    more.pages.length = list.pages.length + GuestKernel.creations events := by
  cases h with
  | kept pages => exact pages
  | mapped memory pages room => exact pages

theorem deletions (h : StorageStep list table events more after) :
    GuestKernel.deletions events = 0 := by
  cases h <;> rfl

theorem not_deleted (h : StorageStep list table events more after) (handle : Handle) :
    .deleted handle ∉ events := by
  intro mem
  cases h with
  | kept pages => cases mem
  | mapped memory pages room => cases List.mem_singleton.mp mem

theorem of_bound (h : StorageStep list table events more after) {handle : Handle}
    (bound : handle ∈ boundHandles events) :
    handle = table.next ∧ more.pages.length = list.pages.length + 1 := by
  cases h with
  | kept pages => cases bound
  | mapped memory pages room => exact ⟨List.mem_singleton.mp bound, pages⟩

end StorageStep

section Storage
variable {A : Type} [RegionAllocator A] {layout : GuestLayout} {list : TlsPageList} {count : Nat}
variable {t : HandleTable × A} {state : TlsPageList × HandleTable × A}

theorem TlsPageList.GrowExit.storage {outcome : Except Fault TlsPage}
    (exit : GrowExit (GuestProcess.mapTlsPage layout) list t outcome state) :
    ∃ events, StorageStep list t.1 events state.1 state.2.1 := by
  cases exit with
  | unasked high => exact ⟨[], .kept rfl⟩
  | @unmapped requested fault after log next asked =>
    have page := GuestProcess.mapTlsPage_exit layout requested t
    rw [asked] at page
    have same : after.1 = t.1 := page.handles_of_error
    dsimp only
    rw [same]
    exact ⟨[], .kept rfl⟩
  | @mapped requested address after log next asked =>
    have page := GuestProcess.mapTlsPage_exit layout requested t
    rw [asked] at page
    obtain ⟨memory, allocator, grant, _, rfl⟩ := page.grant_of_ok
    exact ⟨_, .mapped memory List.length_append grant.room⟩

theorem StorageStep.filledTo {more : TlsPageList} {table after : HandleTable}
    {events : List TableEvent} (h : StorageStep list table events more after) (count : Nat) :
    StorageStep list table events (more.filledTo count) after := by
  have same : (more.filledTo count).pages.length = more.pages.length := by
    rw [← length_addresses, addresses_filledTo, length_addresses]
  cases h with
  | kept pages => exact .kept (same.trans pages)
  | mapped memory pages room => exact .mapped memory (same.trans pages) room

theorem TlsPageList.SlotExit.storage {outcome : Except Fault VirtAddr}
    (exit : SlotExit (GuestProcess.mapTlsPage layout) list count t outcome state) :
    ∃ events, StorageStep list t.1 events state.1 state.2.1 := by
  cases exit with
  | taken room found => exact ⟨[], (StorageStep.kept rfl).filledTo _⟩
  | tooHigh room high => exact ⟨[], .kept rfl⟩
  | ungrown full grown => exact grown.storage
  | opened full grow found =>
    obtain ⟨events, step⟩ := grow.storage
    exact ⟨events, step.filledTo _⟩
  | openedTooHigh full grow high => exact grow.storage

end Storage

namespace GuestProcess

variable {M A F : Type} [RegionAllocator A] {p q : GuestProcess M A F} {count : Nat}

theorem getTlsSlot_storage (packed : p.tlsPages.Packed count) :
    ∃ events, StorageStep p.tlsPages p.handles events (getTlsSlot p).state.tlsPages
      (getTlsSlot p).state.handles :=
  (getSlot_exit (mapTlsPage p.config.layout) packed (p.handles, p.allocator)).storage

section Memory
variable {answer : Except Fault Unit}

theorem HeapExit.evolves (exit : HeapExit p answer q) :
    ∃ events, p.handles.Evolves events q.handles := by
  cases exit with
  | present mapped => exact ⟨[], .refl _⟩
  | refused => exact ⟨[], .refl _⟩
  | mapped _ grant => exact ⟨_, evolves_extended grant.room⟩

theorem FirstPageExit.evolves (exit : FirstPageExit p answer q) :
    ∃ events, p.handles.Evolves events q.handles := by
  cases exit with
  | present | undecided | refused => exact ⟨[], .refl _⟩
  | mapped _ grant => exact ⟨_, evolves_extended grant.room⟩

theorem MemoryExit.evolves (exit : MemoryExit p answer q) :
    ∃ events, p.handles.Evolves events q.handles := by
  cases exit with
  | atHeap heap => exact heap.evolves
  | atPage heap page =>
    obtain ⟨first, early⟩ := heap.evolves
    obtain ⟨second, late⟩ := page.evolves
    exact ⟨first ++ second, early.trans late⟩

end Memory

section Threads
variable [ThreadFactory F]

/-- The handle that a thread gets which is created now, unless there is none left. -/
def threadHandle (p : GuestProcess M A F) : Handle := (getTlsSlot p).state.handles.next

/-- What the factory does for a thread that has its slot and its handle. -/
def factoryRun (p : GuestProcess M A F) (params : ThreadParams) :
    Effect HandleTable (Except Fault ThreadObject × F) :=
  (ThreadFactory.create p.factory params).run (getTlsSlot p).state.handles.advance

/-- The ends of the creation of a thread. -/
inductive ThreadExit (p : GuestProcess M A F) (brief : Handle → VirtAddr → ThreadParams) :
    Except Fault (Handle × ThreadObject) → GuestProcess M A F → Prop where
  | slotless {fault : Fault} (slot : (getTlsSlot p).outcome = .error fault) :
      ThreadExit p brief (.error fault) (getTlsSlot p).state
  | handleless {tls : VirtAddr} (slot : (getTlsSlot p).outcome = .ok tls)
      (used : UInt32.size ≤ p.threadHandle.toNat + 1) :
      ThreadExit p brief (.error (.error .handlesExhausted)) (getTlsSlot p).state
  | refused {tls : VirtAddr} {fault : Fault} {factory : F}
      (slot : (getTlsSlot p).outcome = .ok tls) (room : p.threadHandle.toNat + 1 < UInt32.size)
      (answer : (p.factoryRun (brief p.threadHandle tls)).outcome = .ok (.error fault, factory)) :
      ThreadExit p brief (.error fault)
        { (getTlsSlot p).state with
          handles := (p.factoryRun (brief p.threadHandle tls)).state
          factory }
  | made {tls : VirtAddr} {thread : ThreadObject} {factory : F}
      (slot : (getTlsSlot p).outcome = .ok tls) (room : p.threadHandle.toNat + 1 < UInt32.size)
      (answer : (p.factoryRun (brief p.threadHandle tls)).outcome = .ok (.ok thread, factory)) :
      ThreadExit p brief (.ok (p.threadHandle, thread))
        { (getTlsSlot p).state with
          handles := (HandleTable.bind p.threadHandle (.ofObject thread.toObject)
            (p.factoryRun (brief p.threadHandle tls)).state).state
          factory
          threads := p.threads.insert thread.thread.tid thread }

omit [RegionAllocator A] in
theorem makeThread_of_run {params : ThreadParams} {table after : HandleTable} {factory later : F}
    {answer : Except Fault ThreadObject} {log : List LogRecord}
    (ran : (ThreadFactory.create factory params).run table = ⟨.ok (answer, later), after, log⟩) :
    ∃ log', makeThread params (table, factory) = ⟨answer, (after, later), log'⟩ := by
  refine ⟨(makeThread params (table, factory)).log, ?_⟩
  simp only [makeThread, Action.bind_apply, Action.current_apply, Action.andThen_ok,
    Action.onFirst, Action.onSecond, Action.onPart_apply, ran, Action.update_apply,
    Action.done_apply]

variable {entryPoint : VirtAddr} {entryArgument : UInt64} {stackTop : VirtAddr}
variable {priority : Priority} {tls : VirtAddr} {handle : Handle}

omit [RegionAllocator A] in
/-- A thread that has its slot and its handle is bound and indexed if the factory makes it. -/
theorem finishThread_of_run {after : HandleTable} {factory : F} {log : List LogRecord}
    {answer : Except Fault ThreadObject}
    (ran : (ThreadFactory.create q.factory
      ⟨q.index, handle, entryPoint, entryArgument, stackTop, tls, priority⟩).run q.handles =
        ⟨.ok (answer, factory), after, log⟩) :
    ∃ log', finishThread entryPoint entryArgument stackTop priority tls handle q =
      match answer with
      | .error fault => ⟨.error fault, { q with handles := after, factory }, log'⟩
      | .ok thread => ⟨.ok (handle, thread), { q with
          handles := (HandleTable.bind handle (.ofObject thread.toObject) after).state,
          factory, threads := q.threads.insert thread.thread.tid thread }, log'⟩ := by
  obtain ⟨log', made⟩ := makeThread_of_run ran
  refine ⟨(finishThread entryPoint entryArgument stackTop priority tls handle q).log, ?_⟩
  simp only [finishThread, Action.bind_apply, Action.current_apply, Action.andThen_ok, onFactory,
    Action.onPart_apply, made]
  cases answer <;> rfl

theorem createThread_exit (entryPoint : VirtAddr) (entryArgument : UInt64) (stackTop : VirtAddr)
    (priority : Priority) (p : GuestProcess M A F) :
    ThreadExit p (fun handle tls =>
        { process := p.index, handle, entryPoint, entryArgument, stackTop, tls, priority })
      (createThread entryPoint entryArgument stackTop priority p).outcome
      (createThread entryPoint entryArgument stackTop priority p).state := by
  rw [createThread_eq, Action.bind_apply]
  rcases taken : getTlsSlot p with ⟨outcome, q, log⟩
  have slot := congrArg Effect.outcome taken
  have after := congrArg Effect.state taken
  dsimp only at slot after
  subst after
  cases outcome with
  | error fault => exact .slotless slot
  | ok tls =>
    rw [Action.andThen_ok, Action.bind_apply, onHandles, Action.onPart_apply]
    rcases (getTlsSlot p).state.handles.reserve_cases with ⟨room, given⟩ | ⟨used, full⟩
    · obtain ⟨⟨answer, factory⟩, log', ran⟩ := TableProgram.exists_run_eq
        (ThreadFactory.create p.factory ⟨p.index, p.threadHandle, entryPoint, entryArgument,
          stackTop, tls, priority⟩) (getTlsSlot p).state.handles.advance
      have answered := congrArg Effect.outcome ran
      rw [given, Action.andThen_ok]
      obtain ⟨log'', ended⟩ := finishThread_of_run
        (q := { (getTlsSlot p).state with handles := (getTlsSlot p).state.handles.advance }) ran
      change ThreadExit p _ (finishThread entryPoint entryArgument stackTop priority tls
        p.threadHandle _).outcome (finishThread entryPoint entryArgument stackTop priority tls
        p.threadHandle _).state
      rw [ended]
      cases answer with
      | error fault => exact .refused slot room answered
      | ok thread => exact .made slot room answered
    · rw [full]
      exact .handleless slot used

/-- What the factory does to the bindings while it makes a thread, if it is asked to. -/
def factoryEvents (p : GuestProcess M A F) (brief : Handle → VirtAddr → ThreadParams) :
    List TableEvent :=
  match (getTlsSlot p).outcome with
  | .ok tls =>
    if p.threadHandle.toNat + 1 < UInt32.size then
      (ThreadFactory.create p.factory (brief p.threadHandle tls)).events
        (getTlsSlot p).state.handles.advance
    else []
  | .error _ => []

/-- The binding of the thread, if one was made. -/
def threadEvents : Except Fault (Handle × ThreadObject) → List TableEvent
  | .ok (handle, made) => [.created handle (.ofObject made.toObject)]
  | .error _ => []

variable {brief : Handle → VirtAddr → ThreadParams}

theorem factoryEvents_of_slotless {fault : Fault} (slot : (getTlsSlot p).outcome = .error fault) :
    p.factoryEvents brief = [] := by
  rw [factoryEvents, slot]

theorem factoryEvents_of_handleless (used : UInt32.size ≤ p.threadHandle.toNat + 1) :
    p.factoryEvents brief = [] := by
  unfold factoryEvents
  split
  · exact if_neg (Nat.not_lt.mpr used)
  · rfl

theorem factoryEvents_of_asked {tls : VirtAddr} (slot : (getTlsSlot p).outcome = .ok tls)
    (room : p.threadHandle.toNat + 1 < UInt32.size) : p.factoryEvents brief =
      (ThreadFactory.create p.factory (brief p.threadHandle tls)).events
        (getTlsSlot p).state.handles.advance := by
  rw [factoryEvents, slot]
  exact if_pos room

/-- After the slot was looked for, the factory acts on the bindings, and then the thread is bound. -/
theorem ThreadExit.evolves {answer : Except Fault (Handle × ThreadObject)}
    (exit : ThreadExit p brief answer q) :
    (getTlsSlot p).state.handles.Evolves (p.factoryEvents brief ++ threadEvents answer)
      q.handles := by
  cases exit with
  | slotless slot =>
    rw [factoryEvents_of_slotless slot]
    exact .refl _
  | handleless slot used =>
    rw [factoryEvents_of_handleless used]
    exact .refl _
  | @refused tls _ _ slot room answer =>
    rw [factoryEvents_of_asked slot room, threadEvents, List.append_nil]
    exact (evolves_advance room).trans (TableProgram.evolves_run _ _)
  | @made tls thread _ slot room answer =>
    rw [factoryEvents_of_asked slot room]
    exact (TableProgram.evolves_run _ _).finishes room
      (.created p.threadHandle (.ofObject thread.toObject)) rfl fun _ _ => rfl

theorem handles_createMainThread (p : GuestProcess M A F) :
    (createMainThread entryPoint stackTop p).state.handles =
      (createThread entryPoint 0 stackTop p.config.defaultPriority p).state.handles := by
  have rest : ∀ made : Handle × ThreadObject,
      Action.Keeps (GuestProcess.handles (M := M) (A := A) (F := F)) do
        .update fun p => { p with mainThread := some made.2.thread.tid }
        return made :=
    fun made => Action.keeps_bind (Action.keeps_update fun _ => rfl) fun _ => Action.keeps_pure made
  exact Action.view_bind rest p

end Threads

end GuestProcess

open GuestProcess

variable {M A F : Type} [RegionAllocator A] [ThreadFactory F] [MemoryChannel M]

theorem ProcessCall.evolves {p : GuestProcess M A F} {count : Nat}
    (packed : p.tlsPages.Packed count) (call : ProcessCall M A F) :
    ∃ events, p.handles.Evolves events (call.perform p).state.handles := by
  have thread : ∀ {entryPoint entryArgument stackTop priority}, ∃ events, p.handles.Evolves events
      (GuestProcess.createThread entryPoint entryArgument stackTop priority p).state.handles := by
    intro entryPoint entryArgument stackTop priority
    obtain ⟨page, step⟩ := getTlsSlot_storage packed
    exact ⟨_, step.evolves.trans (createThread_exit _ _ _ _ p).evolves⟩
  cases elsewhere : call.isElsewhere with
  | true =>
    have same := congrArg (fun core => core.2.1) (keeps_core elsewhere p)
    change (call.perform p).state.handles = p.handles at same
    rw [same]
    exact ⟨[], .refl _⟩
  | false =>
    cases call with
    | initializeMemory => exact (initializeMemory_exit p).evolves
    | getTlsSlot =>
      obtain ⟨page, step⟩ := getTlsSlot_storage packed
      exact ⟨page, step.evolves⟩
    | table call => exact ⟨_, (call.change p.handles).evolves⟩
    | createThread => exact thread
    | createMainThread =>
      change ∃ events, p.handles.Evolves events (GuestProcess.createMainThread _ _ p).state.handles
      rw [handles_createMainThread]
      exact thread
    | _ => cases elsewhere

/-- No handle is bound that the process did not give out. -/
theorem ProcessRun.Reachable.issued {config : ProcessConfig} {s : ProcessRun M A F}
    (h : Reachable config s) : s.process.handles.Issued := by
  induction h with
  | start => exact issued_new _
  | call reachable call ih =>
    obtain ⟨count, kept⟩ := reachable.packed
    obtain ⟨events, evolves⟩ := call.evolves kept.packed
    exact evolves.issued ih

end GuestKernel
