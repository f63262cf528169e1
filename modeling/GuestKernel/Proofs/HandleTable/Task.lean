import Mathlib
import GuestKernel.GuestProcess.Threads

/-!
# Calls of a handle table, cut where others can come in between

A `TableTask` is a call that is under way: what it does to the table next, and how it goes on with
the answer. `Built` are the tasks that the operations of the table are made of: a handle is given
out, something is built for it by any such task, and what was built is bound to the handle. Run
alone, the tasks are the operations of the table and the part of the creation of a thread that
works on it, as `run_ofCall` and `handles_createThread` say.
-/

set_option autoImplicit false

namespace GuestKernel

/-- A call of a handle table that is under way. -/
inductive TableTask (α : Type) where
  | done (outcome : Except Fault α)
  | reserve (next : Except Fault Handle → TableTask α)
  | bind (handle : Handle) (binding : Binding) (next : TableTask α)
  | delete (handle : Handle) (next : Option KernelObject → TableTask α)
  | look (next : HandleTable → TableTask α)

namespace TableTask

variable {α β γ : Type}

/-- Carries a task out with nobody in between. -/
def run : TableTask α → Action HandleTable α
  | done outcome => .done outcome
  | reserve next => do
    let answer ← .attempt HandleTable.reserve
    run (next answer)
  | bind handle binding next => do
    HandleTable.bind handle binding
    run next
  | delete handle next => do
    let object ← HandleTable.deleteHandle handle
    run (next object)
  | look next => do
    let table ← .current
    run (next table)

/-- Lets `next` go on with the outcome of a task. -/
def andThen : TableTask α → (Except Fault α → TableTask β) → TableTask β
  | done outcome, next => next outcome
  | reserve more, next => reserve fun answer => (more answer).andThen next
  | bind handle binding more, next => bind handle binding (more.andThen next)
  | delete handle more, next => delete handle fun object => (more object).andThen next
  | look more, next => look fun table => (more table).andThen next

/-- Gives a handle out, builds something that may know it, and binds that to the handle. If it
cannot be built its handle is lost. -/
def create (build : Handle → TableTask γ) (binding : γ → Binding)
    (next : Except Fault (Handle × γ) → TableTask α) : TableTask α :=
  reserve fun
    | .ok handle => (build handle).andThen fun
      | .ok built => bind handle (binding built) (next (.ok (handle, built)))
      | .error fault => next (.error fault)
    | .error fault => next (.error fault)

def ofCall : (call : TableCall) → TableTask call.Answer
  | .newHandle build => create (fun handle => done ((build handle).mapError .error)) .ofObject done
  | .insertItem object =>
    create (fun _ => done (.ok object)) .ofObject fun made => done (made.map Prod.fst)
  | .insertMemory memory =>
    create (fun _ => done (.ok memory)) .ofMemory fun made => done (made.map Prod.fst)
  | .duplicateHandle handle => look fun table =>
    match table.getBinding handle with
    | .ok binding => create (fun _ => done (.ok binding)) id fun made => done (made.map Prod.fst)
    | .error cause => done (.error (.error cause))
  | .deleteHandle handle => delete handle fun object => done (.ok object)
  | .getObject handle => look fun table => done ((table.getObject handle).mapError .error)
  | .getHandle expected handle =>
    look fun table => done ((table.getHandle expected handle).mapError .error)
  | .memoryObject address => look fun table => done (.ok (table.memoryObject address))

def ofProgram : TableProgram α → TableTask α
  | .done value => done (.ok value)
  | .call call next => (ofCall call).andThen fun answer => ofProgram (next answer)

def makeThread {F : Type} [ThreadFactory F] (factory : F) (params : ThreadParams) :
    TableTask ThreadObject :=
  (ofProgram (ThreadFactory.create factory params)).andThen fun
    | .ok (answer, _) => done answer
    | .error fault => done (.error fault)

/-- The task of the creation of a thread, whose factory works on the table meanwhile. -/
def createThread {F : Type} [ThreadFactory F] (factory : F) (params : Handle → ThreadParams) :
    TableTask (Handle × ThreadObject) :=
  create (fun handle => makeThread factory (params handle)) (fun made => .ofObject made.toObject)
    done

/-- The tasks of which operations of a table consist. -/
inductive Built : {α : Type} → TableTask α → Prop where
  | done {α : Type} (outcome : Except Fault α) : Built (done outcome)
  | create {α γ : Type} (build : Handle → TableTask γ) (binding : γ → Binding)
      (next : Except Fault (Handle × γ) → TableTask α) (builds : ∀ handle, Built (build handle))
      (goes : ∀ made, Built (next made)) : Built (create build binding next)
  | delete {α : Type} (handle : Handle) (next : Option KernelObject → TableTask α)
      (goes : ∀ object, Built (next object)) : Built (delete handle next)
  | look {α : Type} (next : HandleTable → TableTask α) (goes : ∀ table, Built (next table)) :
      Built (look next)

theorem andThen_assoc (t : TableTask α) (next : Except Fault α → TableTask β)
    (last : Except Fault β → TableTask γ) :
    (t.andThen next).andThen last = t.andThen fun answer => (next answer).andThen last := by
  induction t with
  | done => rfl
  | reserve more ih => exact congrArg reserve (funext ih)
  | bind handle binding more ih => exact congrArg (bind handle binding) ih
  | delete handle more ih => exact congrArg (delete handle) (funext ih)
  | look more ih => exact congrArg look (funext ih)

theorem create_andThen (build : Handle → TableTask γ) (binding : γ → Binding)
    (next : Except Fault (Handle × γ) → TableTask α) (last : Except Fault α → TableTask β) :
    (create build binding next).andThen last =
      create build binding fun made => (next made).andThen last := by
  apply congrArg reserve
  funext answer
  cases answer with
  | error fault => rfl
  | ok handle =>
    change ((build handle).andThen _).andThen last = _
    rw [andThen_assoc]
    apply congrArg (build handle).andThen
    funext built
    cases built <;> rfl

theorem Built.andThen {t : TableTask α} {next : Except Fault α → TableTask β} (h : Built t)
    (goes : ∀ answer, Built (next answer)) : Built (t.andThen next) := by
  induction h with
  | done outcome => exact goes outcome
  | create build binding more builds _ _ ih =>
    rw [create_andThen]
    exact .create build binding _ builds fun made => ih made goes
  | delete handle more _ ih => exact .delete handle _ fun object => ih object goes
  | look more _ ih => exact .look _ fun table => ih table goes

theorem built_ofCall (call : TableCall) : Built (ofCall call) := by
  cases call with
  | newHandle build => exact .create _ _ _ (fun _ => .done _) fun _ => .done _
  | insertItem object => exact .create _ _ _ (fun _ => .done _) fun _ => .done _
  | insertMemory memory => exact .create _ _ _ (fun _ => .done _) fun _ => .done _
  | duplicateHandle handle =>
    refine .look _ fun table => ?_
    cases table.getBinding handle with
    | ok binding => exact .create _ _ _ (fun _ => .done _) fun _ => .done _
    | error cause => exact .done _
  | deleteHandle handle => exact .delete _ _ fun _ => .done _
  | getObject handle => exact .look _ fun _ => .done _
  | getHandle expected handle => exact .look _ fun _ => .done _
  | memoryObject address => exact .look _ fun _ => .done _

theorem built_ofProgram (program : TableProgram α) : Built (ofProgram program) := by
  induction program with
  | done value => exact .done _
  | call call next ih => exact (built_ofCall call).andThen ih

theorem built_makeThread {F : Type} [ThreadFactory F] (factory : F) (params : ThreadParams) :
    Built (makeThread factory params) := by
  refine (built_ofProgram _).andThen fun answer => ?_
  cases answer with
  | ok made => exact .done _
  | error fault => exact .done _

theorem built_createThread {F : Type} [ThreadFactory F] (factory : F)
    (params : Handle → ThreadParams) : Built (createThread factory params) :=
  .create _ _ _ (fun handle => built_makeThread factory (params handle)) fun _ => .done _

/-- Deleting a binding always answers what was bound, and takes the binding away. -/
theorem deleteHandle_cases (handle : Handle) (table : HandleTable) :
    ∃ after log, HandleTable.deleteHandle handle table =
        ⟨.ok ((table.bindings.get? handle).map Binding.object), after, log⟩ ∧
      after.next = table.next ∧ ∀ other, after.bindings.get? other =
        if other = handle then none else table.bindings.get? other := by
  cases found : table.bindings.get? handle with
  | some binding =>
    refine ⟨{ table with bindings := table.bindings.erase handle },
      [.handleDeleted binding.object.type.kind handle], ?_, rfl, fun other => ?_⟩
    · simp [HandleTable.deleteHandle, found]
    · exact table.bindings.get?_erase handle other
  | none =>
    refine ⟨table, [.absentHandleDeleted handle], ?_, rfl, fun other => ?_⟩
    · simp [HandleTable.deleteHandle, found]
    · split
      · rename_i same
        rw [same, found]
      · rfl

section Run

theorem attempt_attempt_bind (a : Action HandleTable α) (next : Except Fault α →
    Action HandleTable β) (last : Except Fault β → Action HandleTable γ) :
    Action.attempt (Action.attempt a >>= next) >>= last =
      Action.attempt a >>= fun answer => Action.attempt (next answer) >>= last := by
  funext table
  simp

theorem run_andThen (t : TableTask α) (next : Except Fault α → TableTask β) :
    run (t.andThen next) = Action.attempt (run t) >>= fun answer => run (next answer) := by
  induction t with
  | done outcome =>
    funext table
    simp [run, andThen]
  | reserve more ih =>
    simp only [run, andThen, ih]
    exact (attempt_attempt_bind ..).symm
  | bind handle binding more ih =>
    funext table
    simp [run, andThen, ih, HandleTable.bind_apply]
  | delete handle more ih =>
    funext table
    obtain ⟨after, log, deleted, _⟩ := deleteHandle_cases handle table
    simp [run, andThen, ih, deleted]
  | look more ih =>
    funext table
    simp [run, andThen, ih]

/-- Run alone, a creation reserves, builds and binds. -/
theorem run_create {f : Handle × γ → α} (build : Handle → TableTask γ) (binding : γ → Binding)
    {next : Except Fault (Handle × γ) → TableTask α}
    (ends : ∀ made, next made = done (made.map f)) :
    run (create build binding next) = (do
      let handle ← HandleTable.reserve
      let built ← run (build handle)
      HandleTable.bind handle (binding built)
      return f (handle, built)) := by
  funext table
  simp only [create, run, Action.bind_apply, Action.attempt_apply, Action.andThen_ok]
  rcases HandleTable.reserve table with ⟨answer, after, log⟩
  cases answer with
  | error fault => simp [ends, run, Except.map]
  | ok handle =>
    simp only [run_andThen, Action.bind_apply, Action.attempt_apply, Action.andThen_ok]
    rcases run (build handle) after with ⟨made, later, log'⟩
    cases made <;> simp [ends, run, Except.map, HandleTable.bind_apply]

/-- Run alone, the task of a call is the call. -/
theorem run_ofCall (call : TableCall) : run (ofCall call) = call.perform := by
  cases call with
  | newHandle build => exact run_create _ _ fun made => by cases made <;> rfl
  | insertItem object =>
    exact run_create (fun _ => done (.ok object)) .ofObject fun made =>
      (rfl : done (made.map Prod.fst) = _)
  | insertMemory memory =>
    exact run_create (fun _ => done (.ok memory)) .ofMemory fun made =>
      (rfl : done (made.map Prod.fst) = _)
  | duplicateHandle handle =>
    funext table
    change run (match table.getBinding handle with
      | .ok binding => create (fun _ => done (.ok binding)) id fun made => done (made.map Prod.fst)
      | .error cause => done (.error (.error cause))) table =
        HandleTable.duplicateHandle handle table
    rw [HandleTable.duplicateHandle]
    cases found : table.getBinding handle with
    | error cause => simp [run, found, Except.mapError]
    | ok binding =>
      have created := run_create (fun _ => done (.ok binding)) id fun made =>
        (rfl : done (made.map Prod.fst) = _)
      simp only [created, run, id, Action.bind_apply, Action.current_apply, Action.andThen_ok,
        Action.done_apply, found, Except.mapError]
      rcases HandleTable.reserve table with ⟨answer, after, log⟩
      cases answer <;> simp [HandleTable.bind_apply]
  | deleteHandle handle =>
    funext table
    change run (delete handle fun object => done (.ok object)) table =
      HandleTable.deleteHandle handle table
    obtain ⟨after, log, deleted, _⟩ := deleteHandle_cases handle table
    simp [run, deleted]
  | getObject handle => rfl
  | getHandle expected handle => rfl
  | memoryObject address => rfl

theorem run_ofProgram (program : TableProgram α) : run (ofProgram program) = program.run := by
  induction program with
  | done value => rfl
  | call call next ih =>
    rw [ofProgram, run_andThen, run_ofCall, TableProgram.run]
    exact congrArg (Action.attempt call.perform >>= ·) (funext ih)

end Run

variable {F : Type} [ThreadFactory F]

theorem makeThread_eq (factory : F) (params : ThreadParams) (table : HandleTable) :
    (GuestKernel.makeThread params (table, factory)).outcome =
        (run (makeThread factory params) table).outcome ∧
      (GuestKernel.makeThread params (table, factory)).state.1 =
        (run (makeThread factory params) table).state := by
  rw [makeThread, run_andThen, run_ofProgram, GuestKernel.makeThread]
  simp only [Action.bind_apply, Action.current_apply, Action.andThen_ok, Action.onFirst,
    Action.onPart_apply, Action.attempt_apply]
  rcases (ThreadFactory.create factory params).run table with ⟨outcome, after, log⟩
  cases outcome with
  | error fault => exact ⟨rfl, rfl⟩
  | ok made =>
    obtain ⟨answer, later⟩ := made
    exact ⟨rfl, rfl⟩

/-- Once a thread has its slot of thread-local storage, its creation does to the table what the task
does. -/
theorem handles_createThread {M A : Type} [RegionAllocator A] (p q : GuestProcess M A F)
    (entryPoint : VirtAddr) (entryArgument : UInt64) (stackTop : VirtAddr) (priority : Priority)
    {tls : VirtAddr} {log : List LogRecord}
    (slot : GuestProcess.getTlsSlot p = ⟨.ok tls, q, log⟩) :
    (GuestProcess.createThread entryPoint entryArgument stackTop priority p).state.handles =
      (run (createThread q.factory fun handle =>
        { process := q.index, handle, entryPoint, entryArgument, stackTop, tls, priority })
          q.handles).state := by
  have ends : ∀ made : Except Fault (Handle × ThreadObject), done made = done (made.map id) :=
    fun made => by cases made <;> rfl
  rw [createThread, run_create _ _ ends]
  simp only [GuestProcess.createThread, Action.bind_apply, slot, Action.andThen_ok,
    GuestProcess.onHandles, GuestProcess.onFactory, Action.onPart_apply]
  rcases reserved : HandleTable.reserve q.handles with ⟨answer, after, log'⟩
  cases answer with
  | error fault => rfl
  | ok handle =>
    simp only [Action.andThen_ok, Action.bind_apply, Action.current_apply, Action.onPart_apply]
    obtain ⟨outcome, state⟩ := makeThread_eq q.factory
      { process := q.index, handle, entryPoint, entryArgument, stackTop, tls, priority } after
    rcases made : GuestKernel.makeThread
      { process := q.index, handle, entryPoint, entryArgument, stackTop, tls, priority }
      (after, q.factory) with ⟨answer, later, made_log⟩
    rcases task : run (makeThread q.factory
      { process := q.index, handle, entryPoint, entryArgument, stackTop, tls, priority })
      after with ⟨answer', later', task_log⟩
    rw [made, task] at outcome state
    subst outcome state
    cases answer <;> rfl

end TableTask

end GuestKernel
