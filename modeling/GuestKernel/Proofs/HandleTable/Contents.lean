import Mathlib
import GuestKernel.Proofs.HandleTable.Task

/-!
# What a history says that a handle table holds

A call of a handle table leaves an event if it made a binding or took one away, and which event that
is can be told from the call, its handle, and what was built for that, without the table. `contents`
reads a history of such events as a map from handles to bindings, knowing nothing of tables either.
`TableCall.change` lists what a call can do to a table, next to the event that it leaves.
-/

set_option autoImplicit false

namespace GuestKernel

/-- What became of the bindings of a table. -/
inductive TableEvent where
  | created (handle : Handle) (binding : Binding)
  /-- A second handle got the binding of a first one. -/
  | copied (source copy : Handle)
  | deleted (handle : Handle)
  deriving DecidableEq

namespace TableEvent

def bound? : TableEvent → Option Handle
  | created handle _ => some handle
  | copied _ copy => some copy
  | deleted _ => none

def apply (contents : Handle → Option Binding) : TableEvent → Handle → Option Binding
  | created handle binding => Function.update contents handle (some binding)
  | copied source copy => Function.update contents copy (contents source)
  | deleted handle => Function.update contents handle none

end TableEvent

open TableEvent

/-- What is bound after these events, if nothing was before. -/
def contents (events : List TableEvent) : Handle → Option Binding :=
  events.foldl apply fun _ => none

def boundHandles (events : List TableEvent) : List Handle := events.filterMap bound?

def creations (events : List TableEvent) : Nat := events.countP fun e => e.bound?.isSome

def deletions (events : List TableEvent) : Nat := events.countP fun e => e.bound?.isNone

section History
variable (events : List TableEvent) (event : TableEvent)

theorem contents_append_one : contents (events ++ [event]) = event.apply (contents events) := by
  rw [contents, List.foldl_append]
  rfl

theorem boundHandles_append_one :
    boundHandles (events ++ [event]) = boundHandles events ++ event.bound?.toList := by
  rw [boundHandles, List.filterMap_append]
  cases bound : event.bound? <;> simp [bound, boundHandles]

theorem creations_append_one :
    creations (events ++ [event]) = creations events + event.bound?.toList.length := by
  rw [creations, List.countP_append]
  cases bound : event.bound? <;> simp [bound, creations]

theorem deletions_append_one :
    deletions (events ++ [event]) + event.bound?.toList.length = deletions events + 1 := by
  rw [deletions, List.countP_append]
  cases bound : event.bound? <;> simp [bound, deletions]

/-- Only a handle that was bound once has a binding. -/
theorem mem_boundHandles {handle : Handle} (bound : contents events handle ≠ none) :
    handle ∈ boundHandles events := by
  induction events using List.reverseRecOn with
  | nil => exact absurd rfl bound
  | append_singleton events event ih =>
    rw [boundHandles_append_one, List.mem_append]
    rw [contents_append_one] at bound
    cases event with
    | created fresh binding =>
      by_cases same : handle = fresh
      · exact .inr (List.mem_singleton.mpr same)
      · rw [TableEvent.apply, Function.update_of_ne same] at bound
        exact .inl (ih bound)
    | copied source copy =>
      by_cases same : handle = copy
      · exact .inr (List.mem_singleton.mpr same)
      · rw [TableEvent.apply, Function.update_of_ne same] at bound
        exact .inl (ih bound)
    | deleted gone =>
      by_cases same : handle = gone
      · subst same
        exact absurd (Function.update_self ..) bound
      · rw [TableEvent.apply, Function.update_of_ne same] at bound
        exact .inl (ih bound)

end History

namespace TableCall

/-- What a call that ended so has done to the bindings. A handle for which an object was to be built
has the object that its builder makes for it, whichever one is answered. -/
def events : (call : TableCall) → Except Fault call.Answer → List TableEvent
  | newHandle build, .ok (handle, _) =>
    match build handle with
    | .ok object => [.created handle (.ofObject object)]
    | .error _ => []
  | insertItem object, .ok handle => [.created handle (.ofObject object)]
  | insertMemory memory, .ok handle => [.created handle (.ofMemory memory)]
  | duplicateHandle source, .ok copy => [.copied source copy]
  | deleteHandle handle, .ok (some _) => [.deleted handle]
  | _, _ => []

def isLookup : TableCall → Bool
  | getObject _ | getHandle _ _ | memoryObject _ => true
  | _ => false

/-- What a call binds the next handle to if there is one left. -/
def offer? (held : Handle → Option Binding) (next : Handle) : TableCall → Option Binding
  | newHandle build => (build next).toOption.map .ofObject
  | insertItem object => some (.ofObject object)
  | insertMemory memory => some (.ofMemory memory)
  | duplicateHandle source => held source
  | _ => none

end TableCall

def HandleTable.advance (table : HandleTable) : HandleTable := { table with next := table.next + 1 }

theorem HandleTable.toNat_next_advance {table : HandleTable}
    (room : table.next.toNat + 1 < UInt32.size) :
    table.advance.next.toNat = table.next.toNat + 1 := by
  change (table.next + 1).toNat = table.next.toNat + 1
  rw [UInt32.toNat_add]
  exact Nat.mod_eq_of_lt room

def HandleTable.extended (table : HandleTable) (binding : Binding) : HandleTable :=
  (bind table.next binding table.advance).state

theorem HandleTable.get?_extended (table : HandleTable) (binding : Binding) (handle : Handle) :
    (table.extended binding).bindings.get? handle =
      if handle = table.next then some binding else table.bindings.get? handle :=
  FiniteMap.get?_insert ..

/-- What a call can do to a table, and the events that it leaves. -/
inductive TableChange (table : HandleTable) : List TableEvent → HandleTable → Prop where
  | same : TableChange table [] table
  /-- A handle was given out and nothing was bound to it. -/
  | lost (room : table.next.toNat + 1 < UInt32.size) : TableChange table [] table.advance
  | created (binding : Binding) (room : table.next.toNat + 1 < UInt32.size) :
      TableChange table [.created table.next binding] (table.extended binding)
  | copied (source : Handle) {binding : Binding} (room : table.next.toNat + 1 < UInt32.size)
      (found : table.bindings.get? source = some binding) :
      TableChange table [.copied source table.next] (table.extended binding)
  | deleted (handle : Handle) (present : table.bindings.get? handle ≠ none) :
      TableChange table [.deleted handle] { table with bindings := table.bindings.erase handle }

theorem TableChange.bindings_eq {table after : HandleTable} (h : TableChange table [] after) :
    after.bindings = table.bindings := by
  cases h <;> rfl

theorem ObjectType.eq_iff {type expected : ObjectType} : type = expected ↔
    type.kind = expected.kind ∧ type.implementation = expected.implementation := by
  cases type
  cases expected
  rw [ObjectType.mk.injEq]

namespace HandleTable

section Lookups
variable (table : HandleTable) (expected : ObjectType) (handle : Handle) {object : KernelObject}

theorem getObject_eq : table.getObject handle =
    match table.bindings.get? handle with
    | some binding => .ok binding.object
    | none => .error (.invalidHandle handle) := by
  rw [getObject, getBinding]
  cases table.bindings.get? handle <;> rfl

theorem getHandle_eq : table.getHandle expected handle =
    match table.bindings.get? handle with
    | some binding =>
      if binding.object.type = expected then .ok binding.object
      else .error (.typeMismatch handle expected.kind binding.object.type.kind)
    | none => .error (.invalidHandle handle) := by
  rw [getHandle, getObject_eq]
  cases table.bindings.get? handle <;> rfl

theorem getObject_eq_ok_iff : table.getObject handle = .ok object ↔
    (table.bindings.get? handle).map Binding.object = some object := by
  rw [getObject_eq]
  cases table.bindings.get? handle <;> simp

theorem getObject_eq_invalid_iff : table.getObject handle = .error (.invalidHandle handle) ↔
    table.bindings.get? handle = none := by
  rw [getObject_eq]
  cases table.bindings.get? handle <;> simp

theorem getHandle_eq_ok_iff : table.getHandle expected handle = .ok object ↔
    (table.bindings.get? handle).map Binding.object = some object ∧
      object.type.kind = expected.kind ∧ object.type.implementation = expected.implementation := by
  rw [getHandle_eq, ← ObjectType.eq_iff]
  cases table.bindings.get? handle with
  | none => simp
  | some binding =>
    dsimp only [Option.map_some]
    rw [Option.some.injEq]
    split
    · rename_i same
      rw [Except.ok.injEq]
      constructor
      · rintro rfl
        exact ⟨rfl, same⟩
      · exact And.left
    · rename_i other
      refine iff_of_false (fun found => by cases found) ?_
      rintro ⟨rfl, same⟩
      exact other same

theorem getHandle_eq_invalid_iff :
    table.getHandle expected handle = .error (.invalidHandle handle) ↔
      table.bindings.get? handle = none := by
  rw [getHandle_eq]
  cases table.bindings.get? handle with
  | none => simp
  | some binding =>
    dsimp only
    split <;> simp

theorem getHandle_of_mismatch
    (bound : (table.bindings.get? handle).map Binding.object = some object)
    (other : ¬ (object.type.kind = expected.kind ∧
      object.type.implementation = expected.implementation)) :
    table.getHandle expected handle =
      .error (.typeMismatch handle expected.kind object.type.kind) := by
  rw [← ObjectType.eq_iff] at other
  obtain ⟨binding, held, rfl⟩ := Option.map_eq_some_iff.mp bound
  rw [getHandle_eq, held]
  exact if_neg other

end Lookups

def insertBinding (binding : Binding) : Action HandleTable Handle := do
  let handle ← reserve
  bind handle binding
  return handle

variable (table : HandleTable)

theorem reserve_cases :
    (table.next.toNat + 1 < UInt32.size ∧ reserve table = ⟨.ok table.next, table.advance, []⟩) ∨
    (UInt32.size ≤ table.next.toNat + 1 ∧
      reserve table = ⟨.error (.error .handlesExhausted), table, []⟩) := by
  rcases Nat.lt_or_ge (table.next.toNat + 1) UInt32.size with room | used
  · exact .inl ⟨room, table.reserve_of_lt room⟩
  · exact .inr ⟨used, table.reserve_of_le used⟩

theorem reserve_eq_ok {table : HandleTable} {handle : Handle}
    (h : (reserve table).outcome = .ok handle) :
    table.next.toNat + 1 < UInt32.size ∧ handle = table.next ∧
      (reserve table).state = table.advance := by
  rcases table.reserve_cases with ⟨room, reserved⟩ | ⟨_, full⟩
  · rw [reserved] at h ⊢
    cases h
    exact ⟨room, rfl, rfl⟩
  · rw [full] at h
    cases h

theorem insertBinding_cases (binding : Binding) :
    (table.next.toNat + 1 < UInt32.size ∧ ∃ log, insertBinding binding table =
      ⟨.ok table.next, table.extended binding, log⟩) ∨
    (UInt32.size ≤ table.next.toNat + 1 ∧
      insertBinding binding table = ⟨.error (.error .handlesExhausted), table, []⟩) := by
  rcases table.reserve_cases with ⟨room, reserved⟩ | ⟨used, full⟩
  · refine .inl ⟨room, [.handleBound binding.object.type.kind table.next], ?_⟩
    simp only [insertBinding, Action.bind_apply, reserved, Action.andThen_ok, extended, bind_apply,
      Action.pure_apply, List.nil_append, List.append_nil]
  · refine .inr ⟨used, ?_⟩
    simp only [insertBinding, Action.bind_apply, full, Action.andThen_error]

section Building
variable {build : Handle → Except KernelError KernelObject}

theorem newHandle_of_built (room : table.next.toNat + 1 < UInt32.size) {object : KernelObject}
    (built : build table.next = .ok object) : ∃ log, newHandle build table =
      ⟨.ok (table.next, object), table.extended (.ofObject object), log⟩ := by
  refine ⟨[.handleBound object.type.kind table.next], ?_⟩
  simp only [newHandle, Action.bind_apply, table.reserve_of_lt room, Action.andThen_ok,
    Action.done_apply, built, Except.mapError, bind_apply, Action.pure_apply, List.nil_append,
    List.append_nil]
  rfl

theorem newHandle_of_unbuilt (room : table.next.toNat + 1 < UInt32.size) {cause : KernelError}
    (failed : build table.next = .error cause) :
    newHandle build table = ⟨.error (.error cause), table.advance, []⟩ := by
  simp only [newHandle, Action.bind_apply, table.reserve_of_lt room, Action.andThen_ok,
    Action.done_apply, failed, Except.mapError, Action.andThen_error, List.nil_append]
  rfl

theorem newHandle_of_used (used : UInt32.size ≤ table.next.toNat + 1) :
    newHandle build table = ⟨.error (.error .handlesExhausted), table, []⟩ := by
  simp only [newHandle, Action.bind_apply, table.reserve_of_le used, Action.andThen_error]

end Building

theorem duplicateHandle_of_some {handle : Handle} {binding : Binding}
    (found : table.bindings.get? handle = some binding) :
    duplicateHandle handle table = insertBinding binding table := by
  simp only [duplicateHandle, Action.bind_apply, Action.current_apply, Action.andThen_ok,
    getBinding, found, Action.done_apply, Except.mapError, insertBinding, List.nil_append]

theorem duplicateHandle_of_none {handle : Handle} (absent : table.bindings.get? handle = none) :
    duplicateHandle handle table = ⟨.error (.error (.invalidHandle handle)), table, []⟩ := by
  simp only [duplicateHandle, Action.bind_apply, Action.current_apply, Action.andThen_ok,
    getBinding, absent, Action.done_apply, Except.mapError, Action.andThen_error, List.nil_append]

end HandleTable

namespace TableCall

open HandleTable

theorem events_newHandle_ok {build : Handle → Except KernelError KernelObject} {handle : Handle}
    {object answered : KernelObject} (built : build handle = .ok object) :
    events (.newHandle build) (.ok (handle, answered)) = [.created handle (.ofObject object)] := by
  simp only [events, built]

theorem change (call : TableCall) (table : HandleTable) :
    TableChange table (call.events (call.perform table).outcome) (call.perform table).state := by
  -- one case for each call, and in it one for each of its exits
  cases call with
  | newHandle build =>
    change TableChange table (events (.newHandle build) (HandleTable.newHandle build table).outcome)
      (HandleTable.newHandle build table).state
    rcases Nat.lt_or_ge (table.next.toNat + 1) UInt32.size with room | used
    · cases built : build table.next with
      | ok object =>
        obtain ⟨log, made⟩ := table.newHandle_of_built room built
        rw [made]
        change TableChange table (events (.newHandle build) (.ok (table.next, object))) _
        rw [events_newHandle_ok built]
        exact .created _ room
      | error cause =>
        rw [table.newHandle_of_unbuilt room built]
        exact .lost room
    · rw [table.newHandle_of_used used]
      exact .same
  | insertItem object =>
    change TableChange table (events (.insertItem object) (insertBinding _ table).outcome)
      (insertBinding (.ofObject object) table).state
    rcases table.insertBinding_cases (.ofObject object) with ⟨room, log, bound⟩ | ⟨_, full⟩
    · rw [bound]
      exact .created _ room
    · rw [full]
      exact .same
  | insertMemory memory =>
    change TableChange table (events (.insertMemory memory) (insertBinding _ table).outcome)
      (insertBinding (.ofMemory memory) table).state
    rcases table.insertBinding_cases (.ofMemory memory) with ⟨room, log, bound⟩ | ⟨_, full⟩
    · rw [bound]
      exact .created _ room
    · rw [full]
      exact .same
  | duplicateHandle source =>
    change TableChange table
      (events (.duplicateHandle source) (HandleTable.duplicateHandle source table).outcome)
      (HandleTable.duplicateHandle source table).state
    cases found : table.bindings.get? source with
    | none =>
      rw [table.duplicateHandle_of_none found]
      exact .same
    | some binding =>
      rw [table.duplicateHandle_of_some found]
      rcases table.insertBinding_cases binding with ⟨room, log, bound⟩ | ⟨_, full⟩
      · rw [bound]
        exact .copied source room found
      · rw [full]
        exact .same
  | deleteHandle handle =>
    cases found : table.bindings.get? handle with
    | none =>
      simp only [perform, HandleTable.deleteHandle, Action.bind_apply, Action.current_apply,
        Action.andThen_ok, found, Action.note_apply, Action.pure_apply]
      exact .same
    | some binding =>
      simp only [perform, HandleTable.deleteHandle, Action.bind_apply, Action.current_apply,
        Action.andThen_ok, found, Action.note_apply, Action.update_apply, Action.pure_apply]
      refine .deleted handle ?_
      rw [found]
      exact Option.some_ne_none binding
  | getObject handle =>
    change TableChange table (events (.getObject handle) ((table.getObject handle).mapError .error))
      table
    cases table.getObject handle <;> exact .same
  | getHandle expected handle =>
    change TableChange table
      (events (.getHandle expected handle) ((table.getHandle expected handle).mapError .error)) table
    cases table.getHandle expected handle <;> exact .same
  | memoryObject address => exact .same

/-- While there are handles left, a binding that a call offers is made. -/
theorem perform_of_offer {call : TableCall} {table : HandleTable} {binding : Binding}
    (room : table.next.toNat + 1 < UInt32.size)
    (offer : call.offer? table.bindings.get? table.next = some binding) :
    ∃ event, call.events (call.perform table).outcome = [event] ∧
      event.bound? = some table.next ∧ (call.perform table).state = table.extended binding := by
  obtain ⟨log, inserted⟩ : ∃ log, insertBinding binding table =
      ⟨.ok table.next, table.extended binding, log⟩ := by
    rcases table.insertBinding_cases binding with ⟨_, inserted⟩ | ⟨used, _⟩
    · exact inserted
    · omega
  cases call with
  | newHandle build =>
    rw [offer?] at offer
    cases built : build table.next with
    | error cause =>
      rw [built] at offer
      cases offer
    | ok object =>
      rw [built] at offer
      cases offer
      obtain ⟨log, made⟩ := table.newHandle_of_built room built
      refine ⟨.created table.next (.ofObject object), ?_, rfl, congrArg Effect.state made⟩
      exact (congrArg (fun ended => events (.newHandle build) ended.outcome) made).trans
        (events_newHandle_ok built)
  | insertItem object =>
    cases offer
    exact ⟨.created table.next (.ofObject object),
      congrArg (fun ended => events (.insertItem object) ended.outcome) inserted, rfl,
      congrArg Effect.state inserted⟩
  | insertMemory memory =>
    cases offer
    exact ⟨.created table.next (.ofMemory memory),
      congrArg (fun ended => events (.insertMemory memory) ended.outcome) inserted, rfl,
      congrArg Effect.state inserted⟩
  | duplicateHandle source =>
    have copied := (table.duplicateHandle_of_some offer).trans inserted
    exact ⟨.copied source table.next,
      congrArg (fun ended => events (.duplicateHandle source) ended.outcome) copied, rfl,
      congrArg Effect.state copied⟩
  | _ => cases offer

theorem events_eq_nil (call : TableCall) (outcome : Except Fault call.Answer)
    (idle : call.isLookup = true ∨ ∃ fault, outcome = .error fault) :
    call.events outcome = [] := by
  rcases idle with lookup | ⟨fault, rfl⟩
  · cases call with
    | getObject | getHandle | memoryObject => cases outcome <;> rfl
    | _ => cases lookup
  · cases call <;> rfl

end TableCall

end GuestKernel
