import Mathlib
import GuestKernel.Proofs.HandleTable.Contents
import GuestKernel.Proofs.HandleTable.Pool

/-!
# Handle tables that run out of handles

A table gives out the handles from its first one on without a gap, and stops before the last 32-bit
number. `HandleTable.supply` counts the handles that it has to give; a creation that fails and a
binding that is deleted later use up one as well. When all are used up, every creation is refused
before anything is built, and nothing else is different from before.
-/

set_option autoImplicit false

namespace GuestKernel

namespace HandleTable

/-- How many handles a table can give out whose first one is `base`. -/
def supply (base : Handle) : Nat := UInt32.size - 1 - base.toNat

def unserved {α : Type} (table : HandleTable) : Effect HandleTable α :=
  ⟨.error (.error .handlesExhausted), table, []⟩

/-- Every creation is refused, and leaves no trace of a builder that would use the table. -/
structure OutOfHandles (table : HandleTable) : Prop where
  item : ∀ object, insertItem object table = unserved table
  memory : ∀ memory, insertMemory memory table = unserved table
  object : ∀ build, newHandle build table = unserved table
  built : ∀ {γ : Type} (build : Handle → TableTask γ) (binding : γ → Binding),
    (TableTask.create build binding .done).run table = unserved table
  copy : ∀ handle, table.bindings.get? handle ≠ none →
    duplicateHandle handle table = unserved table

theorem outOfHandles_of_le {table : HandleTable} (used : UInt32.size ≤ table.next.toNat + 1) :
    OutOfHandles table := by
  have full := table.reserve_of_le used
  have inserted : ∀ binding, insertBinding binding table = unserved table := by
    intro binding
    rcases table.insertBinding_cases binding with ⟨room, _⟩ | ⟨_, refused⟩
    · omega
    · exact refused
  refine ⟨fun object => inserted _, fun memory => inserted _, ?_, ?_, ?_⟩
  · intro build
    rw [newHandle, Action.bind_apply, full]
    rfl
  · intro γ build binding
    simp only [TableTask.create, TableTask.run, Action.bind_apply, Action.attempt_apply, full,
      Action.andThen_ok]
    rfl
  · intro handle present
    obtain ⟨binding, found⟩ := Option.ne_none_iff_exists'.mp present
    rw [table.duplicateHandle_of_some found]
    exact inserted binding

end HandleTable

/-- Look-ups and deletions do not depend on which handle is next, and do not move it. -/
theorem TableCall.indifferent {call : TableCall}
    (modest : call.isLookup = true ∨ ∃ handle, call = .deleteHandle handle) (table : HandleTable)
    (next : Handle) :
    call.perform { table with next } = ⟨(call.perform table).outcome,
      { (call.perform table).state with next }, (call.perform table).log⟩ := by
  rcases modest with lookup | ⟨handle, rfl⟩
  · cases call with
    | getObject | getHandle | memoryObject => rfl
    | _ => cases lookup
  · simp only [perform, HandleTable.deleteHandle, Action.bind_apply, Action.current_apply,
      Action.andThen_ok]
    cases table.bindings.get? handle <;> rfl

namespace HandlePool

open HandleTable TableTask

variable {ι : Type} [DecidableEq ι] {base : Handle} {s t : HandlePool ι} {handle : Handle}

theorem Step.given (step : Step s t) :
    t.given = s.given ∧ t.table.next = s.table.next ∨
      s.table.next.toNat + 1 < UInt32.size ∧ t.given = s.given ++ [s.table.next] ∧
        t.table = s.table.advance := by
  cases step with
  | call i task idle built => exact .inl ⟨rfl, rfl⟩
  | reserve i here reserved =>
    obtain ⟨room, rfl, after⟩ := reserve_eq_ok (congrArg Effect.outcome reserved)
    rw [reserved] at after
    exact .inr ⟨room, rfl, after⟩
  | exhausted i here refused =>
    rcases s.table.reserve_cases with ⟨_, reserved⟩ | ⟨_, full⟩
    · rw [reserved] at refused
      cases refused
    · rw [full] at refused
      cases refused
      exact .inl ⟨rfl, rfl⟩
  | bind i here => exact .inl ⟨rfl, rfl⟩
  | delete i here deleted =>
    obtain ⟨after, log, gone, counter, _⟩ := deleteHandle_cases _ s.table
    rw [deleted] at gone
    cases gone
    exact .inl ⟨rfl, counter⟩
  | look i here => exact .inl ⟨rfl, rfl⟩

/-- The handles that were given out lie side by side, and the next one behind them. -/
structure Consecutive (base : Handle) (s : HandlePool ι) : Prop where
  next : s.table.next.toNat = base.toNat + s.given.length
  given : s.given.map UInt32.toNat = List.range' base.toNat s.given.length

namespace Consecutive

theorem step (h : Consecutive base s) (step : Step s t) : Consecutive base t := by
  obtain ⟨next, given⟩ := h
  rcases step.given with ⟨same, counter⟩ | ⟨room, more, up⟩
  · refine ⟨?_, ?_⟩
    · rw [counter, same]
      exact next
    · rw [same]
      exact given
  · have passed : t.table.next.toNat = s.table.next.toNat + 1 := by
      rw [up, toNat_next_advance room]
    have length : t.given.length = s.given.length + 1 := by
      rw [more, List.length_append, List.length_singleton]
    refine ⟨by omega, ?_⟩
    rw [length, more, List.map_append, given, List.map_singleton, next, List.range'_1_concat]

omit [DecidableEq ι] in
theorem length_le (h : Consecutive base s) : s.given.length ≤ supply base := by
  have next := h.next
  have small := s.table.next.toNat_lt
  unfold supply
  simp only [UInt32.size]
  omega

omit [DecidableEq ι] in
theorem room_iff (h : Consecutive base s) :
    s.table.next.toNat + 1 < UInt32.size ↔ s.given.length < supply base := by
  have next := h.next
  have first := base.toNat_lt
  unfold supply
  simp only [UInt32.size]
  omega

omit [DecidableEq ι] in
theorem not_last (h : Consecutive base s) (given : handle ∈ s.given) :
    handle.toNat + 1 < UInt32.size := by
  have mem : handle.toNat ∈ s.given.map UInt32.toNat := List.mem_map_of_mem given
  rw [h.given, List.mem_range'_1] at mem
  have few := h.length_le
  unfold supply at few
  omega

end Consecutive

theorem Reachable.consecutive (h : Reachable base s) : Consecutive base s := by
  induction h with
  | start => exact ⟨rfl, rfl⟩
  | step _ step ih => exact ih.step step

theorem Reachable.path (h : Reachable base s) (path : Relation.ReflTransGen Step s t) :
    Reachable base t := by
  induction path with
  | refl => exact h
  | tail _ step ih => exact ih.step step

theorem given_prefix (path : Relation.ReflTransGen Step s t) : s.given <+: t.given := by
  induction path with
  | refl => exact List.prefix_rfl
  | tail _ step ih =>
    rcases step.given with ⟨same, _⟩ | ⟨_, more, _⟩
    · rwa [same]
    · rw [more]
      exact ih.trans (List.prefix_append _ _)

/-- A binding that was made stays until it is deleted, and is not made again. -/
theorem Reachable.settled (h : Reachable base s) (step : Step s t) (bound : handle ∈ s.bound) :
    handle ∈ t.bound ∧ (t.table.bindings.get? handle = s.table.bindings.get? handle ∨
      t.table.bindings.get? handle = none) := by
  cases step with
  | call i task idle built => exact ⟨bound, .inl rfl⟩
  | reserve i here reserved =>
    obtain ⟨_, _, after⟩ := reserve_eq_ok (congrArg Effect.outcome reserved)
    rw [reserved] at after
    dsimp only at after
    subst after
    exact ⟨bound, .inl rfl⟩
  | exhausted i here refused =>
    rcases s.table.reserve_cases with ⟨_, reserved⟩ | ⟨_, full⟩
    · rw [reserved] at refused
      cases refused
    · rw [full] at refused
      cases refused
      exact ⟨bound, .inl rfl⟩
  | @bind i other binding next here =>
    refine ⟨List.mem_append_left _ bound, .inl ?_⟩
    have fresh := (h.sound.absent i other binding next here).1.2
    have apart : handle ≠ other := fun same => fresh (same ▸ bound)
    exact (FiniteMap.get?_insert ..).trans (if_neg apart)
  | @delete i other next object after log here deleted =>
    obtain ⟨after', log', gone, _, bindings⟩ := deleteHandle_cases other s.table
    rw [deleted] at gone
    cases gone
    refine ⟨bound, ?_⟩
    dsimp only
    rw [bindings]
    split
    · exact .inr rfl
    · exact .inl rfl
  | look i here => exact ⟨bound, .inl rfl⟩

theorem Reachable.lasting (h : Reachable base s) (path : Relation.ReflTransGen Step s t)
    (present : s.Present handle) :
    t.table.bindings.get? handle = s.table.bindings.get? handle ∨
      t.table.bindings.get? handle = none := by
  have start : handle ∈ s.bound := by
    obtain ⟨held, kept⟩ := h.kept
    exact kept.present handle present
  have all : handle ∈ t.bound ∧ (t.table.bindings.get? handle = s.table.bindings.get? handle ∨
      t.table.bindings.get? handle = none) := by
    induction path with
    | refl => exact ⟨start, .inl rfl⟩
    | tail before step ih =>
      obtain ⟨bound, value⟩ := (h.path before).settled step ih.1
      refine ⟨bound, ?_⟩
      rcases value with same | gone
      · rw [same]
        exact ih.2
      · exact .inr gone
  exact all.2

/-- A creation that never builds anything; its handle is lost. -/
def waste : TableTask Unit :=
  .create (fun _ => .done (.error .overflow)) (id : Binding → Binding) fun _ => .done (.ok ())

/-- A caller without a call under way can use up one handle, as long as there is one. -/
theorem exists_given_succ {i : ι} {outcome : Except Fault Unit} (idle : s.tasks i = .done outcome)
    (room : s.table.next.toNat + 1 < UInt32.size) :
    ∃ t : HandlePool ι, Relation.ReflTransGen Step s t ∧ t.given.length = s.given.length + 1 ∧
      t.tasks i = .done (.ok ()) := by
  have built : Built waste := .create _ _ _ (fun _ => .done _) fun _ => .done _
  have called := Step.call s i waste idle built
  have here : (Function.update s.tasks i waste) i = waste := Function.update_self ..
  have given := Step.reserve { s with tasks := Function.update s.tasks i waste } i here
    (s.table.reserve_of_lt room)
  refine ⟨_, (Relation.ReflTransGen.single called).tail given, ?_, ?_⟩
  · exact List.length_append
  · exact Function.update_self ..

theorem Reachable.exists_given_length (h : Reachable base s) {i : ι}
    {outcome : Except Fault Unit} (idle : s.tasks i = .done outcome) {n : Nat}
    (low : s.given.length ≤ n) (high : n ≤ supply base) :
    ∃ t : HandlePool ι, Relation.ReflTransGen Step s t ∧ t.given.length = n ∧
      ∃ outcome, t.tasks i = .done outcome := by
  induction n, low using Nat.le_induction with
  | base => exact ⟨s, .refl, rfl, outcome, idle⟩
  | succ n low ih =>
    obtain ⟨t, path, length, last, free⟩ := ih (by omega)
    have room := (h.path path).consecutive.room_iff.mpr (by omega)
    obtain ⟨u, more, longer, done⟩ := exists_given_succ free room
    exact ⟨u, path.trans more, by omega, _, done⟩

/-- What the callers of a table can get out of its supply of handles. -/
structure Rationed (base : Handle) (s : HandlePool ι) : Prop where
  given : s.given.map UInt32.toNat = List.range' base.toNat s.given.length
  bounded : s.given.length ≤ supply base
  notLast : ∀ handle ∈ s.given, handle.toNat + 1 < UInt32.size
  serves : s.given.length < supply base → ∃ handle after,
    HandleTable.reserve s.table = ⟨.ok handle, after, []⟩ ∧
      handle.toNat = base.toNat + s.given.length
  usable : ∀ i outcome, s.tasks i = .done outcome → ∀ n, s.given.length ≤ n → n ≤ supply base →
    ∃ t, Relation.ReflTransGen Step s t ∧ t.given.length = n
  /-- Once the supply is used up nothing is given out or created any more, whatever is done. -/
  spent : s.given.length = supply base → ∀ t, Relation.ReflTransGen Step s t →
    t.given = s.given ∧ OutOfHandles t.table
  lasting : ∀ t, Relation.ReflTransGen Step s t → ∀ handle, s.Present handle →
    t.table.bindings.get? handle = s.table.bindings.get? handle ∨
      t.table.bindings.get? handle = none
  /-- Look-ups and deletions are what they would be with any number of handles left. -/
  indifferent : ∀ call : TableCall, call.isLookup = true ∨ (∃ handle, call = .deleteHandle handle) →
    ∀ next : Handle, call.perform { s.table with next } = ⟨(call.perform s.table).outcome,
      { (call.perform s.table).state with next }, (call.perform s.table).log⟩
  absent : ∀ handle, s.table.bindings.get? handle = none →
    HandleTable.duplicateHandle handle s.table =
      ⟨.error (.error (.invalidHandle handle)), s.table, []⟩

/-- The supply of handles is used up one by one, and running out of it harms nothing. -/
theorem Reachable.rationed (h : Reachable base s) : Rationed base s := by
  have consecutive := h.consecutive
  refine ⟨consecutive.given, consecutive.length_le, fun handle => consecutive.not_last, ?_, ?_, ?_,
    fun t path handle => h.lasting path, fun call modest => TableCall.indifferent modest s.table,
    fun handle => s.table.duplicateHandle_of_none⟩
  · intro left
    have room := consecutive.room_iff.mpr left
    exact ⟨_, _, s.table.reserve_of_lt room, consecutive.next⟩
  · intro i outcome idle n low high
    obtain ⟨t, path, length, _⟩ := h.exists_given_length idle low high
    exact ⟨t, path, length⟩
  · intro all t path
    have later := (h.path path).consecutive
    have more := given_prefix path
    have few := later.length_le
    have longer := more.length_le
    have same : s.given = t.given := more.eq_of_length (by omega)
    refine ⟨same.symm, outOfHandles_of_le (Nat.not_lt.mp fun room => ?_)⟩
    have short := later.room_iff.mp room
    omega

/-- Of three handles one is lost with an object that cannot be built, and one is deleted after the
last has been given out; a duplicate comes too late. -/
theorem rationed_without_rest : ∃ s : HandlePool Bool,
    s.given = [0xFFFFFFFC, 0xFFFFFFFD, 0xFFFFFFFE] ∧ s.bound = [0xFFFFFFFE, 0xFFFFFFFC] ∧
    s.table.size = 1 ∧ s.given.length = supply 0xFFFFFFFC ∧ Rationed 0xFFFFFFFC s := by
  let factory : ScriptedFactory := ⟨{ event := some 1 }, 1000, []⟩
  let params : Handle → ThreadParams := fun handle => ⟨0, handle, 0, 0, 0, 0, 1⟩
  let ends {α : Type} (task : TableTask α) : TableTask Unit :=
    task.andThen fun _ => .done (.ok ())
  let refuse : TableCall := .newHandle fun handle => .error (.invalidHandle handle)
  have initial : Reachable 0xFFFFFFFC
    (⟨.new 0xFFFFFFFC, fun _ => .done (.ok ()), [], []⟩ : HandlePool Bool) := .start
  have calls {s : HandlePool Bool} (h : Reachable 0xFFFFFFFC s) (call : TableCall)
      {outcome : Except Fault Unit} (idle : s.tasks false = .done outcome) :=
    h.step (.call _ false (ends (ofCall call)) idle ((built_ofCall _).andThen fun _ => .done _))
  have creates := initial.step (.call _ true (ends (createThread factory params)) rfl
    ((built_createThread _ _).andThen fun _ => .done _))
  have first := creates.step (.reserve _ true rfl rfl)
  have lost := (calls first refuse rfl).step (.reserve _ false rfl rfl)
  have event := (lost.step (.reserve _ true rfl rfl)).step (.bind _ true rfl)
  have thread := event.step (.bind _ true rfl)
  have deleted := (calls thread (.deleteHandle 0xFFFFFFFE) rfl).step (.delete _ false rfl rfl)
  have looked := (calls deleted (.duplicateHandle 0xFFFFFFFC) rfl).step (.look _ false rfl)
  have refused := looked.step (.exhausted _ false rfl rfl)
  exact ⟨_, rfl, rfl, rfl, by decide, refused.rationed⟩

end HandlePool

end GuestKernel
