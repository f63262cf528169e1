import Mathlib
import GuestKernel.Proofs.HandleTable.Task
import GuestKernel.Scripted.Factory

/-!
# Many callers at one handle table

A `HandlePool` is a handle table with any number of callers, each with a call under way that others
may overtake at every step: also between the giving out of a handle and its binding, however much
is built in between. What carries the proofs is that a caller binds no handle but one that it was
given and has not bound yet, `TableTask.Disciplined`, so that the handles which the callers hold are
theirs alone.
-/

set_option autoImplicit false

namespace GuestKernel

namespace TableTask

variable {α β : Type}

/-- A task that holds these handles binds each of them and each that it is given once at most, and
no other. -/
def Disciplined : TableTask α → Finset Handle → Prop
  | done _, _ => True
  | reserve next, held =>
    (∀ handle, handle ∉ held → (next (.ok handle)).Disciplined (insert handle held)) ∧
      ∀ fault, (next (.error fault)).Disciplined held
  | bind handle _ next, held => handle ∈ held ∧ next.Disciplined (held.erase handle)
  | delete _ next, held => ∀ object, (next object).Disciplined held
  | look next, held => ∀ table, (next table).Disciplined held

/-- A task that goes on where another ends may use what was held before, which the first has left
alone. -/
theorem Disciplined.andThen {t : TableTask α} {held kept : Finset Handle}
    {next : Except Fault α → TableTask β} (h : t.Disciplined held) (apart : Disjoint held kept)
    (goes : ∀ answer more, kept ⊆ more → (next answer).Disciplined more) :
    (t.andThen next).Disciplined (held ∪ kept) := by
  induction t generalizing held with
  | done outcome => exact goes outcome _ Finset.subset_union_right
  | reserve more ih =>
    refine ⟨fun handle fresh => ?_, fun fault => ih _ (h.2 fault) apart⟩
    rw [Finset.mem_union, not_or] at fresh
    rw [← Finset.insert_union]
    exact ih _ (h.1 handle fresh.1) (Finset.disjoint_insert_left.mpr ⟨fresh.2, apart⟩)
  | bind handle binding more ih =>
    obtain ⟨mine, later⟩ := h
    have other : handle ∉ kept := Finset.disjoint_left.mp apart mine
    refine ⟨Finset.mem_union_left _ mine, ?_⟩
    rw [Finset.erase_union_distrib, Finset.erase_eq_of_notMem other]
    exact ih later (Finset.disjoint_of_subset_left (Finset.erase_subset handle held) apart)
  | delete handle more ih => exact fun object => ih object (h object) apart
  | look more ih => exact fun table => ih table (h table) apart

/-- The operations of a table keep the discipline, whatever they are in the middle of. -/
theorem Built.disciplined {t : TableTask α} (h : Built t) (held : Finset Handle) :
    t.Disciplined held := by
  induction h generalizing held with
  | done => trivial
  | create build binding next _ _ builds goes =>
    refine ⟨fun handle fresh => ?_, fun fault => goes _ held⟩
    rw [← Finset.empty_union (insert handle held)]
    refine (builds handle ∅).andThen (Finset.disjoint_empty_left _) fun answer more sub => ?_
    cases answer with
    | ok built => exact ⟨sub (Finset.mem_insert_self handle held), goes _ _⟩
    | error fault => exact goes _ _
  | delete handle next _ goes => exact fun object => goes object held
  | look next _ goes => exact fun table => goes table held

end TableTask

/-- A handle table and its callers, with the handles that were given out and those that were bound,
in order. -/
structure HandlePool (ι : Type) where
  table : HandleTable
  tasks : ι → TableTask Unit
  given : List Handle
  bound : List Handle

namespace HandlePool

open TableTask

variable {ι : Type}

/-- A handle was given out and nothing has been bound to it. -/
def Unbound (s : HandlePool ι) (handle : Handle) : Prop := handle ∈ s.given ∧ handle ∉ s.bound

def Present (s : HandlePool ι) (handle : Handle) : Prop := s.table.bindings.get? handle ≠ none

variable [DecidableEq ι]

inductive Step : HandlePool ι → HandlePool ι → Prop where
  /-- A caller without a call under way makes a call. -/
  | call (s : HandlePool ι) (i : ι) (task : TableTask Unit) {outcome : Except Fault Unit}
      (idle : s.tasks i = .done outcome) (built : Built task) :
      Step s { s with tasks := Function.update s.tasks i task }
  | reserve (s : HandlePool ι) (i : ι) {next : Except Fault Handle → TableTask Unit}
      {handle : Handle} {after : HandleTable} {log : List LogRecord}
      (here : s.tasks i = .reserve next)
      (reserved : HandleTable.reserve s.table = ⟨.ok handle, after, log⟩) :
      Step s { s with
        table := after
        tasks := Function.update s.tasks i (next (.ok handle))
        given := s.given ++ [handle] }
  | exhausted (s : HandlePool ι) (i : ι) {next : Except Fault Handle → TableTask Unit}
      {fault : Fault} {after : HandleTable} {log : List LogRecord}
      (here : s.tasks i = .reserve next)
      (refused : HandleTable.reserve s.table = ⟨.error fault, after, log⟩) :
      Step s { s with
        table := after
        tasks := Function.update s.tasks i (next (.error fault)) }
  | bind (s : HandlePool ι) (i : ι) {handle : Handle} {binding : Binding} {next : TableTask Unit}
      (here : s.tasks i = .bind handle binding next) :
      Step s { s with
        table := (HandleTable.bind handle binding s.table).state
        tasks := Function.update s.tasks i next
        bound := s.bound ++ [handle] }
  | delete (s : HandlePool ι) (i : ι) {handle : Handle}
      {next : Option KernelObject → TableTask Unit} {object : Option KernelObject}
      {after : HandleTable} {log : List LogRecord} (here : s.tasks i = .delete handle next)
      (deleted : HandleTable.deleteHandle handle s.table = ⟨.ok object, after, log⟩) :
      Step s { s with
        table := after
        tasks := Function.update s.tasks i (next object) }
  | look (s : HandlePool ι) (i : ι) {next : HandleTable → TableTask Unit}
      (here : s.tasks i = .look next) :
      Step s { s with tasks := Function.update s.tasks i (next s.table) }

/-- The pools that start with a new table and without calls. -/
inductive Reachable (base : Handle) : HandlePool ι → Prop where
  | start : Reachable base ⟨.new base, fun _ => .done (.ok ()), [], []⟩
  | step {s t : HandlePool ι} (reachable : Reachable base s) (step : Step s t) : Reachable base t

/-- What every step keeps, for the handles that the callers hold. -/
structure Kept (base : Handle) (s : HandlePool ι) (held : ι → Finset Handle) : Prop where
  counter : base ≤ s.table.next
  range : ∀ handle ∈ s.given, base ≤ handle ∧ handle < s.table.next
  increasing : s.given.Pairwise (· < ·)
  once : s.bound.Nodup
  wereGiven : ∀ handle ∈ s.bound, handle ∈ s.given
  present : ∀ handle, s.Present handle → handle ∈ s.bound
  unbound : ∀ i, ∀ handle ∈ held i, s.Unbound handle
  apart : ∀ i j handle, handle ∈ held i → handle ∈ held j → i = j
  disciplined : ∀ i, (s.tasks i).Disciplined (held i)

variable {base : Handle} {s t : HandlePool ι} {held : ι → Finset Handle}

/-- One task of many is replaced, together with the handles that it holds. -/
theorem disciplined_update (all : ∀ j, (s.tasks j).Disciplined (held j)) (i : ι)
    {task : TableTask Unit} {mine : Finset Handle} (one : task.Disciplined mine) (j : ι) :
    (Function.update s.tasks i task j).Disciplined (Function.update held i mine j) := by
  by_cases same : j = i
  · subst same
    rw [Function.update_self, Function.update_self]
    exact one
  · rw [Function.update_of_ne same, Function.update_of_ne same]
    exact all j

namespace Kept

/-- A caller goes on while the table gives out and binds nothing. -/
theorem goOn (h : Kept base s held) (i : ι) {task : TableTask Unit} {table : HandleTable}
    (disciplined : task.Disciplined (held i)) (next : table.next = s.table.next)
    (present : ∀ handle, table.bindings.get? handle ≠ none → s.Present handle) :
    Kept base { s with table, tasks := Function.update s.tasks i task } held := by
  have all := disciplined_update h.disciplined i disciplined
  rw [Function.update_eq_self] at all
  exact ⟨next ▸ h.counter, next ▸ h.range, h.increasing, h.once, h.wereGiven,
    fun handle there => h.present handle (present handle there), h.unbound, h.apart, all⟩

omit [DecidableEq ι] in
/-- The next handle was not given out before. -/
theorem fresh (h : Kept base s held) : s.table.next ∉ s.given := fun given =>
  UInt32.lt_irrefl _ (h.range _ given).2

theorem reserve (h : Kept base s held) (i : ι) {next : Except Fault Handle → TableTask Unit}
    (here : s.tasks i = .reserve next) (room : s.table.next.toNat + 1 < UInt32.size) :
    Kept base { s with
      table := { s.table with next := s.table.next + 1 }
      tasks := Function.update s.tasks i (next (.ok s.table.next))
      given := s.given ++ [s.table.next] }
      (Function.update held i (insert s.table.next (held i))) := by
  have up := s.table.next_lt room
  have unheld : ∀ j, s.table.next ∉ held j := fun j mine => h.fresh (h.unbound j _ mine).1
  have task := h.disciplined i
  rw [here] at task
  refine ⟨UInt32.le_trans h.counter (UInt32.le_of_lt up), ?_, ?_, h.once, ?_, h.present, ?_, ?_,
    disciplined_update h.disciplined i (task.1 s.table.next (unheld i))⟩
  · intro handle given
    rcases List.mem_append.mp given with given | given
    · have old := h.range handle given
      exact ⟨old.1, UInt32.lt_trans old.2 up⟩
    · rw [List.mem_singleton] at given
      subst given
      exact ⟨h.counter, up⟩
  · refine List.pairwise_append.mpr ⟨h.increasing, List.pairwise_singleton _ _, ?_⟩
    intro earlier given later same
    rw [List.mem_singleton.mp same]
    exact (h.range earlier given).2
  · intro handle bound
    exact List.mem_append_left _ (h.wereGiven handle bound)
  · intro j handle mine
    have old : ∀ handle, s.Unbound handle →
        handle ∈ s.given ++ [s.table.next] ∧ handle ∉ s.bound := fun handle unbound =>
      ⟨List.mem_append_left _ unbound.1, unbound.2⟩
    by_cases same : j = i
    · subst same
      rw [Function.update_self, Finset.mem_insert] at mine
      rcases mine with rfl | mine
      · exact ⟨List.mem_append_right _ (List.mem_singleton_self _),
          fun bound => h.fresh (h.wereGiven _ bound)⟩
      · exact old handle (h.unbound j handle mine)
    · rw [Function.update_of_ne same] at mine
      exact old handle (h.unbound j handle mine)
  · -- nobody else holds the new handle, and the old ones stay apart
    have back : ∀ j handle, handle ∈ Function.update held i (insert s.table.next (held i)) j →
        handle ∈ held j ∨ j = i ∧ handle = s.table.next := by
      intro j handle mine
      by_cases same : j = i
      · subst same
        rw [Function.update_self, Finset.mem_insert] at mine
        exact mine.elim (fun new => .inr ⟨rfl, new⟩) .inl
      · rw [Function.update_of_ne same] at mine
        exact .inl mine
    intro j k handle hj hk
    rcases back j handle hj with hj | ⟨rfl, new⟩
    · rcases back k handle hk with hk | ⟨_, rfl⟩
      · exact h.apart j k handle hj hk
      · exact absurd hj (unheld j)
    · rcases back k handle hk with hk | ⟨rfl, _⟩
      · exact absurd (new ▸ hk) (unheld k)
      · rfl

theorem bind (h : Kept base s held) (i : ι) {handle : Handle} {binding : Binding}
    {next : TableTask Unit} (here : s.tasks i = .bind handle binding next) :
    Kept base { s with
      table := { s.table with bindings := s.table.bindings.insert handle binding }
      tasks := Function.update s.tasks i next
      bound := s.bound ++ [handle] } (Function.update held i ((held i).erase handle)) := by
  have task := h.disciplined i
  rw [here] at task
  have unbound := h.unbound i handle task.1
  have back : ∀ j other, other ∈ Function.update held i ((held i).erase handle) j →
      other ∈ held j ∧ other ≠ handle := by
    intro j other mine
    by_cases same : j = i
    · subst same
      rw [Function.update_self, Finset.mem_erase] at mine
      exact ⟨mine.2, mine.1⟩
    · rw [Function.update_of_ne same] at mine
      refine ⟨mine, ?_⟩
      rintro rfl
      exact same (h.apart j i other mine task.1)
  refine ⟨h.counter, h.range, h.increasing, ?_, ?_, ?_, ?_, ?_,
    disciplined_update h.disciplined i task.2⟩
  · refine List.nodup_append.mpr ⟨h.once, List.nodup_singleton handle, ?_⟩
    intro earlier bound later same
    rw [List.mem_singleton.mp same]
    rintro rfl
    exact unbound.2 bound
  · intro other bound
    rcases List.mem_append.mp bound with bound | bound
    · exact h.wereGiven other bound
    · rw [List.mem_singleton.mp bound]
      exact unbound.1
  · intro other there
    rw [Present, FiniteMap.get?_insert] at there
    split at there
    · rename_i same
      exact List.mem_append_right _ (List.mem_singleton.mpr same)
    · exact List.mem_append_left _ (h.present other there)
  · intro j other mine
    obtain ⟨mine, apart⟩ := back j other mine
    obtain ⟨given, free⟩ := h.unbound j other mine
    refine ⟨given, fun bound => ?_⟩
    rcases List.mem_append.mp bound with bound | bound
    · exact free bound
    · exact apart (List.mem_singleton.mp bound)
  · intro j k other hj hk
    exact h.apart j k other (back j other hj).1 (back k other hk).1

theorem step (h : Kept base s held) (step : Step s t) : ∃ held', Kept base t held' := by
  cases step with
  | call i task idle built =>
    exact ⟨held, h.goOn i (built.disciplined _) rfl fun _ there => there⟩
  | @reserve i next handle after log here reserved =>
    rw [HandleTable.reserve] at reserved
    split at reserved
    · rename_i room
      cases reserved
      exact ⟨_, h.reserve i here room⟩
    · cases reserved
  | @exhausted i next fault after log here refused =>
    have task := h.disciplined i
    rw [here] at task
    rw [HandleTable.reserve] at refused
    split at refused
    · cases refused
    · cases refused
      exact ⟨held, h.goOn i (task.2 _) rfl fun _ there => there⟩
  | bind i here => exact ⟨_, h.bind i here⟩
  | @delete i handle next object after log here deleted =>
    have task := h.disciplined i
    rw [here] at task
    obtain ⟨after', log', deleted', counter, bindings⟩ := deleteHandle_cases handle s.table
    rw [deleted] at deleted'
    cases deleted'
    refine ⟨held, h.goOn i (task _) counter fun other there => ?_⟩
    rw [bindings] at there
    split at there
    · exact absurd rfl there
    · exact there
  | look i here =>
    have task := h.disciplined i
    rw [here] at task
    exact ⟨held, h.goOn i (task s.table) rfl fun _ there => there⟩

end Kept

theorem Reachable.kept (h : Reachable base s) : ∃ held, Kept base s held := by
  induction h with
  | start =>
    refine ⟨fun _ => ∅, UInt32.le_refl base, by simp, .nil, .nil, by simp, ?_, by simp, by simp,
      fun _ => trivial⟩
    intro handle there
    exact absurd rfl there
  | step _ step ih =>
    obtain ⟨held, kept⟩ := ih
    exact kept.step step

/-- No handle is given out or bound twice. -/
structure Sound (base : Handle) (s : HandlePool ι) : Prop where
  /-- What is bound now and what was given out but not bound are different handles. -/
  disjoint : ∀ handle, s.Unbound handle → ¬ s.Present handle
  range : ∀ handle, s.Unbound handle ∨ s.Present handle → base ≤ handle ∧ handle < s.table.next
  increasing : s.given.Pairwise (· < ·)
  once : s.bound.Nodup
  /-- A handle that a caller is about to bind is not bound. -/
  absent : ∀ i handle binding next, s.tasks i = .bind handle binding next →
    s.Unbound handle ∧ s.table.bindings.get? handle = none

/-- However the callers overtake each other, no handle is given out or bound twice. -/
theorem Reachable.sound (h : Reachable base s) : Sound base s := by
  obtain ⟨held, kept⟩ := h.kept
  have disjoint : ∀ handle, s.Unbound handle → ¬ s.Present handle := fun handle unbound there =>
    unbound.2 (kept.present handle there)
  refine ⟨disjoint, ?_, kept.increasing, kept.once, ?_⟩
  · rintro handle (unbound | there)
    · exact kept.range handle unbound.1
    · exact kept.range handle (kept.wereGiven handle (kept.present handle there))
  · intro i handle binding next here
    have task := kept.disciplined i
    rw [here] at task
    have unbound := kept.unbound i handle task.1
    exact ⟨unbound, not_not.mp (disjoint handle unbound)⟩

/-- A creation is overtaken by another caller, and its factory binds an event before the thread. -/
theorem sound_with_overtaking : ∃ s : HandlePool Bool,
    s.given = [5, 6, 7] ∧ s.bound = [6, 7] ∧ Sound 5 s := by
  let factory : ScriptedFactory := ⟨{ event := some 1 }, 1000, []⟩
  let params : Handle → ThreadParams := fun handle => ⟨0, handle, 0, 0, 0, 0, 1⟩
  let ends {α : Type} (task : TableTask α) : TableTask Unit :=
    task.andThen fun _ => .done (.ok ())
  have initial : Reachable 5 (⟨.new 5, fun _ => .done (.ok ()), [], []⟩ : HandlePool Bool) := .start
  have creates := initial.step (.call _ true (ends (createThread factory params)) rfl
    ((built_createThread _ _).andThen fun _ => .done _))
  have first := creates.step (.reserve _ true rfl rfl)
  have other := first.step
    (.call _ false (ends (ofCall (.insertItem (ScriptedFactory.eventObject 2)))) rfl
      ((built_ofCall _).andThen fun _ => .done _))
  have second := other.step (.reserve _ false rfl rfl)
  have third := second.step (.reserve _ true rfl rfl)
  have overtaken := third.step (.bind _ false rfl)
  have within := overtaken.step (.bind _ true rfl)
  exact ⟨_, rfl, rfl, within.sound⟩

end HandlePool

end GuestKernel
