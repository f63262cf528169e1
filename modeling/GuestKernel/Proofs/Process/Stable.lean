import Mathlib
import GuestKernel.Proofs.HandleTable.Contents
import GuestKernel.Proofs.Process.Core

/-!
# What the handle table of a process keeps

A property of handle tables is `Stable` if it survives the giving out of a handle, the binding of a
handle that was next when the property held, and the deletion of any handle in `D`. Such a property
survives every call of a process that deletes handles in `D` only: `Stable.perform`. What a thread
factory does to the table while its thread is made counts as part of the call.
-/

set_option autoImplicit false

namespace GuestKernel

open GuestKernel.Action

/-- The call deletes no handle but those in `D`. -/
def TableCall.DeletesOnly (D : Handle → Prop) : TableCall → Prop
  | deleteHandle handle => D handle
  | _ => True

/-- So does every call of the program, whatever answers it gets. -/
def TableProgram.DeletesOnly {α : Type} (D : Handle → Prop) : TableProgram α → Prop
  | done _ => True
  | call c next => c.DeletesOnly D ∧ ∀ answer, (next answer).DeletesOnly D

/-- So does a call of this process, its factory included. -/
def ProcessCall.DeletesOnly {M A F : Type} [ThreadFactory F] (D : Handle → Prop)
    (p : GuestProcess M A F) : ProcessCall M A F → Prop
  | table call => call.DeletesOnly D
  | createThread .. | createMainThread .. =>
    ∀ params, (ThreadFactory.create p.factory params).DeletesOnly D
  | _ => True

section Unrestricted
variable {D : Handle → Prop} (all : ∀ handle, D handle)
include all

theorem TableCall.deletesOnly (call : TableCall) : call.DeletesOnly D := by
  cases call with
  | deleteHandle handle => exact all handle
  | _ => trivial

theorem TableProgram.deletesOnly {α : Type} (program : TableProgram α) : program.DeletesOnly D := by
  induction program with
  | done value => trivial
  | call call next ih => exact ⟨call.deletesOnly all, ih⟩

theorem ProcessCall.deletesOnly {M A F : Type} [ThreadFactory F] (p : GuestProcess M A F)
    (call : ProcessCall M A F) : call.DeletesOnly D p := by
  cases call with
  | table call => exact call.deletesOnly all
  | createThread => exact fun params => TableProgram.deletesOnly all _
  | createMainThread => exact fun params => TableProgram.deletesOnly all _
  | _ => trivial

end Unrestricted

theorem TableCall.allowed_of_deleted {D : Handle → Prop} {call : TableCall} {handle : Handle}
    {outcome : Except Fault call.Answer} (only : call.DeletesOnly D)
    (deleted : .deleted handle ∈ call.events outcome) : D handle := by
  cases call with
  | deleteHandle other =>
    rcases outcome with fault | _ | object
    · cases deleted
    · cases deleted
    · cases List.mem_singleton.mp deleted
      exact only
  | newHandle build =>
    rcases outcome with fault | ⟨made, answered⟩
    · cases deleted
    · rw [events] at deleted
      split at deleted
      · cases List.mem_singleton.mp deleted
      · cases deleted
  | _ => cases outcome <;> simp [events] at deleted

namespace HandleTable

/-- The operations of a table keep the property, deletions of handles in `D` included. -/
structure Stable (D : Handle → Prop) (P : HandleTable → Prop) : Prop where
  reserve : Preserves P reserve
  bind : ∀ {t u : HandleTable} (binding : Binding), P t → P u →
    P (HandleTable.bind t.next binding u).state
  delete : ∀ {t : HandleTable} {handle : Handle}, D handle → P t →
    P { t with bindings := t.bindings.erase handle }

namespace Stable

variable {D : Handle → Prop} {P : HandleTable → Prop} (stable : Stable D P)
include stable

theorem change {t u : HandleTable} {events : List TableEvent} (change : TableChange t events u)
    (only : ∀ handle, .deleted handle ∈ events → D handle) (holds : P t) : P u := by
  have advanced : t.next.toNat + 1 < UInt32.size → P t.advance := by
    intro room
    have given := stable.reserve t holds
    rwa [t.reserve_of_lt room] at given
  cases change with
  | same => exact holds
  | lost room => exact advanced room
  | created binding room => exact stable.bind binding holds (advanced room)
  | copied source room found => exact stable.bind _ holds (advanced room)
  | deleted handle present => exact stable.delete (only handle (List.mem_singleton_self _)) holds

theorem call {call : TableCall} (only : call.DeletesOnly D) : Preserves P call.perform := fun t =>
  stable.change (call.change t) fun _ => TableCall.allowed_of_deleted only

theorem insertMemory (memory : MemoryObject) : Preserves P (HandleTable.insertMemory memory) := by
  have only : (TableCall.insertMemory memory).DeletesOnly D := trivial
  exact stable.call only

theorem run {α : Type} {program : TableProgram α} (only : program.DeletesOnly D) :
    Preserves P program.run := by
  induction program with
  | done value => exact fun _ => id
  | call call next ih =>
    exact preserves_bind (fun t => stable.call only.1 t) fun answer => ih answer (only.2 answer)

end Stable

end HandleTable

namespace TlsPageList

variable {τ : Type} {P : τ → Prop} {mapPage : VirtAddr → Action τ VirtAddr}

theorem preserves_grow (h : ∀ requested, Preserves P (mapPage requested)) :
    Preserves (fun s => P s.2) (grow mapPage) := by
  refine preserves_bind (fun _ => id) fun list => ?_
  refine preserves_bind (fun _ => id) fun requested => ?_
  refine preserves_bind ?_ fun address => ?_
  · exact preserves_onPart (fun _ => id) (fun _ _ _ => id) (preserves_mapRefusal _ (h requested))
  · refine preserves_bind (fun _ => id) fun page => ?_
    refine preserves_bind (fun _ => id) fun _ => ?_
    exact preserves_bind (fun _ => id) fun _ => fun _ => id

theorem preserves_getSlot (h : ∀ requested, Preserves P (mapPage requested)) :
    Preserves (fun s => P s.2) (getSlot mapPage) := by
  refine preserves_bind (fun _ => id) fun found => ?_
  cases found with
  | some slot => exact fun _ => id
  | none =>
    refine preserves_bind (preserves_grow h) fun page => ?_
    refine preserves_bind (fun _ => id) fun taken => ?_
    exact preserves_bind (fun _ => id) fun _ => fun _ => id

end TlsPageList

namespace HandleTable.Stable

open GuestProcess

variable {M A F : Type} {D : Handle → Prop} {P : HandleTable → Prop} (stable : Stable D P)
include stable

section Storage
variable [RegionAllocator A]

theorem mapTlsPage (layout : GuestLayout) (requested : VirtAddr) :
    Preserves (fun t : HandleTable × A => P t.1) (GuestProcess.mapTlsPage layout requested) := by
  refine preserves_bind (fun _ => id) fun inside => ?_
  cases inside with
  | true =>
    refine preserves_bind (fun _ => id) fun memory => ?_
    refine preserves_bind ?_ fun _ => fun _ => id
    exact preserves_onPart (fun _ => id) (fun _ _ _ => id)
      (preserves_mapRefusal _ (stable.insertMemory memory))
  | false => exact fun _ => id

theorem getTlsSlot : Preserves (fun p : GuestProcess M A F => P p.handles)
    GuestProcess.getTlsSlot :=
  preserves_bind (fun _ => id) fun p =>
    preserves_onPart (fun _ => id) (fun _ _ _ => id)
      (TlsPageList.preserves_getSlot (stable.mapTlsPage p.config.layout))

theorem mapHeap : Preserves (fun p : GuestProcess M A F => P p.handles) GuestProcess.mapHeap := by
  refine preserves_bind (fun _ => id) fun p => ?_
  cases p.heap.isNone with
  | true =>
    refine preserves_bind (fun _ => id) fun memory => ?_
    refine preserves_bind ?_ fun handle => ?_
    · exact preserves_onPart (fun _ => id) (fun _ _ _ => id) (stable.insertMemory memory)
    · exact preserves_bind (fun _ => id) fun _ => fun _ => id
  | false => exact fun _ => id

theorem mapFirstTlsPage : Preserves (fun p : GuestProcess M A F => P p.handles)
    GuestProcess.mapFirstTlsPage := by
  refine preserves_bind (fun _ => id) fun p => ?_
  cases p.tlsPages.pages.isEmpty with
  | true =>
    refine preserves_bind ?_ fun _ => fun _ => id
    exact preserves_onPart (fun _ => id) (fun _ _ _ => id)
      (TlsPageList.preserves_grow (stable.mapTlsPage p.config.layout))
  | false => exact fun _ => id

end Storage

section Threads
variable [ThreadFactory F]

theorem makeThread {table : HandleTable} {factory : F} {params : ThreadParams}
    (only : (ThreadFactory.create factory params).DeletesOnly D) (holds : P table) :
    P (GuestKernel.makeThread params (table, factory)).state.1 := by
  rw [GuestKernel.makeThread, state_current_bind]
  refine preserves_bind_at (P := fun t : HandleTable × F => P t.1)
    (fun holds => stable.run only table holds) (fun made _ => ?_) holds
  exact preserves_bind (P := fun t : HandleTable × F => P t.1) (fun _ => id) (fun _ => fun _ => id) _

variable {entryPoint : VirtAddr} {entryArgument : UInt64} {stackTop : VirtAddr}
variable {priority : Priority}

theorem finishThread {p : GuestProcess M A F} (tls : VirtAddr) {handle : Handle}
    (only : ∀ params, (ThreadFactory.create p.factory params).DeletesOnly D)
    (binds : ∀ binding, Preserves P (HandleTable.bind handle binding)) (holds : P p.handles) :
    P (GuestProcess.finishThread entryPoint entryArgument stackTop priority tls handle
      p).state.handles := by
  rw [GuestProcess.finishThread, state_current_bind]
  refine preserves_bind_at (P := fun p : GuestProcess M A F => P p.handles)
    (fun holds => stable.makeThread (only _) holds) (fun made _ => ?_) holds
  refine preserves_bind (P := fun p : GuestProcess M A F => P p.handles) ?_ (fun _ => ?_) _
  · exact fun q => binds _ q.handles
  · refine preserves_bind (fun _ => id) fun _ => ?_
    exact preserves_bind (fun _ => id) fun _ => fun _ => id

variable [RegionAllocator A]

theorem createThread {p : GuestProcess M A F}
    (only : ∀ params, (ThreadFactory.create p.factory params).DeletesOnly D) (holds : P p.handles) :
    P (GuestProcess.createThread entryPoint entryArgument stackTop priority p).state.handles := by
  rw [createThread_eq]
  refine preserves_bind_at (P := fun p : GuestProcess M A F => P p.handles)
    (stable.getTlsSlot p) (fun tls _ earlier => ?_) holds
  refine preserves_bind_at (P := fun p : GuestProcess M A F => P p.handles)
    (fun holds => stable.reserve _ holds) (fun handle reserved holds => ?_) earlier
  obtain ⟨_, rfl, _⟩ := reserve_eq_ok reserved
  exact stable.finishThread tls only (fun binding u => stable.bind binding earlier) holds

theorem createMainThread {p : GuestProcess M A F}
    (only : ∀ params, (ThreadFactory.create p.factory params).DeletesOnly D) (holds : P p.handles) :
    P (GuestProcess.createMainThread entryPoint stackTop p).state.handles := by
  rw [GuestProcess.createMainThread, state_current_bind]
  refine preserves_bind_at (P := fun p : GuestProcess M A F => P p.handles)
    (stable.createThread only) (fun made _ => ?_) holds
  exact preserves_bind (P := fun p : GuestProcess M A F => P p.handles) (fun _ => id)
    (fun _ => fun _ => id) _

end Threads

theorem perform [MemoryChannel M] [RegionAllocator A] [ThreadFactory F] {p : GuestProcess M A F}
    {call : ProcessCall M A F} (only : call.DeletesOnly D p) (holds : P p.handles) :
    P (call.perform p).state.handles := by
  cases elsewhere : call.isElsewhere with
  | true =>
    have same := congrArg (fun core => core.2.1) (ProcessCall.keeps_core elsewhere p)
    change (call.perform p).state.handles = p.handles at same
    rwa [same]
  | false =>
    cases call with
    | initializeMemory =>
      exact preserves_bind stable.mapHeap (fun _ => stable.mapFirstTlsPage) p holds
    | getTlsSlot => exact stable.getTlsSlot p holds
    | table call => exact stable.call only p.handles holds
    | createThread => exact stable.createThread only holds
    | createMainThread => exact stable.createMainThread only holds
    | _ => cases elsewhere

end HandleTable.Stable

end GuestKernel
