import Mathlib
import GuestKernel.Proofs.Process.Core
import GuestKernel.Proofs.Tls.Mapping

/-!
# What a call of a process does to its thread-local storage

To the pages a call does one of three things, `TlsMove`: nothing, taking a slot, or mapping one page
more. `ProcessCall.slot?` says which slot it takes, and `ProcessCall.moved` that this is all.
-/

set_option autoImplicit false

namespace GuestKernel

open TlsPageList GuestProcess

/-- What a call may do to a list of pages, with the slot that it takes. -/
inductive TlsMove (A : Type) [RegionAllocator A] (layout : GuestLayout) (list : TlsPageList) :
    Option VirtAddr → TlsPageList → Prop where
  | idle : TlsMove A layout list none list
  | getSlot (t : HandleTable × A) :
      TlsMove A layout list (getSlot (mapTlsPage layout) (list, t)).outcome.toOption
        (getSlot (mapTlsPage layout) (list, t)).state.1
  | grow (t : HandleTable × A) :
      TlsMove A layout list none (grow (mapTlsPage layout) (list, t)).state.1

namespace GuestProcess

variable {M A F α : Type}

/-- What mapping pages and taking slots go by. -/
def tlsView (p : GuestProcess M A F) : ProcessConfig × TlsPageList := (p.config, p.tlsPages)

section Keeps
open GuestKernel.Action

theorem keeps_onHandles (a : Action HandleTable α) :
    (onHandles a).Keeps (tlsView (M := M) (A := A) (F := F)) := fun _ => rfl

theorem keeps_mapHeap [RegionAllocator A] : (mapHeap (M := M) (A := A) (F := F)).Keeps tlsView := by
  refine keeps_bind keeps_current fun p => ?_
  dsimp only
  split
  · refine keeps_bind (fun _ => rfl) fun memory => ?_
    exact keeps_bind (keeps_onHandles _) fun handle =>
      keeps_bind (keeps_note _) fun _ => keeps_update fun _ => rfl
  · exact keeps_pure ()

end Keeps

section Moved
variable [RegionAllocator A]

/-- The pages and the configuration of a process after a call that takes this slot. -/
structure Moved (p : GuestProcess M A F) (slot : Option VirtAddr) (q : GuestProcess M A F) :
    Prop where
  config : q.config = p.config
  pages : TlsMove A p.config.layout p.tlsPages slot q.tlsPages

namespace Moved

variable {p q r : GuestProcess M A F} {slot : Option VirtAddr}

theorem congr (h : Moved p slot q) (same : r.tlsView = q.tlsView) : Moved p slot r := by
  obtain ⟨config, pages⟩ := Prod.mk.inj same
  change r.tlsPages = q.tlsPages at pages
  refine ⟨config.trans h.config, ?_⟩
  rw [pages]
  exact h.pages

theorem keep (same : q.tlsView = p.tlsView) : Moved p none q := congr ⟨rfl, .idle⟩ same

theorem of_keep (same : q.tlsView = p.tlsView) (h : Moved q slot r) : Moved p slot r := by
  obtain ⟨config, pages⟩ := Prod.mk.inj same
  change q.config = p.config at config
  change q.tlsPages = p.tlsPages at pages
  refine ⟨h.config.trans config, ?_⟩
  rw [← config, ← pages]
  exact h.pages

theorem getTlsSlot (p : GuestProcess M A F) :
    Moved p (GuestProcess.getTlsSlot p).outcome.toOption (GuestProcess.getTlsSlot p).state :=
  ⟨rfl, .getSlot (p.handles, p.allocator)⟩

theorem mapFirstTlsPage (p : GuestProcess M A F) :
    Moved p none (GuestProcess.mapFirstTlsPage p).state := by
  simp only [GuestProcess.mapFirstTlsPage, Action.bind_apply, Action.current_apply,
    Action.andThen_ok]
  split
  · have grown : Moved p none (onTlsPages (TlsPageList.grow (mapTlsPage p.config.layout)) p).state :=
      ⟨rfl, .grow (p.handles, p.allocator)⟩
    exact grown.congr (Action.view_bind (fun _ => Action.keeps_pure ()) p)
  · exact keep rfl

theorem initializeMemory (p : GuestProcess M A F) :
    Moved p none (GuestProcess.initializeMemory p).state := by
  have heap := keeps_mapHeap p
  unfold GuestProcess.initializeMemory
  rw [Action.bind_apply]
  rcases mapped : GuestProcess.mapHeap p with ⟨answer, q, log⟩
  rw [mapped] at heap
  cases answer with
  | error fault => exact keep heap
  | ok done => exact of_keep heap (mapFirstTlsPage q)

end Moved

end Moved

variable [ThreadFactory F]

theorem tlsView_createThread [RegionAllocator A] (entryPoint : VirtAddr) (entryArgument : UInt64)
    (stackTop : VirtAddr) (priority : Priority) (p : GuestProcess M A F) :
    (createThread entryPoint entryArgument stackTop priority p).state.tlsView =
      (getTlsSlot p).state.tlsView := by
  rw [createThread_eq]
  refine Action.view_bind (fun tls => ?_) p
  exact Action.keeps_bind (keeps_onHandles _) fun handle =>
    keeps_finishThread _ _ _ _ (fun _ _ _ _ => rfl) tls handle

theorem tlsView_createMainThread [RegionAllocator A] (entryPoint stackTop : VirtAddr)
    (p : GuestProcess M A F) :
    (createMainThread entryPoint stackTop p).state.tlsView = (getTlsSlot p).state.tlsView := by
  have rest : ∀ made : Handle × ThreadObject, Action.Keeps (tlsView (M := M) (A := A) (F := F)) do
      .update fun p => { p with mainThread := some made.2.thread.tid }
      return made :=
    fun made => Action.keeps_bind (Action.keeps_update fun _ => rfl) fun _ => Action.keeps_pure made
  refine Eq.trans ?_ (tlsView_createThread entryPoint 0 stackTop p.config.defaultPriority p)
  exact Action.view_bind rest p

end GuestProcess

namespace ProcessCall

variable {M A F : Type} [RegionAllocator A]

/-- The slot that a call takes, also for a thread that is not made in the end. -/
def slot? (p : GuestProcess M A F) : ProcessCall M A F → Option VirtAddr
  | getTlsSlot | createThread .. | createMainThread .. =>
    (GuestProcess.getTlsSlot p).outcome.toOption
  | _ => none

theorem slot?_eq_none {call : ProcessCall M A F} (elsewhere : call.isElsewhere = true)
    (p : GuestProcess M A F) : call.slot? p = none := by
  cases call with
  | getTlsSlot => cases elsewhere
  | createThread => cases elsewhere
  | createMainThread => cases elsewhere
  | _ => rfl

variable [MemoryChannel M] [ThreadFactory F]

theorem moved (call : ProcessCall M A F) (p : GuestProcess M A F) :
    Moved p (call.slot? p) (call.perform p).state := by
  cases elsewhere : call.isElsewhere with
  | true =>
    rw [slot?_eq_none elsewhere]
    exact .keep (congrArg (fun core => (core.1, core.2.2)) (keeps_core elsewhere p))
  | false =>
    cases call with
    | initializeMemory => exact .initializeMemory p
    | getTlsSlot => exact .getTlsSlot p
    | table call => exact .keep (keeps_onHandles call.perform p)
    | createThread entryPoint entryArgument stackTop priority =>
      exact (Moved.getTlsSlot p).congr
        (tlsView_createThread entryPoint entryArgument stackTop priority p)
    | createMainThread entryPoint stackTop =>
      exact (Moved.getTlsSlot p).congr (tlsView_createMainThread entryPoint stackTop p)
    | _ => cases elsewhere

end ProcessCall

end GuestKernel
