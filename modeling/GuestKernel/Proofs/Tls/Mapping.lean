import Mathlib
import GuestKernel.Proofs.HandleTable.Contents
import GuestKernel.Scripted.Allocator

/-!
# How a process maps thread-local storage

`MapExit` lists the ways in which mapping a page can end, and `PageRefusal` the reasons for which it
is refused: a page that begins inside the area, that the allocator grants, and for which a handle is
left is mapped. The allocator is asked in none of the cases unless the page begins inside the area.
One that maps thread-local storage where it is asked to, or not at all, is a `PlacingAllocator`.
-/

set_option autoImplicit false

namespace GuestKernel

class PlacingAllocator (A : Type) extends RegionAllocator A where
  placed {allocator : A} {request : RegionRequest} {memory : MemoryObject} :
    request.purpose = .threadLocal →
      (RegionAllocator.allocate allocator request).1 = .ok memory →
      memory.region.address = request.region.address

/-- The scripted allocators that map every region where they are asked to. -/
def PlacingScript : Type := {allocator : ScriptedAllocator // allocator.script.address = none}

namespace PlacingScript

variable {allocator : ScriptedAllocator} {request : RegionRequest} {memory : MemoryObject}

theorem allocate_script (allocator : ScriptedAllocator) (request : RegionRequest) :
    (allocator.allocate request).2.script = allocator.script := by
  unfold ScriptedAllocator.allocate
  dsimp only
  split <;> rfl

theorem allocate_address (script : allocator.script.address = none)
    (h : (allocator.allocate request).1 = .ok memory) :
    memory.region.address = request.region.address := by
  unfold ScriptedAllocator.allocate at h
  dsimp only at h
  split at h
  · cases h
  · cases h
    simp only [script, Option.getD_none]

instance : PlacingAllocator PlacingScript where
  allocate allocator request :=
    ((allocator.val.allocate request).1, ⟨(allocator.val.allocate request).2, by
      rw [allocate_script]
      exact allocator.property⟩)
  placed := fun {allocator _ _} _ h => allocate_address allocator.property h

def new : PlacingScript := ⟨.new, rfl⟩

end PlacingScript

namespace GuestProcess

section Exits
variable {A : Type} [RegionAllocator A]

/-- Why a page cannot be mapped at an address: the text that says so, and the allocator after it. -/
inductive PageRefusal (layout : GuestLayout) (t : HandleTable × A) (requested : VirtAddr) :
    String → A → Prop where
  | outside (out : layout.isTlsAddress requested = .ok false) :
      PageRefusal layout t requested tlsAreaExhausted t.2
  | refused {cause : KernelError} {allocator : A}
      (inside : layout.isTlsAddress requested = .ok true)
      (asked : RegionAllocator.allocate t.2
        (.readWrite requested pageSize .threadLocal) = (.error cause, allocator)) :
      PageRefusal layout t requested cause.message allocator
  /-- What the allocator gives cannot be bound. -/
  | unbound {memory : MemoryObject} {allocator : A}
      (inside : layout.isTlsAddress requested = .ok true)
      (asked : RegionAllocator.allocate t.2
        (.readWrite requested pageSize .threadLocal) = (.ok memory, allocator))
      (used : UInt32.size ≤ t.1.next.toNat + 1) :
      PageRefusal layout t requested KernelError.handlesExhausted.message allocator

/-- The page begins inside the area, the allocator grants it, and a handle is left for it. -/
structure PageGrant (layout : GuestLayout) (t : HandleTable × A) (requested : VirtAddr)
    (memory : MemoryObject) (allocator : A) : Prop where
  inside : layout.isTlsAddress requested = .ok true
  asked : RegionAllocator.allocate t.2
    (.readWrite requested pageSize .threadLocal) = (.ok memory, allocator)
  room : t.1.next.toNat + 1 < UInt32.size

inductive MapExit (layout : GuestLayout) (requested : VirtAddr) (t : HandleTable × A) :
    Except Fault VirtAddr → HandleTable × A → Prop where
  | undecided (high : layout.isTlsAddress requested = .error .overflow) :
      MapExit layout requested t (.error .overflow) t
  | refused {reason : String} {allocator : A}
      (refusal : PageRefusal layout t requested reason allocator) :
      MapExit layout requested t (.error (.error (.unresolvedTlsAllocation requested reason)))
        (t.1, allocator)
  | mapped {memory : MemoryObject} {allocator : A}
      (grant : PageGrant layout t requested memory allocator) :
      MapExit layout requested t (.ok memory.region.address)
        (t.1.extended (.ofMemory memory), allocator)

/-- Outside the area the refusal does not depend on the allocator. -/
theorem mapTlsPage_of_outside {layout : GuestLayout} {requested : VirtAddr} (t : HandleTable × A)
    (out : layout.isTlsAddress requested = .ok false) :
    mapTlsPage layout requested t =
      ⟨.error (.error (.unresolvedTlsAllocation requested tlsAreaExhausted)), t, []⟩ := by
  simp only [mapTlsPage, Action.bind_apply, Action.done_apply, out, Action.andThen_ok,
    Bool.false_eq_true, if_false, Action.refuse_apply, List.nil_append]

section Asked
variable {layout : GuestLayout} {requested : VirtAddr} {t : HandleTable × A} {allocator : A}
variable (inside : layout.isTlsAddress requested = .ok true)
include inside

theorem mapTlsPage_of_refused {cause : KernelError}
    (asked : RegionAllocator.allocate t.2 (.readWrite requested pageSize .threadLocal) =
      (.error cause, allocator)) : mapTlsPage layout requested t =
        ⟨.error (.error (.unresolvedTls requested cause)), (t.1, allocator), []⟩ := by
  simp only [mapTlsPage, Action.bind_apply, Action.done_apply, inside, Action.andThen_ok, if_true,
    Action.onSecond, Action.onPart_apply, Action.mapRefusal, allocateRegion, asked,
    Except.mapError, Action.andThen_error, List.nil_append]

variable {memory : MemoryObject}
  (asked : RegionAllocator.allocate t.2 (.readWrite requested pageSize .threadLocal) =
    (.ok memory, allocator))
include asked

theorem mapTlsPage_of_unbound (used : UInt32.size ≤ t.1.next.toNat + 1) :
    mapTlsPage layout requested t =
      ⟨.error (.error (.unresolvedTls requested .handlesExhausted)), (t.1, allocator), []⟩ := by
  have full : HandleTable.insertMemory memory t.1 =
      ⟨.error (.error .handlesExhausted), t.1, []⟩ := by
    rcases t.1.insertBinding_cases (.ofMemory memory) with ⟨room, _⟩ | ⟨_, full⟩
    · omega
    · exact full
  simp only [mapTlsPage, Action.bind_apply, Action.done_apply, inside, Action.andThen_ok, if_true,
    Action.onSecond, Action.onPart_apply, Action.mapRefusal, allocateRegion, asked,
    Except.mapError, Action.onFirst, full, Action.andThen_error, List.nil_append]

/-- While there are handles left, what the allocator gives is bound to the next one. -/
theorem mapTlsPage_of_bound (room : t.1.next.toNat + 1 < UInt32.size) :
    ∃ log, mapTlsPage layout requested t =
      ⟨.ok memory.region.address, (t.1.extended (.ofMemory memory), allocator), log⟩ := by
  obtain ⟨log, bound⟩ : ∃ log, HandleTable.insertMemory memory t.1 =
      ⟨.ok t.1.next, t.1.extended (.ofMemory memory), log⟩ := by
    rcases t.1.insertBinding_cases (.ofMemory memory) with ⟨_, bound⟩ | ⟨used, _⟩
    · exact bound
    · omega
  refine ⟨log, ?_⟩
  simp only [mapTlsPage, Action.bind_apply, Action.done_apply, inside, Action.andThen_ok, if_true,
    Action.onSecond, Action.onPart_apply, Action.mapRefusal, allocateRegion, asked,
    Except.mapError, Action.onFirst, bound, Action.pure_apply, List.nil_append, List.append_nil]

end Asked

section Ends
variable {layout : GuestLayout} {requested : VirtAddr} {t : HandleTable × A} {allocator : A}

theorem mapTlsPage_of_refusal {reason : String}
    (h : PageRefusal layout t requested reason allocator) : mapTlsPage layout requested t =
      ⟨.error (.error (.unresolvedTlsAllocation requested reason)), (t.1, allocator), []⟩ := by
  cases h with
  | outside out => exact mapTlsPage_of_outside t out
  | refused inside asked => exact mapTlsPage_of_refused inside asked
  | unbound inside asked used => exact mapTlsPage_of_unbound inside asked used

theorem mapTlsPage_of_grant {memory : MemoryObject}
    (h : PageGrant layout t requested memory allocator) : ∃ log, mapTlsPage layout requested t =
      ⟨.ok memory.region.address, (t.1.extended (.ofMemory memory), allocator), log⟩ :=
  mapTlsPage_of_bound h.inside h.asked h.room

theorem PageRefusal.not_grant {reason : String} {memory : MemoryObject} {other : A}
    (h : PageRefusal layout t requested reason allocator) :
    ¬ PageGrant layout t requested memory other := by
  intro grant
  cases h with
  | outside out => cases grant.inside.symm.trans out
  | refused _ asked => cases grant.asked.symm.trans asked
  | unbound _ _ used => exact absurd grant.room (Nat.not_lt.mpr used)

/-- A page is refused unless it is granted, or it cannot be decided where it begins. -/
theorem grant_or_refusal (layout : GuestLayout) (requested : VirtAddr) (t : HandleTable × A) :
    layout.isTlsAddress requested = .error .overflow ∨
      (∃ memory allocator, PageGrant layout t requested memory allocator) ∨
      ∃ reason allocator, PageRefusal layout t requested reason allocator := by
  cases decided : layout.isTlsAddress requested with
  | error fault =>
    obtain ⟨rfl, _⟩ := GuestLayout.isTlsAddress_eq_error_iff.mp decided
    exact .inl rfl
  | ok inside =>
    refine .inr ?_
    cases inside with
    | false => exact .inr ⟨_, _, .outside decided⟩
    | true =>
      rcases asked : RegionAllocator.allocate t.2
        (RegionRequest.readWrite requested pageSize .threadLocal) with ⟨answer, allocator⟩
      cases answer with
      | error cause => exact .inr ⟨_, _, .refused decided asked⟩
      | ok memory =>
        rcases Nat.lt_or_ge (t.1.next.toNat + 1) UInt32.size with room | used
        · exact .inl ⟨memory, allocator, decided, asked, room⟩
        · exact .inr ⟨_, _, .unbound decided asked used⟩

theorem mapTlsPage_exit (layout : GuestLayout) (requested : VirtAddr) (t : HandleTable × A) :
    MapExit layout requested t (mapTlsPage layout requested t).outcome
      (mapTlsPage layout requested t).state := by
  rcases grant_or_refusal layout requested t with
    high | ⟨memory, allocator, grant⟩ | ⟨reason, allocator, refusal⟩
  · simp only [mapTlsPage, Action.bind_apply, Action.done_apply, high, Action.andThen_error]
    exact .undecided high
  · obtain ⟨log, mapped⟩ := mapTlsPage_of_grant grant
    rw [mapped]
    exact .mapped grant
  · rw [mapTlsPage_of_refusal refusal]
    exact .refused refusal

/-- Mapping a page overflows only where it cannot be decided whether the page is inside. -/
theorem MapExit.undecided_of_overflow {after : HandleTable × A}
    (exit : MapExit layout requested t (.error .overflow) after) :
    layout.isTlsAddress requested = .error .overflow := by
  cases exit with
  | undecided high => exact high

/-- A page that is not mapped takes no handle. -/
theorem MapExit.handles_of_error {fault : Fault} {after : HandleTable × A}
    (exit : MapExit layout requested t (.error fault) after) : after.1 = t.1 := by
  cases exit <;> rfl

theorem MapExit.grant_of_ok {address : VirtAddr} {after : HandleTable × A}
    (exit : MapExit layout requested t (.ok address) after) : ∃ memory allocator,
      PageGrant layout t requested memory allocator ∧ address = memory.region.address ∧
        after = (t.1.extended (.ofMemory memory), allocator) := by
  cases exit with
  | mapped grant => exact ⟨_, _, grant, rfl, rfl⟩

end Ends

end Exits

/-- A page is mapped where it was asked for, and begins inside the area. -/
theorem mapTlsPage_ok {A : Type} [PlacingAllocator A] {layout : GuestLayout}
    {requested address : VirtAddr} {t after : HandleTable × A} {log : List LogRecord}
    (h : mapTlsPage layout requested t = ⟨.ok address, after, log⟩) :
    address = requested ∧ layout.isTlsAddress requested = .ok true := by
  have exit := mapTlsPage_exit layout requested t
  rw [h] at exit
  obtain ⟨memory, allocator, grant, rfl, _⟩ := exit.grant_of_ok
  exact ⟨PlacingAllocator.placed rfl (congrArg Prod.fst grant.asked), grant.inside⟩

end GuestProcess

end GuestKernel
