import Mathlib
import GuestKernel.Proofs.Process.Heap
import GuestKernel.Proofs.Tls.Placement

/-!
# The memory of a process is mapped once

Mapping the memory of a process takes two steps, each of which does nothing if what it maps is there
and may fail if it is not. `HeapExit` and `FirstPageExit` list how each of them ends and for which
reason it fails: what is granted is mapped. `MemoryExit` lists how both end one after the other. From
these it is read off what a call asks of the allocator, which part of it has taken place when it
fails, and what a later call finds; over a run the heap and the pages are kept by every call.
-/

set_option autoImplicit false

namespace GuestKernel

open GuestKernel.Action

/-- An allocator with all requests that were made to it, the first one first. -/
structure Recorded (A : Type) where
  allocator : A
  requests : List RegionRequest

instance {A : Type} [RegionAllocator A] : RegionAllocator (Recorded A) where
  allocate recorded request :=
    ((RegionAllocator.allocate recorded.allocator request).1,
      ⟨(RegionAllocator.allocate recorded.allocator request).2, recorded.requests ++ [request]⟩)

namespace HandleTable

variable {table : HandleTable} {binding : Binding}

/-- So many handles were given out, and those given out before are bound to what they were. -/
structure Grown (t u : HandleTable) (count : Nat) : Prop where
  counter : u.counter = t.counter + count
  bindings : ∀ handle : Handle, handle.toNat < t.counter →
    u.bindings.get? handle = t.bindings.get? handle

theorem grown_self : Grown table table 0 := ⟨rfl, fun _ _ => rfl⟩

theorem grown_extended (room : table.next.toNat + 1 < UInt32.size) :
    Grown table (table.extended binding) 1 := by
  refine ⟨table.counter_advance room, fun handle given => ?_⟩
  have other : handle ≠ table.next := by
    rintro rfl
    exact Nat.lt_irrefl _ given
  exact (table.get?_extended ..).trans (if_neg other)

theorem Grown.trans {t u v : HandleTable} {m n : Nat} (h : Grown t u m) (next : Grown u v n) :
    Grown t v (m + n) := by
  refine ⟨?_, fun handle given => ?_⟩
  · rw [next.counter, h.counter, Nat.add_assoc]
  · rw [next.bindings handle (by rw [h.counter]; omega), h.bindings handle given]

end HandleTable

namespace TlsPageList

variable {τ : Type} {mapPage : VirtAddr → Action τ VirtAddr} {list : TlsPageList} {t : τ}
variable {count : Nat} {state : TlsPageList × τ}

theorem GrowExit.addresses_kept {outcome : Except Fault TlsPage}
    (exit : GrowExit mapPage list t outcome state) : list.addresses <+: state.1.addresses := by
  cases exit with
  | unasked high => exact List.prefix_rfl
  | unmapped next asked => exact List.prefix_rfl
  | mapped next asked =>
    rw [addresses_append]
    exact List.prefix_append _ _

theorem SlotExit.addresses_kept {outcome : Except Fault VirtAddr}
    (exit : SlotExit mapPage list count t outcome state) :
    list.addresses <+: state.1.addresses := by
  cases exit with
  | taken room found => rw [addresses_filledTo]
  | tooHigh room high => exact List.prefix_rfl
  | ungrown full grown => exact grown.addresses_kept
  | opened full grow found =>
    rw [addresses_filledTo]
    exact grow.addresses_kept
  | openedTooHigh full grow high => exact grow.addresses_kept

end TlsPageList

open TlsPageList

theorem TlsMove.addresses_kept {A : Type} [RegionAllocator A] {layout : GuestLayout}
    {list more : TlsPageList} {slot : Option VirtAddr} {count : Nat} (packed : list.Packed count)
    (move : TlsMove A layout list slot more) : list.addresses <+: more.addresses := by
  cases move with
  | idle => exact List.prefix_rfl
  | getSlot t => exact (getSlot_exit _ packed t).addresses_kept
  | grow t => exact (grow_exit _ list t).addresses_kept

namespace GuestProcess

section Exits
variable {M A F : Type}

def heapRequest (p : GuestProcess M A F) : RegionRequest :=
  .readWrite p.config.layout.heapBase p.config.heapSize .heap

def pageRequest (p : GuestProcess M A F) : RegionRequest :=
  .readWrite p.tlsPages.base pageSize .threadLocal

def missingHeap (p : GuestProcess M A F) : List RegionRequest :=
  if p.heap = none then [p.heapRequest] else []

def missingPage (p : GuestProcess M A F) : List RegionRequest :=
  if p.tlsPages.pages = [] then [p.pageRequest] else []

/-- What mapping the memory of a process has still to ask for. -/
def missing (p : GuestProcess M A F) : List RegionRequest := p.missingHeap ++ p.missingPage

variable [RegionAllocator A]

/-- Why the heap cannot be mapped, and the allocator after it. -/
inductive HeapRefusal (p : GuestProcess M A F) : KernelError → A → Prop where
  | refused {cause : KernelError} {allocator : A}
      (asked : RegionAllocator.allocate p.allocator p.heapRequest = (.error cause, allocator)) :
      HeapRefusal p cause allocator
  /-- What the allocator gives cannot be bound. -/
  | unbound {memory : MemoryObject} {allocator : A}
      (asked : RegionAllocator.allocate p.allocator p.heapRequest = (.ok memory, allocator))
      (used : UInt32.size ≤ p.handles.next.toNat + 1) :
      HeapRefusal p .handlesExhausted allocator

/-- The allocator grants the heap, and a handle is left for it. -/
structure HeapGrant (p : GuestProcess M A F) (memory : MemoryObject) (allocator : A) : Prop where
  asked : RegionAllocator.allocate p.allocator p.heapRequest = (.ok memory, allocator)
  room : p.handles.next.toNat + 1 < UInt32.size

def FirstPageGrant (p : GuestProcess M A F) (memory : MemoryObject) (allocator : A) : Prop :=
  PageGrant p.config.layout (p.handles, p.allocator) p.tlsPages.base memory allocator

def FirstPageRefusal (p : GuestProcess M A F) (reason : String) (allocator : A) : Prop :=
  PageRefusal p.config.layout (p.handles, p.allocator) p.tlsPages.base reason allocator

def withHeap (p : GuestProcess M A F) (memory : MemoryObject) (allocator : A) :
    GuestProcess M A F :=
  { p with
    allocator
    handles := p.handles.extended (.ofMemory memory)
    heap := some ⟨p.handles.next, memory⟩ }

def withPage (p : GuestProcess M A F) (memory : MemoryObject) (allocator : A) :
    GuestProcess M A F :=
  { p with
    allocator
    handles := p.handles.extended (.ofMemory memory)
    tlsPages := p.tlsPages.append (p.tlsPages.opening memory.region.address) }

inductive HeapExit (p : GuestProcess M A F) : Except Fault Unit → GuestProcess M A F → Prop where
  | present {owner : Owner} (mapped : p.heap = some owner) : HeapExit p (.ok ()) p
  | refused {cause : KernelError} {allocator : A} (unmapped : p.heap = none)
      (refusal : HeapRefusal p cause allocator) :
      HeapExit p (.error (.error cause)) { p with allocator }
  | mapped {memory : MemoryObject} {allocator : A} (unmapped : p.heap = none)
      (grant : HeapGrant p memory allocator) : HeapExit p (.ok ()) (p.withHeap memory allocator)

inductive FirstPageExit (p : GuestProcess M A F) :
    Except Fault Unit → GuestProcess M A F → Prop where
  | present (mapped : p.tlsPages.pages ≠ []) : FirstPageExit p (.ok ()) p
  | undecided (unmapped : p.tlsPages.pages = [])
      (high : p.config.layout.isTlsAddress p.tlsPages.base = .error .overflow) :
      FirstPageExit p (.error .overflow) p
  | refused {reason : String} {allocator : A} (unmapped : p.tlsPages.pages = [])
      (refusal : FirstPageRefusal p reason allocator) :
      FirstPageExit p (.error (.error (.unresolvedTlsAllocation p.tlsPages.base reason)))
        { p with allocator }
  | mapped {memory : MemoryObject} {allocator : A} (unmapped : p.tlsPages.pages = [])
      (grant : FirstPageGrant p memory allocator) :
      FirstPageExit p (.ok ()) (p.withPage memory allocator)

inductive MemoryExit (p : GuestProcess M A F) : Except Fault Unit → GuestProcess M A F → Prop where
  | atHeap {fault : Fault} {q : GuestProcess M A F} (heap : HeapExit p (.error fault) q) :
      MemoryExit p (.error fault) q
  | atPage {answer : Except Fault Unit} {q r : GuestProcess M A F} (heap : HeapExit p (.ok ()) q)
      (page : FirstPageExit q answer r) : MemoryExit p answer r

theorem mapHeap_exit (p : GuestProcess M A F) :
    HeapExit p (mapHeap p).outcome (mapHeap p).state := by
  cases found : p.heap with
  | some owner =>
    rw [mapHeap_of_some found]
    exact .present found
  | none =>
    simp only [mapHeap, Action.bind_apply, Action.current_apply, Action.andThen_ok, found,
      Option.isNone_none, if_true]
    rcases asked : RegionAllocator.allocate p.allocator p.heapRequest with ⟨answer, allocator⟩
    have step : onAllocator (M := M) (F := F) (allocateRegion p.heapRequest) p =
        ⟨answer.mapError .error, { p with allocator }, []⟩ := by
      simp only [onAllocator, Action.onPart_apply, allocateRegion, asked]
    simp only [heapRequest] at step
    simp only [step]
    cases answer with
    | error cause => exact .refused found (.refused asked)
    | ok memory =>
      simp only [Except.mapError, Action.andThen_ok, Action.bind_apply, onHandles,
        Action.onPart_apply]
      rcases p.handles.insertBinding_cases (.ofMemory memory) with
        ⟨room, log, bound⟩ | ⟨used, full⟩
      · change HandleTable.insertMemory memory p.handles = _ at bound
        rw [bound]
        exact .mapped found ⟨asked, room⟩
      · change HandleTable.insertMemory memory p.handles = _ at full
        rw [full]
        exact .refused found (.unbound asked used)

theorem mapFirstTlsPage_of_mapped {p : GuestProcess M A F} (mapped : p.tlsPages.pages ≠ []) :
    mapFirstTlsPage p = ⟨.ok (), p, []⟩ := by
  simp only [mapFirstTlsPage, Action.bind_apply, Action.current_apply, Action.andThen_ok,
    List.isEmpty_iff, if_neg mapped, Action.pure_apply, List.nil_append]

theorem mapFirstTlsPage_exit (p : GuestProcess M A F) :
    FirstPageExit p (mapFirstTlsPage p).outcome (mapFirstTlsPage p).state := by
  by_cases unmapped : p.tlsPages.pages = []
  · simp only [mapFirstTlsPage, Action.bind_apply, Action.current_apply, Action.andThen_ok,
      List.isEmpty_iff.mpr unmapped, if_true]
    have first : p.tlsPages.nextPageAddress = .ok p.tlsPages.base := by
      rw [nextPageAddress, unmapped]
      rfl
    have exit := grow_exit (mapTlsPage (A := A) p.config.layout) p.tlsPages (p.handles, p.allocator)
    rcases grown : grow (mapTlsPage p.config.layout) (p.tlsPages, p.handles, p.allocator) with
      ⟨answer, state, log⟩
    rw [grown] at exit
    simp only [onTlsPages, Action.onPart_apply, grown]
    cases exit with
    | unasked high => cases first.symm.trans high
    | @unmapped requested fault after _ next asked =>
      cases first.symm.trans next
      have page := mapTlsPage_exit p.config.layout p.tlsPages.base (p.handles, p.allocator)
      rw [asked] at page
      cases page with
      | undecided high => exact .undecided unmapped high
      | refused refusal => exact .refused unmapped refusal
    | @mapped requested address after _ next asked =>
      cases first.symm.trans next
      have page := mapTlsPage_exit p.config.layout p.tlsPages.base (p.handles, p.allocator)
      rw [asked] at page
      obtain ⟨memory, allocator, grant, rfl, rfl⟩ := page.grant_of_ok
      exact .mapped unmapped grant
  · rw [mapFirstTlsPage_of_mapped unmapped]
    exact .present unmapped

theorem initializeMemory_exit (p : GuestProcess M A F) :
    MemoryExit p (initializeMemory p).outcome (initializeMemory p).state := by
  have heap := mapHeap_exit p
  rw [initializeMemory, Action.bind_apply]
  rcases mapped : mapHeap p with ⟨answer, q, log⟩
  rw [mapped] at heap
  cases answer with
  | error fault => exact .atHeap heap
  | ok done => exact .atPage heap (mapFirstTlsPage_exit q)

variable {p q r : GuestProcess M A F} {answer : Except Fault Unit}
variable {memory : MemoryObject} {allocator : A}

/-- A heap that is granted is mapped, so a call maps it unless there is a reason not to. -/
theorem mapHeap_of_grant (unmapped : p.heap = none) (grant : HeapGrant p memory allocator) :
    (mapHeap p).outcome = .ok () ∧ (mapHeap p).state = p.withHeap memory allocator := by
  have exit := mapHeap_exit p
  generalize (mapHeap p).outcome = answer, (mapHeap p).state = q at exit ⊢
  cases exit with
  | present mapped => cases unmapped.symm.trans mapped
  | refused _ refusal =>
    cases refusal with
    | refused asked => cases grant.asked.symm.trans asked
    | unbound asked used => exact absurd grant.room (Nat.not_lt.mpr used)
  | mapped _ found =>
    cases grant.asked.symm.trans found.asked
    exact ⟨rfl, rfl⟩

theorem mapFirstTlsPage_of_grant (unmapped : p.tlsPages.pages = [])
    (grant : FirstPageGrant p memory allocator) :
    (mapFirstTlsPage p).outcome = .ok () ∧
      (mapFirstTlsPage p).state = p.withPage memory allocator := by
  have exit := mapFirstTlsPage_exit p
  generalize (mapFirstTlsPage p).outcome = answer, (mapFirstTlsPage p).state = q at exit ⊢
  cases exit with
  | present mapped => exact absurd unmapped mapped
  | undecided _ high => cases grant.inside.symm.trans high
  | refused _ refusal => exact absurd grant refusal.not_grant
  | mapped _ found =>
    cases grant.asked.symm.trans found.asked
    exact ⟨rfl, rfl⟩

theorem HeapExit.ok_iff (exit : HeapExit p answer q) : answer = .ok () ↔ q.heap ≠ none := by
  cases exit with
  | present mapped => simp [mapped]
  | refused unmapped => simp [unmapped]
  | mapped => simp [withHeap]

theorem FirstPageExit.ok_iff (exit : FirstPageExit p answer q) :
    answer = .ok () ↔ q.tlsPages.pages ≠ [] := by
  cases exit with
  | present mapped => simp [mapped]
  | undecided unmapped | refused unmapped => simp [unmapped]
  | mapped => simp [withPage, append]

theorem FirstPageExit.heap (exit : FirstPageExit p answer q) : q.heap = p.heap := by
  cases exit <;> rfl

theorem HeapExit.tlsPages (exit : HeapExit p answer q) : q.tlsPages = p.tlsPages := by
  cases exit <;> rfl

theorem HeapExit.config (exit : HeapExit p answer q) : q.config = p.config := by
  cases exit <;> rfl

theorem FirstPageExit.unmapped_of_error {fault : Fault} (exit : FirstPageExit p (.error fault) q) :
    p.tlsPages.pages = [] := by
  cases exit with
  | undecided unmapped | refused unmapped => exact unmapped

/-- Why the first page was not mapped, and that nothing but the allocator has changed. -/
theorem FirstPageExit.reason {fault : Fault} (exit : FirstPageExit p (.error fault) q) :
    fault = .overflow ∧ p.config.layout.isTlsAddress p.tlsPages.base = .error .overflow ∧ q = p ∨
      ∃ reason allocator, FirstPageRefusal p reason allocator ∧
        fault = .error (.unresolvedTlsAllocation p.tlsPages.base reason) ∧
        q = { p with allocator } := by
  cases exit with
  | undecided _ high => exact .inl ⟨rfl, high, rfl⟩
  | refused _ refusal => exact .inr ⟨_, _, refusal, rfl, rfl⟩

theorem MemoryExit.ok_iff (exit : MemoryExit p answer r) :
    answer = .ok () ↔ r.heap ≠ none ∧ r.tlsPages.pages ≠ [] := by
  cases exit with
  | atHeap heap =>
    refine iff_of_false nofun fun there => ?_
    cases heap.ok_iff.mpr there.1
  | atPage heap page =>
    have there := heap.ok_iff.mp rfl
    rw [page.ok_iff, page.heap]
    exact ⟨fun pages => ⟨there, pages⟩, And.right⟩

theorem initializeMemory_of_mapped (heap : p.heap ≠ none) (pages : p.tlsPages.pages ≠ []) :
    initializeMemory p = ⟨.ok (), p, []⟩ := by
  obtain ⟨owner, mapped⟩ := Option.ne_none_iff_exists'.mp heap
  rw [initializeMemory, Action.bind_apply, mapHeap_of_some mapped, Action.andThen_ok,
    mapFirstTlsPage_of_mapped pages]
  rfl

theorem HeapExit.missingPage (exit : HeapExit p answer q) : q.missingPage = p.missingPage := by
  unfold GuestProcess.missingPage pageRequest
  rw [exit.tlsPages]

theorem HeapExit.grown (exit : HeapExit p (.ok ()) q) :
    p.handles.Grown q.handles p.missingHeap.length := by
  cases exit with
  | present mapped =>
    rw [missingHeap, if_neg (by simp [mapped])]
    exact HandleTable.grown_self
  | mapped unmapped grant =>
    rw [missingHeap, if_pos unmapped]
    exact HandleTable.grown_extended grant.room

theorem FirstPageExit.grown (exit : FirstPageExit p (.ok ()) q) :
    p.handles.Grown q.handles p.missingPage.length := by
  cases exit with
  | present mapped =>
    rw [GuestProcess.missingPage, if_neg mapped]
    exact HandleTable.grown_self
  | mapped unmapped grant =>
    rw [GuestProcess.missingPage, if_pos unmapped]
    exact HandleTable.grown_extended grant.room

/-- A page that cannot be mapped leaves a heap, and nothing else that was not there before. -/
theorem FirstPageExit.failed_after {fault : Fault} (exit : FirstPageExit q (.error fault) r)
    (heap : HeapExit p (.ok ()) q) :
    r.tlsPages = p.tlsPages ∧ r.heap ≠ none ∧
      (p.heap ≠ none → r = { p with allocator := r.allocator }) := by
  have there : r.heap ≠ none := by
    rw [exit.heap]
    exact heap.ok_iff.mp rfl
  have pages : r.tlsPages = q.tlsPages := by
    cases exit <;> rfl
  refine ⟨pages.trans heap.tlsPages, there, fun before => ?_⟩
  cases heap with
  | present mapped => cases exit <;> rfl
  | mapped unmapped => exact absurd unmapped before

end Exits

section Recorded
variable {M A F : Type} [RegionAllocator A] {p q r : GuestProcess M (Recorded A) F}
variable {answer : Except Fault Unit}

theorem requests_of_asked {a b : Recorded A} {request : RegionRequest}
    {given : Except KernelError MemoryObject}
    (asked : RegionAllocator.allocate a request = (given, b)) :
    b.requests = a.requests ++ [request] := by
  cases asked
  rfl

theorem HeapExit.requests (exit : HeapExit p answer q) :
    q.allocator.requests = p.allocator.requests ++ p.missingHeap := by
  cases exit with
  | present mapped => rw [missingHeap, if_neg (by simp [mapped]), List.append_nil]
  | refused unmapped refusal =>
    rw [missingHeap, if_pos unmapped]
    cases refusal with
    | refused asked | unbound asked => exact requests_of_asked asked
  | mapped unmapped grant =>
    rw [missingHeap, if_pos unmapped]
    exact requests_of_asked grant.asked

theorem FirstPageExit.requests (exit : FirstPageExit p answer q) :
    ∃ asked, q.allocator.requests = p.allocator.requests ++ asked ∧ asked <+: p.missingPage ∧
      (answer = .ok () → asked = p.missingPage) := by
  cases exit with
  | present mapped =>
    rw [GuestProcess.missingPage, if_neg mapped]
    exact ⟨[], (List.append_nil _).symm, List.nil_prefix, fun _ => rfl⟩
  | undecided unmapped => exact ⟨[], (List.append_nil _).symm, List.nil_prefix, nofun⟩
  | refused unmapped refusal =>
    cases refusal with
    | outside out => exact ⟨[], (List.append_nil _).symm, List.nil_prefix, nofun⟩
    | refused _ asked | unbound _ asked =>
      rw [GuestProcess.missingPage, if_pos unmapped]
      exact ⟨_, requests_of_asked asked, List.prefix_rfl, fun _ => rfl⟩
  | mapped unmapped grant =>
    rw [GuestProcess.missingPage, if_pos unmapped]
    exact ⟨_, requests_of_asked grant.asked, List.prefix_rfl, fun _ => rfl⟩

theorem MemoryExit.requests (exit : MemoryExit p answer r) :
    ∃ asked, r.allocator.requests = p.allocator.requests ++ asked ∧ asked <+: p.missing ∧
      (answer = .ok () → asked = p.missing) := by
  cases exit with
  | atHeap heap => exact ⟨_, heap.requests, List.prefix_append _ _, nofun⟩
  | atPage heap page =>
    obtain ⟨asked, requests, few, all⟩ := page.requests
    rw [heap.missingPage] at few all
    refine ⟨p.missingHeap ++ asked, ?_, ?_, ?_⟩
    · rw [requests, heap.requests, List.append_assoc]
    · exact (List.prefix_append_right_inj _).mpr few
    · intro ok
      rw [all ok, missing]

/-- What a call has done that succeeds: what was missing, and nothing else. -/
structure Completed (p q : GuestProcess M (Recorded A) F) : Prop where
  requests : q.allocator.requests = p.allocator.requests ++ p.missing
  handles : p.handles.Grown q.handles p.missing.length
  heap : p.heap ≠ none → q.heap = p.heap
  pages : p.tlsPages.pages ≠ [] → q.tlsPages = p.tlsPages
  firstPage : p.tlsPages.pages = [] → ∃ page, q.tlsPages = p.tlsPages.append page

theorem MemoryExit.completed (exit : MemoryExit p (.ok ()) r) : Completed p r := by
  obtain ⟨asked, requests, _, all⟩ := exit.requests
  rw [all rfl] at requests
  cases exit with
  | atPage heap page =>
    have handles := heap.grown.trans page.grown
    rw [heap.missingPage, ← List.length_append] at handles
    refine ⟨requests, handles, ?_, ?_, ?_⟩
    · intro there
      rw [page.heap]
      cases heap with
      | present mapped => rfl
      | mapped unmapped => exact absurd unmapped there
    · intro there
      rw [← heap.tlsPages] at there ⊢
      cases page with
      | present mapped => rfl
      | mapped unmapped => exact absurd unmapped there
    · intro none
      rw [← heap.tlsPages] at none ⊢
      cases page with
      | present mapped => exact absurd none mapped
      | mapped => exact ⟨_, rfl⟩

/-- What a call does that maps the memory of a process in this state. -/
structure Initializes (p : GuestProcess M (Recorded A) F) : Prop where
  asks : ∃ asked, (initializeMemory p).state.allocator.requests = p.allocator.requests ++ asked ∧
    asked <+: p.missing
  ok_iff : (initializeMemory p).outcome = .ok () ↔
    (initializeMemory p).state.heap ≠ none ∧ (initializeMemory p).state.tlsPages.pages ≠ []
  idle : p.heap ≠ none → p.tlsPages.pages ≠ [] → initializeMemory p = ⟨.ok (), p, []⟩
  /-- A heap that is missing and is granted is mapped. -/
  mapsHeap : ∀ memory allocator, p.heap = none → HeapGrant p memory allocator →
    (mapHeap p).outcome = .ok () ∧ (mapHeap p).state = p.withHeap memory allocator
  /-- Once there is a heap, a first page that is missing and is granted is mapped, and the call
  succeeds. -/
  mapsPage : ∀ memory allocator, (mapHeap p).outcome = .ok () → p.tlsPages.pages = [] →
    FirstPageGrant (mapHeap p).state memory allocator →
      (initializeMemory p).outcome = .ok () ∧
        (initializeMemory p).state = (mapHeap p).state.withPage memory allocator
  /-- A heap that the call maps is bound under its handle, whatever comes after. -/
  bound : p.heap = none → InStep (initializeMemory p).state
  /-- The call fails at the heap only because that is refused. -/
  heapStep : ∀ fault, (mapHeap p).outcome = .error fault →
    p.heap = none ∧ ∃ cause allocator, HeapRefusal p cause allocator ∧ fault = .error cause ∧
      (initializeMemory p).outcome = .error fault ∧
      (initializeMemory p).state = { p with allocator }
  /-- The call fails at the first page only because it cannot be decided where that begins, or
  because it is refused. -/
  pageStep : ∀ fault, (mapHeap p).outcome = .ok () → (initializeMemory p).outcome = .error fault →
    p.tlsPages.pages = [] ∧
      (fault = .overflow ∧
          p.config.layout.isTlsAddress p.tlsPages.base = .error .overflow ∧
          (initializeMemory p).state = (mapHeap p).state ∨
        ∃ reason allocator, FirstPageRefusal (mapHeap p).state reason allocator ∧
          fault = .error (.unresolvedTlsAllocation p.tlsPages.base reason) ∧
          (initializeMemory p).state = { (mapHeap p).state with allocator }) ∧
      (initializeMemory p).state.tlsPages = p.tlsPages ∧ (initializeMemory p).state.heap ≠ none ∧
      (p.heap ≠ none →
        (initializeMemory p).state = { p with allocator := (initializeMemory p).state.allocator })
  completes : (initializeMemory p).outcome = .ok () → Completed p (initializeMemory p).state

/-- After the heap was mapped, mapping the memory comes to mapping the first page. -/
theorem initializeMemory_of_heap (ok : (mapHeap p).outcome = .ok ()) :
    (initializeMemory p).outcome = (mapFirstTlsPage (mapHeap p).state).outcome ∧
      (initializeMemory p).state = (mapFirstTlsPage (mapHeap p).state).state := by
  rw [initializeMemory, Action.bind_apply]
  rcases mapped : mapHeap p with ⟨outcome, q, log⟩
  rw [mapped] at ok
  cases ok
  exact ⟨rfl, rfl⟩

theorem initializes (p : GuestProcess M (Recorded A) F) : Initializes p := by
  have exit := initializeMemory_exit p
  refine ⟨?_, exit.ok_iff, initializeMemory_of_mapped, fun _ _ => mapHeap_of_grant, ?_,
    fun unmapped => ?_, ?_, ?_, fun ok => ?_⟩
  · obtain ⟨asked, requests, few, _⟩ := exit.requests
    exact ⟨asked, requests, few⟩
  · intro memory allocator ok unmapped grant
    have heap := mapHeap_exit p
    obtain ⟨outcome, state⟩ := initializeMemory_of_heap ok
    rw [outcome, state]
    exact mapFirstTlsPage_of_grant (heap.tlsPages ▸ unmapped) grant
  · have start : InStep p := fun owner mapped => by
      rw [unmapped] at mapped
      cases mapped
    exact preserves_bind inStep_mapHeap (fun _ => inStep_mapFirstTlsPage) p start
  · intro fault failed
    have heap := mapHeap_exit p
    rw [initializeMemory, Action.bind_apply]
    rcases mapped : mapHeap p with ⟨outcome, q, log⟩
    rw [mapped] at heap failed
    cases failed
    cases heap with
    | refused unmapped refusal => exact ⟨unmapped, _, _, refusal, rfl, rfl, rfl⟩
  · intro fault ok failed
    have heap := mapHeap_exit p
    have page := mapFirstTlsPage_exit (mapHeap p).state
    obtain ⟨outcome, state⟩ := initializeMemory_of_heap ok
    rw [outcome] at failed
    rw [state]
    rw [ok] at heap
    rw [failed] at page
    have pages := heap.tlsPages
    have config := heap.config
    refine ⟨?_, ?_, page.failed_after heap⟩
    · rw [← pages]
      exact page.unmapped_of_error
    · rw [← pages, ← config]
      exact page.reason
  · rw [ok] at exit
    exact exit.completed

end Recorded

end GuestProcess

open GuestProcess

namespace ProcessCall

variable {M A F : Type} [RegionAllocator A] {p : GuestProcess M A F}

/-- Whether a call gives out a handle for a heap. -/
def bindsHeap (p : GuestProcess M A F) : ProcessCall M A F → Bool
  | initializeMemory => decide ((mapHeap p).state.handles.next ≠ p.handles.next)
  | _ => false

theorem heaps_initializeMemory (p : GuestProcess M A F) :
    (GuestProcess.initializeMemory p).state.heap.toList.length =
      p.heap.toList.length + (bindsHeap p .initializeMemory).toNat := by
  have same : (GuestProcess.initializeMemory p).state.heap = (mapHeap p).state.heap :=
    Action.view_bind (fun _ => heap_mapFirstTlsPage) p
  have exit := mapHeap_exit p
  rw [same, bindsHeap]
  generalize (mapHeap p).outcome = answer, (mapHeap p).state = q at exit ⊢
  cases exit with
  | present mapped => simp
  | refused unmapped => simp [unmapped]
  | @mapped memory allocator unmapped grant =>
    have passed : (p.withHeap memory allocator).handles.next ≠ p.handles.next :=
      (UInt32.ne_of_lt (p.handles.next_lt grant.room)).symm
    rw [unmapped, decide_eq_true passed]
    rfl

variable [MemoryChannel M] [ThreadFactory F]

theorem heaps_perform (call : ProcessCall M A F) (p : GuestProcess M A F) :
    (call.perform p).state.heap.toList.length =
      p.heap.toList.length + (call.bindsHeap p).toNat := by
  by_cases initializes : call = .initializeMemory
  · rw [initializes]
    exact heaps_initializeMemory p
  · have binds : call.bindsHeap p = false := by
      cases call with
      | initializeMemory => exact absurd rfl initializes
      | _ => rfl
    have keeps := call.heap_perform.resolve_right initializes
    rw [keeps p, binds]
    rfl

end ProcessCall

namespace ProcessRun

section Counts
variable {M A F : Type} [MemoryChannel M] [RegionAllocator A] [ThreadFactory F]

/-- How many handles the process gave out for a heap in a run. -/
def heapBindings (s : ProcessRun M A F) : Nat :=
  s.calls.countP fun made => made.2.bindsHeap made.1

variable {config : ProcessConfig} {s : ProcessRun M A F}

theorem Reachable.heapBindings_eq (h : Reachable config s) :
    s.heapBindings = s.process.heap.toList.length := by
  induction h with
  | start => rfl
  | @call s _ call ih =>
    rw [heapBindings, after, List.countP_append, ← heapBindings, ih, call.heaps_perform,
      List.countP_singleton]
    cases call.bindsHeap s.process <;> rfl

theorem Reachable.heap_stays (h : Reachable config s) : ∀ made ∈ s.calls, ∀ owner,
    made.1.heap = some owner → s.process.heap = some owner := by
  induction h with
  | start => exact fun _ mem => absurd mem List.not_mem_nil
  | @call s _ call ih =>
    intro made mem owner mapped
    apply call.heap_of_some
    rcases List.mem_append.mp mem with earlier | last
    · exact ih made earlier owner mapped
    · rwa [List.mem_singleton.mp last] at mapped

theorem Reachable.packed (h : Reachable config s) :
    ∃ count, TlsRun.Kept ⟨s.process.tlsPages, s.slots⟩ count := by
  induction h with
  | start => exact ⟨0, .new _, rfl⟩
  | @call s _ call ih =>
    obtain ⟨count, kept⟩ := ih
    rw [slots_after]
    exact kept.move (call.moved s.process).pages

theorem Reachable.pages_stay (h : Reachable config s) : ∀ made ∈ s.calls,
    made.1.tlsPages.addresses <+: s.process.tlsPages.addresses := by
  induction h with
  | start => exact fun _ mem => absurd mem List.not_mem_nil
  | @call s reachable call ih =>
    intro made mem
    obtain ⟨count, kept⟩ := reachable.packed
    have step := (call.moved s.process).pages.addresses_kept kept.packed
    rcases List.mem_append.mp mem with earlier | last
    · exact (ih made earlier).trans step
    · rwa [List.mem_singleton.mp last]

theorem Reachable.mapped_of_success (h : Reachable config s) : ∀ made ∈ s.calls,
    made.2 = .initializeMemory → (initializeMemory made.1).outcome = .ok () →
      s.process.heap ≠ none ∧ s.process.tlsPages.pages ≠ [] := by
  induction h with
  | start => exact fun _ mem => absurd mem List.not_mem_nil
  | @call s reachable call ih =>
    intro made mem initializes ok
    rcases List.mem_append.mp mem with earlier | last
    · obtain ⟨heap, pages⟩ := ih made earlier initializes ok
      obtain ⟨owner, mapped⟩ := Option.ne_none_iff_exists'.mp heap
      obtain ⟨count, kept⟩ := reachable.packed
      have step := (call.moved s.process).pages.addresses_kept kept.packed
      refine ⟨?_, fun none => pages ?_⟩
      · rw [after, call.heap_of_some mapped]
        exact Option.some_ne_none owner
      · rw [← List.map_eq_nil_iff (f := TlsPage.address)]
        apply List.prefix_nil.mp
        have empty : (s.after call).process.tlsPages.addresses = [] := by
          rw [addresses, none, List.map_nil]
        rwa [← empty]
    · rw [List.mem_singleton.mp last] at initializes ok
      dsimp only at initializes ok
      subst initializes
      exact (initializeMemory_exit s.process).ok_iff.mp ok

end Counts

variable {M A F : Type} [MemoryChannel M] [RegionAllocator A] [ThreadFactory F]

/-- What a run has mapped, and what mapping the memory does next. -/
structure MapsOnce (s : ProcessRun M (Recorded A) F) : Prop where
  heap : ∀ made ∈ s.calls, ∀ owner, made.1.heap = some owner → s.process.heap = some owner
  bindings : s.heapBindings = s.process.heap.toList.length
  pages : ∀ made ∈ s.calls, made.1.tlsPages.addresses <+: s.process.tlsPages.addresses
  /-- After one success a call makes no request, gives out no handle, and changes nothing. -/
  settled : ∀ made ∈ s.calls, made.2 = .initializeMemory →
    (initializeMemory made.1).outcome = .ok () →
      initializeMemory s.process = ⟨.ok (), s.process, []⟩
  next : Initializes s.process

theorem Reachable.mapsOnce {config : ProcessConfig} {s : ProcessRun M (Recorded A) F}
    (h : Reachable config s) : MapsOnce s := by
  refine ⟨h.heap_stays, h.heapBindings_eq, h.pages_stay, ?_, initializes s.process⟩
  intro made mem init ok
  obtain ⟨heap, pages⟩ := h.mapped_of_success made mem init ok
  exact initializeMemory_of_mapped heap pages

/-- The allocator of a script, with these requests behind it. -/
def scripted (script : AllocatorScript) (requests : List RegionRequest) :
    Recorded ScriptedAllocator := ⟨{ ScriptedAllocator.new with script }, requests⟩

/-- First the heap is refused, then the page, which the third attempt maps; the handle of the heap is
deleted before the last. -/
theorem mapsOnce_after_failures :
    ∃ s : ProcessRun Window (Recorded ScriptedAllocator) ScriptedFactory, MapsOnce s ∧
      s.calls.map (fun made => (made.1.heap.isSome, made.1.tlsPages.pages.length)) =
        [(false, 0), (false, 0), (false, 0), (true, 0), (true, 0), (true, 1), (true, 1)] ∧
      s.slots = [] ∧ s.heapBindings = 1 ∧ s.process.tlsPages.pages.length = 1 ∧
      s.process.allocator.requests.map RegionRequest.purpose = [.threadLocal] := by
  have start : Reachable {} _ := .start 0 (Window.new 0x1000 0x1000)
    (scripted { heapRefusal := some .handlesExhausted } []) ScriptedFactory.new
  have unmapped := start.call .initializeMemory
  have other := unmapped.call (.replace
    (scripted { threadLocalRefusal := some .handlesExhausted } []) ScriptedFactory.new)
  have heap := other.call .initializeMemory
  have honest := heap.call (.replace (scripted {} []) ScriptedFactory.new)
  have mapped := honest.call .initializeMemory
  have deleted := mapped.call (.table (.deleteHandle 0xD000))
  have again := deleted.call .initializeMemory
  exact ⟨_, again.mapsOnce, by decide, by decide, by decide, by decide, by decide⟩

end ProcessRun

end GuestKernel
