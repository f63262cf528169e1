import Mathlib
import GuestKernel.Memory.Window
import GuestKernel.Proofs.Process.Initialization
import GuestKernel.Scripted.Factory

/-!
# How taking a slot is refused

Taking a slot of thread-local storage is refused in one way only: every page is full and the next
one cannot be mapped. `PageRefusal` lists the reasons for that, each with the text that the refusal
gives and with the allocator afterwards; of the process nothing else changes. The text for a page
outside the area is no other's, so it tells that the allocator was not asked.
-/

set_option autoImplicit false

namespace GuestKernel

open TlsPageList

/-- The address lies in the area for thread-local storage. -/
def GuestLayout.InArea (layout : GuestLayout) (address : VirtAddr) : Prop :=
  layout.tlsBase.toNat ≤ address.toNat ∧
    address.toNat < layout.tlsBase.toNat + layout.tlsSize.toNat

theorem GuestLayout.inArea_of_inside {layout : GuestLayout} {address : VirtAddr}
    (inside : layout.isTlsAddress address = .ok true) : layout.InArea address := by
  obtain ⟨low, high, _⟩ := isTlsAddress_eq_true_iff.mp inside
  exact ⟨low, high⟩

theorem GuestLayout.not_inArea_of_outside {layout : GuestLayout} {address : VirtAddr}
    (outside : layout.isTlsAddress address = .ok false) : ¬ layout.InArea address := by
  rintro ⟨low, high⟩
  rcases Nat.lt_or_ge (layout.tlsBase.toNat + layout.tlsSize.toNat) UInt64.size with fits | large
  · cases outside.symm.trans (isTlsAddress_eq_true_iff.mpr ⟨low, high, fits⟩)
  · cases outside.symm.trans (isTlsAddress_eq_error_iff.mpr ⟨rfl, low, large⟩)

/-- The texts have different characters at some place. -/
def Apart (text other : String) : Prop :=
  ∃ (i : Nat) (c d : Char), text.toList[i]? = some c ∧ other.toList[i]? = some d ∧ c ≠ d

theorem Apart.append {text other : String} (h : Apart text other) (rest : String) :
    Apart (text ++ rest) other := by
  obtain ⟨i, c, d, here, there, differ⟩ := h
  refine ⟨i, c, d, ?_, there, differ⟩
  have inside := (List.getElem?_eq_some_iff.mp here).1
  rw [String.toList_append, List.getElem?_append_left inside, here]

theorem Apart.ne {text other : String} (h : Apart text other) : text ≠ other := by
  rintro rfl
  obtain ⟨i, c, d, here, there, differ⟩ := h
  exact differ (Option.some.inj (here.symm.trans there))

namespace GuestProcess

/-- What each cause of a refusal says tells it from an area that is exhausted. -/
theorem apart_message (cause : KernelError) : Apart cause.message tlsAreaExhausted := by
  have starts : ∀ (start : String) (i : Nat) (c d : Char), start.toList[i]? = some c →
      tlsAreaExhausted.toList[i]? = some d → c ≠ d → Apart start tlsAreaExhausted :=
    fun start i c d here there differ => ⟨i, c, d, here, there, differ⟩
  -- the first piece of the text is enough, whatever is put in behind it
  cases cause with
  | invalidHandle =>
    have start := starts "Invalid handle: " 0 'I' 'T' rfl rfl (by decide)
    exact start.append _
  | typeMismatch =>
    have start := starts "Tried to get kernel object (" 1 'r' 'L' rfl rfl (by decide)
    exact ((((start.append _).append _).append _).append _).append _
  | memoryAccessFailure =>
    have start := starts "Memory access failure at " 0 'M' 'T' rfl rfl (by decide)
    exact ((((start.append _).append _).append _).append _).append _
  | unresolvedTlsAllocation =>
    have start := starts "Unable to allocate TLS page at " 0 'U' 'T' rfl rfl (by decide)
    exact ((start.append _).append _).append _
  | regionAllocation =>
    have start := starts "Unable to allocate region " 0 'U' 'T' rfl rfl (by decide)
    exact ((((start.append _).append _).append _).append _).append _
  | handlesExhausted => exact starts "Handle table exhausted" 0 'H' 'T' rfl rfl (by decide)
  | slotOutOfRange =>
    have start := starts "TLS slot out of range: " 3 ' ' '/' rfl rfl (by decide)
    exact start.append _
  | invalidStateTransition =>
    have start := starts "Invalid process state transition: " 0 'I' 'T' rfl rfl (by decide)
    exact ((start.append _).append _).append _
  | channelOpen =>
    have start := starts "Unable to open memory channel " 0 'U' 'T' rfl rfl (by decide)
    exact ((start.append _).append _).append _

section Refusals
variable {A : Type} [RegionAllocator A]

variable {layout : GuestLayout} {t after : HandleTable × A} {requested : VirtAddr}
variable {reason : String} {allocator : A}

theorem refusal_of_failed {fault : Fault}
    (failed : (mapTlsPage layout requested t).outcome = .error fault) :
    fault = .overflow ∨ ∃ reason allocator, PageRefusal layout t requested reason allocator := by
  have exit := mapTlsPage_exit layout requested t
  rw [failed] at exit
  generalize ended : Except.error fault = outcome,
    (mapTlsPage layout requested t).state = after at exit
  cases exit with
  | undecided high =>
    cases ended
    exact .inl rfl
  | refused refusal => exact .inr ⟨_, _, refusal⟩
  | mapped grant => cases ended

theorem PageRefusal.exhausted_iff (h : PageRefusal layout t requested reason allocator) :
    reason = tlsAreaExhausted ↔ ¬ layout.InArea requested := by
  cases h with
  | outside out => exact iff_of_true rfl (GuestLayout.not_inArea_of_outside out)
  | @refused cause _ inside asked =>
    exact iff_of_false (apart_message cause).ne (not_not_intro (GuestLayout.inArea_of_inside inside))
  | unbound inside asked used =>
    exact iff_of_false (apart_message _).ne (not_not_intro (GuestLayout.inArea_of_inside inside))

/-- The allocator is asked exactly if the page begins in the area. -/
theorem PageRefusal.asks (h : PageRefusal layout t requested reason allocator) :
    allocator = t.2 ∧ ¬ layout.InArea requested ∨ layout.InArea requested ∧ ∃ answer,
      RegionAllocator.allocate t.2 (.readWrite requested pageSize .threadLocal) =
        (answer, allocator) := by
  cases h with
  | outside out => exact .inl ⟨rfl, GuestLayout.not_inArea_of_outside out⟩
  | refused inside asked => exact .inr ⟨GuestLayout.inArea_of_inside inside, _, asked⟩
  | unbound inside asked used => exact .inr ⟨GuestLayout.inArea_of_inside inside, _, asked⟩

end Refusals

section Slots
variable {M A F : Type} [RegionAllocator A]

/-- Every page is full and the next one cannot be mapped. -/
structure SlotRefusal (p : GuestProcess M A F) (requested : VirtAddr) (reason : String)
    (allocator : A) : Prop where
  full : ∀ page ∈ p.tlsPages.pages, page.isFull = true
  next : p.tlsPages.nextPageAddress = .ok requested
  page : PageRefusal p.config.layout (p.handles, p.allocator) requested reason allocator

variable {p : GuestProcess M A F} {count : Nat} {requested : VirtAddr} {reason : String}
variable {allocator : A}

theorem getTlsSlot_of_refusal (packed : p.tlsPages.Packed count)
    (h : SlotRefusal p requested reason allocator) : getTlsSlot p =
      ⟨.error (.error (.unresolvedTlsAllocation requested reason)), { p with allocator }, []⟩ := by
  have slot := getSlot_of_refused packed (packed.all_full_iff.mp h.full) h.next
    (mapTlsPage_of_refusal h.page)
  simp only [getTlsSlot, Action.bind_apply, Action.current_apply, Action.andThen_ok, onTlsPages,
    Action.onPart_apply, slot, List.nil_append]
  rfl

theorem slotRefusal_of_failed (packed : p.tlsPages.Packed count) {fault : Fault}
    (failed : (getTlsSlot p).outcome = .error fault) :
    fault = .overflow ∨ ∃ requested reason allocator, SlotRefusal p requested reason allocator := by
  have exit := getSlot_exit (mapTlsPage p.config.layout) packed (p.handles, p.allocator)
  change (getSlot (mapTlsPage p.config.layout) (p.tlsPages, p.handles, p.allocator)).outcome = _
    at failed
  rw [failed] at exit
  generalize ended : Except.error fault = outcome,
    (getSlot (mapTlsPage p.config.layout) (p.tlsPages, p.handles, p.allocator)).state = after
    at exit
  cases exit with
  | taken room found => cases ended
  | tooHigh room high =>
    cases ended
    exact .inl rfl
  | opened full grow found => cases ended
  | openedTooHigh full grow high =>
    cases ended
    exact .inl rfl
  | @ungrown found state full grown =>
    cases ended
    generalize refused : Except.error fault = answer at grown
    cases grown with
    | unasked high =>
      cases refused
      exact .inl rfl
    | mapped next asked => cases refused
    | @unmapped requested found after log next asked =>
      cases refused
      rcases refusal_of_failed (congrArg Effect.outcome asked) with rfl | ⟨reason, allocator, page⟩
      · exact .inl rfl
      · exact .inr ⟨requested, reason, allocator, packed.all_full_iff.mpr full, next, page⟩

end Slots

/-- How taking a slot can fail in this state, and what a refusal leaves. -/
structure SlotRefusals {M A F : Type} [RegionAllocator A] (p : GuestProcess M (Recorded A) F) :
    Prop where
  error_iff : ∀ cause, (getTlsSlot p).outcome = .error (.error cause) ↔
    ∃ requested reason allocator, SlotRefusal p requested reason allocator ∧
      cause = .unresolvedTlsAllocation requested reason
  overflow : ∀ fault, (getTlsSlot p).outcome = .error fault → (∀ cause, fault ≠ .error cause) →
    fault = .overflow
  /-- Nothing but the allocator changes: no page, no binding, no handle given out. -/
  traceless : ∀ requested reason allocator, SlotRefusal p requested reason allocator →
    (getTlsSlot p).state = { p with allocator }
  exhausted_iff : ∀ requested reason allocator, SlotRefusal p requested reason allocator →
    (reason = tlsAreaExhausted ↔ ¬ p.config.layout.InArea requested)
  unasked : ∀ requested reason allocator, SlotRefusal p requested reason allocator →
    ¬ p.config.layout.InArea requested → allocator = p.allocator
  asked : ∀ requested reason allocator, SlotRefusal p requested reason allocator →
    p.config.layout.InArea requested → allocator.requests =
      p.allocator.requests ++ [.readWrite requested pageSize .threadLocal]

end GuestProcess

namespace ProcessRun

open GuestProcess

variable {M A F : Type} [MemoryChannel M] [RegionAllocator A] [ThreadFactory F]

theorem Reachable.slotRefusals {config : ProcessConfig} {s : ProcessRun M (Recorded A) F}
    (h : Reachable config s) : SlotRefusals s.process := by
  obtain ⟨count, kept⟩ := h.packed
  have packed : s.process.tlsPages.Packed count := kept.packed
  have effect : ∀ {requested reason allocator}, SlotRefusal s.process requested reason allocator →
      getTlsSlot s.process = ⟨.error (.error (.unresolvedTlsAllocation requested reason)),
        { s.process with allocator }, []⟩ := fun refusal => getTlsSlot_of_refusal packed refusal
  refine ⟨fun cause => ?_, ?_, ?_, ?_, ?_, ?_⟩
  · constructor
    · intro failed
      rcases slotRefusal_of_failed packed failed with
        overflow | ⟨requested, reason, allocator, refusal⟩
      · cases overflow
      · refine ⟨requested, reason, allocator, refusal, ?_⟩
        rw [effect refusal] at failed
        cases failed
        rfl
    · rintro ⟨requested, reason, allocator, refusal, rfl⟩
      rw [effect refusal]
  · intro fault failed other
    rcases slotRefusal_of_failed packed failed with
      overflow | ⟨requested, reason, allocator, refusal⟩
    · exact overflow
    · rw [effect refusal] at failed
      cases failed
      exact absurd rfl (other _)
  · intro requested reason allocator refusal
    rw [effect refusal]
  · intro requested reason allocator refusal
    exact refusal.page.exhausted_iff
  · intro requested reason allocator refusal out
    rcases refusal.page.asks with ⟨same, _⟩ | ⟨inside, _⟩
    · exact same
    · exact absurd inside out
  · intro requested reason allocator refusal inside
    rcases refusal.page.asks with ⟨_, out⟩ | ⟨_, answer, asked⟩
    · exact absurd inside out
    · exact requests_of_asked asked

/-- A page that is full, and an allocator whose refusal is one of thread-local storage already. -/
theorem slotRefusals_with_nested_cause :
    ∃ s : ProcessRun Window (Recorded ScriptedAllocator) ScriptedFactory,
      s.process.tlsPages.pages.length = 1 ∧
      (getTlsSlot s.process).outcome = .error (.error (.unresolvedTlsAllocation 0x06001000
        "Unable to allocate TLS page at 0x1234: no space")) ∧ SlotRefusals s.process := by
  have start : Reachable {} _ := .start 0 (Window.new 0x1000 0x1000) (scripted {} [])
    ScriptedFactory.new
  have first := (start.call .getTlsSlot).call .getTlsSlot
  have third := (first.call .getTlsSlot).call .getTlsSlot
  have fifth := (third.call .getTlsSlot).call .getTlsSlot
  have full := fifth.call .getTlsSlot
  have refusing := full.call (.replace (scripted
    { threadLocalRefusal := some (.unresolvedTlsAllocation 0x1234 "no space") } [])
    ScriptedFactory.new)
  exact ⟨_, by decide, by decide, refusing.slotRefusals⟩

end ProcessRun

end GuestKernel
