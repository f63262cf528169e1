import Mathlib
import GuestKernel.Memory.Window
import GuestKernel.Proofs.Wait.Accounted

/-!
# No wake is lost and none is doubled

In every run, whatever its steps and whatever the accesses to guest memory do, an entry is queued
with its flag clear, or was woken by one unlock or one signal, or has ended its own wait. So what
unlocks and signals say they have woken adds up to the number of flags that are set.
-/

set_option autoImplicit false

namespace GuestKernel

/-- What can have become of an entry. -/
inductive WaitFate where
  | queued
  | woken
  | timedOut
  deriving DecidableEq

namespace WaitRun

open GuestProcess

variable {M A F : Type} {s : WaitRun M A F} {place : WaitPlace} {e : WaitEntry}

/-- How often an entry is queued at a place. -/
def timesQueued (s : WaitRun M A F) (place : WaitPlace) (e : WaitEntry) : Nat :=
  (s.process.queueOf place).countP fun x => x.id == e.id

/-- What it means for the entry that arrived at a place to have this fate. -/
def Fares (s : WaitRun M A F) (place : WaitPlace) (e : WaitEntry) : WaitFate → Prop
  | .queued => s.timesQueued place e = 1 ∧ (∀ other, other ≠ place → s.timesQueued other e = 0) ∧
      s.process.wakes.isWoken e = false
  | .woken => (∀ other, s.timesQueued other e = 0) ∧ s.process.wakes.isWoken e = true ∧
      (woken s.events).count e = 1 ∧ ∃ event ∈ s.events, event.place = place ∧ e ∈ event.woke
  | .timedOut => (∀ other, s.timesQueued other e = 0) ∧ s.process.wakes.isWoken e = false ∧
      (expired s.events).count e = 1 ∧
      ∃ address, place = .condition address ∧ .returned address e false ∈ s.events

/-- The number of unlocks that answered that they woke a thread. -/
def handovers (events : List WaitEvent) : Nat :=
  events.countP fun event => match event with
    | .handed _ _ => true
    | _ => false

/-- The sum of what signals answered. -/
def signalled (events : List WaitEvent) : Nat :=
  (events.map fun event => match event with
    | .signalled _ woken => woken.length
    | _ => 0).sum

/-- The number of entries whose flag is set. -/
def flagged (s : WaitRun M A F) : Nat :=
  (arrivals s.events).countP fun a => s.process.wakes.isWoken a.2

/-- Every wake is accounted for. -/
structure Conserved (s : WaitRun M A F) : Prop where
  /-- Every entry that was made arrived once, and so at one place. -/
  created : (arrivals s.events).map (fun a => a.2.id) = List.range s.process.wakes.made
  queues : ∀ place, s.process.queueOf place = remaining (gone s.events) (arrivedAt s.events place)
  fate : ∀ place e, (place, e) ∈ arrivals s.events → ∃! fate, s.Fares place e fate
  asleep : ∀ place, ∀ e ∈ s.process.queueOf place, s.process.wakes.isWoken e = false
  /-- A call whose time has passed and whose entry was not woken finds it to remove it. -/
  found : ∀ address e, s.Waiting address e → s.process.wakes.isWoken e = false →
    (s.process.conditions.remove address e).isSome = true
  counted : handovers s.events + signalled s.events = s.flagged
  /-- A call that waited at a condition variable tells how its wait ended. -/
  answers : ∀ address e answer, .returned address e answer ∈ s.events →
    (answer = true ↔ (s.events.flatMap WaitEvent.signalledTo).count e = 1) ∧
      (answer = false ↔ (s.events.flatMap WaitEvent.signalledTo).count e = 0) ∧
      (answer = false ↔ s.Fares (.condition address) e .timedOut)

theorem handovers_add_signalled (events : List WaitEvent) :
    handovers events + signalled events = (woken events).length := by
  induction events with
  | nil => rfl
  | cons event events ih =>
    simp only [handovers, signalled, woken, List.countP_cons, List.map_cons, List.sum_cons,
      List.flatMap_cons, List.length_append] at ih ⊢
    rw [← ih]
    cases event <;> simp [WaitEvent.woke, WaitEvent.handedTo, WaitEvent.signalledTo] <;> omega

namespace Accounted

theorem timesQueued_of_mem (h : Accounted s) (queued : e ∈ s.process.queueOf place) :
    s.timesQueued place e = 1 := by
  have once := List.count_eq_one_of_mem (h.distinct place) (List.mem_map_of_mem queued)
  rw [List.count, List.countP_map] at once
  exact once

/-- An entry is queued nowhere but where it arrived, and there until it is gone. -/
theorem timesQueued_eq_zero (h : Accounted s) (arrived : (place, e) ∈ arrivals s.events)
    {other : WaitPlace} (apart : other = place → e ∈ gone s.events) :
    s.timesQueued other e = 0 := by
  rw [timesQueued, List.countP_eq_zero]
  intro e' queued same
  obtain ⟨arrived', stays⟩ := h.mem_queueOf_iff.mp queued
  obtain ⟨there, rfl⟩ := h.unique arrived' arrived (eq_of_beq same)
  exact stays (apart there)

theorem fares_queued (h : Accounted s) (arrived : (place, e) ∈ arrivals s.events)
    (stays : e ∉ gone s.events) : s.Fares place e .queued := by
  have queued := h.mem_queueOf_iff.mpr ⟨arrived, stays⟩
  refine ⟨h.timesQueued_of_mem queued, ?_, h.asleep_of_queued queued⟩
  intro other apart
  exact h.timesQueued_eq_zero arrived fun same => absurd same apart

theorem fares_woken (h : Accounted s) (arrived : (place, e) ∈ arrivals s.events)
    (woke : e ∈ woken s.events) : s.Fares place e .woken := by
  have left := (woken_sublist_gone s.events).subset woke
  refine ⟨fun other => h.timesQueued_eq_zero arrived fun _ => left,
    (h.isWoken_iff arrived).mpr woke, ?_, ?_⟩
  · have least := List.count_pos_iff.mpr woke
    have most := h.count_gone_le_one e
    omega
  · obtain ⟨event, mem, woke⟩ := List.mem_flatMap.mp woke
    have there := h.origin event mem e (.inl (List.mem_append_left _ woke))
    exact ⟨event, mem, (h.unique there arrived rfl).1, woke⟩

theorem fares_timedOut (h : Accounted s) (arrived : (place, e) ∈ arrivals s.events)
    (ended : e ∈ expired s.events) : s.Fares place e .timedOut := by
  have left := mem_gone_iff.mpr (.inr ended)
  have least := List.count_pos_iff.mpr ended
  have most := h.count_gone_le_one e
  refine ⟨fun other => h.timesQueued_eq_zero arrived fun _ => left, ?_, by omega, ?_⟩
  · rw [← Bool.not_eq_true, h.isWoken_iff arrived, ← List.count_pos_iff]
    omega
  · obtain ⟨address, mem⟩ := mem_expired_iff.mp ended
    have there := h.origin _ mem e (.inr (List.mem_singleton_self e))
    exact ⟨address, (h.unique arrived there rfl).1, mem⟩

/-- Every entry that arrived has exactly one fate. -/
theorem existsUnique_fate (h : Accounted s) (arrived : (place, e) ∈ arrivals s.events) :
    ∃! fate, s.Fares place e fate := by
  have some_fate : ∃ fate, s.Fares place e fate := by
    by_cases left : e ∈ gone s.events
    · rcases mem_gone_iff.mp left with woke | ended
      · exact ⟨.woken, h.fares_woken arrived woke⟩
      · exact ⟨.timedOut, h.fares_timedOut arrived ended⟩
    · exact ⟨.queued, h.fares_queued arrived left⟩
  obtain ⟨fate, fares⟩ := some_fate
  refine ⟨fate, fares, fun fate' fares' => ?_⟩
  -- a queued entry is somewhere, and of the others exactly the woken ones are flagged
  cases fate <;> cases fate' <;> simp_all [Fares]

/-- The flags that are set are as many as the entries that were woken. -/
theorem flagged_eq (h : Accounted s) : s.flagged = (woken s.events).length := by
  have ids : ((arrivals s.events).map fun a => a.2.id).Nodup := h.made ▸ List.nodup_range
  have entries : ((arrivals s.events).map Prod.snd).Nodup := by
    refine List.Nodup.of_map WaitEntry.id ?_
    rw [List.map_map]
    exact ids
  have kept := (List.filter_sublist (p := fun a => s.process.wakes.isWoken a.2)
    (l := arrivals s.events)).map Prod.snd
  have same : (((arrivals s.events).filter fun a => s.process.wakes.isWoken a.2).map
      Prod.snd).Perm (woken s.events) := by
    refine (List.perm_ext_iff_of_nodup (entries.sublist kept)
      (h.once.sublist (woken_sublist_gone s.events))).mpr ?_
    intro e
    rw [List.mem_map]
    constructor
    · rintro ⟨⟨place, e⟩, mem, rfl⟩
      obtain ⟨arrived, flag⟩ := List.mem_filter.mp mem
      exact (h.isWoken_iff arrived).mp flag
    · intro woke
      obtain ⟨event, _, _, arrived⟩ := h.arrived_of_gone ((woken_sublist_gone s.events).subset woke)
      exact ⟨_, List.mem_filter.mpr ⟨arrived, (h.isWoken_iff arrived).mpr woke⟩, rfl⟩
  rw [flagged, List.countP_eq_length_filter, ← same.length_eq, List.length_map]

/-- No unlock wakes an entry that waits at a condition variable. -/
theorem count_handed_eq_zero (h : Accounted s) {address : VirtAddr}
    (arrived : (.condition address, e) ∈ arrivals s.events) :
    (s.events.flatMap WaitEvent.handedTo).count e = 0 := by
  rw [List.count_eq_zero, List.mem_flatMap]
  rintro ⟨event, mem, handed⟩
  have there := h.origin event mem e (.inl (List.mem_append_left _ (List.mem_append_left _ handed)))
  have same := (h.unique arrived there rfl).1
  cases event with
  | handed => cases same
  | _ => cases handed

theorem answers (h : Accounted s) {address : VirtAddr} {answer : Bool}
    (returned : .returned address e answer ∈ s.events) :
    (answer = true ↔ (s.events.flatMap WaitEvent.signalledTo).count e = 1) ∧
      (answer = false ↔ (s.events.flatMap WaitEvent.signalledTo).count e = 0) ∧
      (answer = false ↔ s.Fares (.condition address) e .timedOut) := by
  have arrived := h.origin _ returned e (.inr (List.mem_singleton_self e))
  have handed := h.count_handed_eq_zero arrived
  have woke := count_woken e s.events
  have most := h.count_gone_le_one e
  cases answer with
  | true =>
    have picked := h.answered address e returned
    have least := List.count_pos_iff.mpr picked
    have one : (s.events.flatMap WaitEvent.signalledTo).count e = 1 := by omega
    refine ⟨by simp [one], by simp [one], by simp, fun out => ?_⟩
    have asleep := out.2.1
    rw [(h.isWoken_iff arrived).mpr picked] at asleep
    exact asleep
  | false =>
    have ended : e ∈ expired s.events := mem_expired_iff.mpr ⟨address, returned⟩
    have least := List.count_pos_iff.mpr ended
    have none : (s.events.flatMap WaitEvent.signalledTo).count e = 0 := by omega
    exact ⟨by simp [none], by simp [none], fun _ => h.fares_timedOut arrived ended, fun _ => rfl⟩

end Accounted

variable [MemoryChannel M]

/-- In every run every wake is accounted for. -/
theorem Reachable.conserved (h : Reachable s) : Conserved s := by
  have account := h.accounted
  refine ⟨account.made, account.queues, fun _ _ => account.existsUnique_fate,
    fun _ _ => account.asleep_of_queued, ?_, ?_, fun _ _ _ => account.answers⟩
  · intro address e waiting asleep
    have queued := account.queued_of_waiting waiting asleep
    rw [WaitQueues.remove_of_mem (account.distinct (.condition address)) queued]
    rfl
  · rw [handovers_add_signalled, account.flagged_eq]

/-- A mutex that is handed over, and two threads at a condition variable of which one is woken. -/
theorem conserved_with_timeout : ∃ s : WaitRun Window Unit Unit,
    (handovers s.events, signalled s.events, s.flagged, expired s.events) =
      (1, 1, 2, [⟨2, 7, 3, 102⟩]) ∧ s.Conserved := by
  have start := Reachable.start 0 {} (Window.new 0x1000 0x1000) () ()
  have owned := start.step (.lock _ 0x1000 0 true ⟨5, 1, 100, 0⟩)
  have blocked := owned.step (.lock _ 0x1000 5 false ⟨6, 1, 101, 0⟩)
  have handed := blocked.step (.unlock _ 0x1000)
  have first := handed.step (.wait _ 0x2000 ⟨6, 4, 101, 0⟩)
  have second := first.step (.wait _ 0x2000 ⟨7, 3, 102, 0⟩)
  have picked := second.step (.signal _ 0x2000 1)
  have back := picked.step (.timeout _ 0x2000 ⟨1, 6, 4, 101⟩ ⟨by decide, by decide⟩)
  have out := back.step (.timeout _ 0x2000 ⟨2, 7, 3, 102⟩ ⟨by decide, by decide⟩)
  exact ⟨_, by decide, Reachable.conserved out⟩

end WaitRun

end GuestKernel
