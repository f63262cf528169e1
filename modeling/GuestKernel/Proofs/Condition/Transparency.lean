import Mathlib
import GuestKernel.Memory.Window
import GuestKernel.Proofs.Condition.Absence
import GuestKernel.Proofs.Condition.Moves

/-!
# A wait that ran out leaves no trace

Erasing the arrival of an entry and the timeout that ended its wait from a run at condition variables
gives a run again, in which all other calls have the same answers and every queue is the same without
that entry. What both runs are is compared after each move, `WaitRun.Erased`; the two go on in step
because a signal that does not serve the entry does not see it.
-/

set_option autoImplicit false

namespace GuestKernel

/-- A move as it is when `x` never comes: its arrival and the timeout of its wait do not take place. -/
def ConditionMove.without (x : WaitEntry) : ConditionMove → Option ConditionMove
  | wait address thread entry =>
    if entry = x then none else some (.wait address thread (x.renumbered entry))
  | signal address amount woken => some (.signal address amount (woken.map x.renumbered))
  | timeout address entry answer =>
    if entry = x ∧ answer = false then none
    else some (.timeout address (x.renumbered entry) answer)
  | wake address entry => some (.wake address (x.renumbered entry))

namespace WaitRun

open GuestProcess

variable {M A F : Type} {x : WaitEntry} {s t u v : WaitRun M A F}
variable {moves : List ConditionMove} {move : ConditionMove}

/-- The run `v` is the run `u` without the wait of `x`. -/
structure Erased (x : WaitEntry) (u v : WaitRun M A F) : Prop where
  process : LacksWait x u.process v.process
  waiting : ∀ address e, u.Waiting address e → e ≠ x → v.Waiting address (x.renumbered e)

/-- No other entry has the number of `x`. -/
def Unique (x : WaitEntry) (u : WaitRun M A F) : Prop :=
  ∀ place e, (place, e) ∈ arrivals u.events → e.id = x.id → e = x

theorem Unique.apart (unique : Unique x u) {place : WaitPlace} {e : WaitEntry}
    (arrived : (place, e) ∈ arrivals u.events) (other : e ≠ x) : e.id ≠ x.id :=
  fun same => other (unique place e arrived same)

theorem Unique.before (unique : Unique x t) {events : List WaitEvent}
    (h : t.events = u.events ++ events) : Unique x u := by
  intro place e arrived
  apply unique place e
  rw [mem_arrivals_iff] at arrived ⊢
  rw [h]
  exact List.mem_append_left _ arrived

theorem Unique.returned (unique : Unique x u) {address : VirtAddr} {e : WaitEntry} {answer : Bool}
    {p : GuestProcess M A F} : Unique x ⟨p, u.events ++ [.returned address e answer]⟩ := by
  intro place e' arrived
  apply unique place e'
  rw [arrivals_append] at arrived
  exact (List.append_nil (arrivals u.events)) ▸ arrived

section Waiting
variable {address : VirtAddr} {e : WaitEntry} {event : WaitEvent}

theorem Waiting.before (h : t.Waiting address e) (events : t.events = s.events ++ [event])
    (old : event ≠ .arrived (.condition address) e) : s.Waiting address e := by
  obtain ⟨arrived, pending⟩ := h
  rw [events] at arrived pending
  refine ⟨?_, fun answer mem => pending answer (List.mem_append_left _ mem)⟩
  rcases List.mem_append.mp arrived with mem | mem
  · exact mem
  · exact absurd (List.mem_singleton.mp mem).symm old

theorem Waiting.after (h : s.Waiting address e) (events : t.events = s.events ++ [event])
    (stays : ∀ answer, event ≠ .returned address e answer) : t.Waiting address e := by
  refine ⟨?_, fun answer mem => ?_⟩
  · rw [events]
    exact List.mem_append_left _ h.arrived
  · rw [events] at mem
    rcases List.mem_append.mp mem with mem | mem
    · exact h.pending answer mem
    · exact stays answer (List.mem_singleton.mp mem).symm

theorem Accounted.waiting_of_new (h : Accounted s)
    (events : t.events = s.events ++ [.arrived (.condition address) e])
    (new : s.process.wakes.made ≤ e.id) : t.Waiting address e := by
  refine ⟨?_, fun answer mem => ?_⟩
  · rw [events]
    exact List.mem_append_right _ (List.mem_singleton_self _)
  · rw [events] at mem
    rcases List.mem_append.mp mem with mem | mem
    · have arrived := h.origin _ mem e (.inr (List.mem_singleton_self e))
      exact absurd (h.id_lt arrived) (Nat.not_lt.mpr new)
    · cases List.mem_singleton.mp mem

end Waiting

namespace Erased

variable {address : VirtAddr} {e : WaitEntry}

/-- The return of another entry takes place in both runs. -/
theorem waiting_of_back (h : Erased x u v) {u' v' : WaitRun M A F} {answer : Bool}
    (events : u'.events = u.events ++ [.returned address e answer])
    (events' : v'.events = v.events ++ [.returned address (x.renumbered e) answer])
    (other : e.id ≠ x.id) (unique : Unique x u') (there : VirtAddr) (e' : WaitEntry)
    (waiting : u'.Waiting there e') (other' : e' ≠ x) :
    v'.Waiting there (x.renumbered e') := by
  have before := waiting.before events nofun
  have apart := unique.apart (mem_arrivals_iff.mpr waiting.arrived) other'
  refine (h.waiting there e' before other').after events' fun answer' same => ?_
  obtain ⟨rfl, number, rfl⟩ := WaitEvent.returned.inj same
  rw [WaitEntry.renumbered_inj other apart] at number
  subst number
  apply waiting.pending answer
  rw [events]
  exact List.mem_append_right _ (List.mem_singleton_self _)

theorem wait (h : Erased x u v) (account : Accounted v) (thread : GuestThread)
    (unique : Unique x (u.after (conditionWait address thread)
      fun entry => [.arrived (.condition address) entry])) :
    ∃ w, (WaitEntry.ofThread u.process.wakes.made thread = x → w = v) ∧
      (WaitEntry.ofThread u.process.wakes.made thread ≠ x → Move v
        (.wait address thread (x.renumbered (.ofThread u.process.wakes.made thread))) w) ∧
      Erased x (u.after (conditionWait address thread)
        fun entry => [.arrived (.condition address) entry]) w := by
  have made := conditionWait_outcome u.process address thread
  rw [after_of_ok made] at unique ⊢
  by_cases self : WaitEntry.ofThread u.process.wakes.made thread = x
  · refine ⟨v, fun _ => rfl, fun other => absurd self other, h.process.wait_self self, ?_⟩
    intro there e waiting other
    refine h.waiting there e (waiting.before rfl fun same => other ?_) other
    obtain ⟨_, rfl⟩ := WaitEvent.arrived.inj same
    exact self
  · have mem : (.condition address, .ofThread u.process.wakes.made thread) ∈
        arrivals (u.events ++ [.arrived (.condition address)
          (.ofThread u.process.wakes.made thread)]) :=
      mem_arrivals_iff.mpr (List.mem_append_right _ (List.mem_singleton_self _))
    have apart : u.process.wakes.made ≠ x.id := unique.apart mem self
    obtain ⟨outcome, process⟩ := h.process.wait address thread apart
    have move := Move.wait v address thread outcome
    rw [after_of_ok outcome] at move
    refine ⟨_, fun here => absurd here self, fun _ => move, process, ?_⟩
    intro there e waiting other
    by_cases new : WaitEvent.arrived (.condition address) (.ofThread u.process.wakes.made thread) =
        .arrived (.condition there) e
    · obtain ⟨place, rfl⟩ := WaitEvent.arrived.inj new
      cases place
      exact account.waiting_of_new rfl (Nat.le_of_eq h.process.made)
    · exact (h.waiting there e (waiting.before rfl new) other).after rfl nofun

theorem signal (h : Erased x u v) (account : Accounted u) (amount : UInt64) (unique : Unique x u)
    (spared : x ∉ (u.process.conditions.popUpTo amount.toNat address).1) :
    ∃ w, Move v (.signal address amount
        ((u.process.conditions.popUpTo amount.toNat address).1.map x.renumbered)) w ∧
      Erased x (u.after (conditionSignal address amount)
        fun woken => [.signalled address woken]) w := by
  have taken := WaitQueues.taken_popUpTo amount.toNat (account.distinct (.condition address))
  have apart : ∀ e ∈ (u.process.conditions.popUpTo amount.toNat address).1, e.id ≠ x.id := by
    intro e mem
    have queued : e ∈ u.process.queueOf (.condition address) := taken.queued e mem
    refine unique.apart (account.mem_queueOf_iff.mp queued).1 ?_
    rintro rfl
    exact spared mem
  obtain ⟨outcome, process⟩ := h.process.signal amount apart
  have move := Move.signal v address amount outcome
  rw [after_of_ok outcome] at move
  rw [after_of_ok (conditionSignal_outcome u.process address amount)]
  refine ⟨_, move, process, ?_⟩
  intro there e waiting other
  exact (h.waiting there e (waiting.before rfl nofun) other).after rfl nofun

theorem timeout (h : Erased x u v) (account : Accounted u) (account' : Accounted v)
    (unique : Unique x u) (waiting : u.Waiting address e) (other : e ≠ x) {answer : Bool}
    (ended : (conditionTimeout address e u.process).outcome = .ok answer) :
    ∃ w, Move v (.timeout address (x.renumbered e) answer) w ∧
      Erased x (u.after (conditionTimeout address e)
        fun answer => [.returned address e answer]) w := by
  have apart := unique.apart (mem_arrivals_iff.mpr waiting.arrived) other
  obtain ⟨outcome, process⟩ := h.process.timeout address apart
    (fun e' (mem : e' ∈ u.process.queueOf (.condition address)) =>
      unique _ e' (account.mem_queueOf_iff.mp mem).1)
    (account.distinct (.condition address)) (account'.distinct (.condition address))
    (account.queued_of_waiting waiting)
  rw [ended] at outcome
  have move := Move.timeout v address (x.renumbered e) (h.waiting address e waiting other) outcome
  rw [after_of_ok outcome] at move
  rw [after_of_ok ended]
  exact ⟨_, move, process, h.waiting_of_back rfl rfl apart unique.returned⟩

theorem wake (h : Erased x u v) (unique : Unique x u) (waiting : u.Waiting address e)
    (woken : u.process.wakes.isWoken e = true) :
    ∃ w, Move v (.wake address (x.renumbered e)) w ∧
      Erased x ⟨u.process, u.events ++ [.returned address e true]⟩ w := by
  have other : e ≠ x := by
    rintro rfl
    rw [h.process.isWoken_self] at woken
    cases woken
  have apart := unique.apart (mem_arrivals_iff.mpr waiting.arrived) other
  rw [← h.process.isWoken apart] at woken
  exact ⟨_, .wake v address _ (h.waiting address e waiting other) woken, h.process,
    h.waiting_of_back rfl rfl apart unique.returned⟩

theorem timeout_self (h : Erased x u v) (account : Accounted u) (waiting : u.Waiting address x) :
    Erased x (u.after (conditionTimeout address x)
      fun answer => [.returned address x answer]) v := by
  have asleep := h.process.isWoken_self
  have distinct := account.distinct (.condition address)
  have queued := account.queued_of_waiting waiting asleep
  rw [after_of_ok (conditionTimeout_of_asleep address asleep distinct queued).1]
  refine ⟨h.process.timeout_self distinct queued, ?_⟩
  intro there e waiting other
  exact h.waiting there e (waiting.before rfl nofun) other

/-- Every move of the first run is a move of the second as well, unless it is erased. -/
theorem step (h : Erased x u v) (account : Accounted u) (account' : Accounted v)
    (last : Move u move t) (unique : Unique x t) (spared : x ∉ woken t.events) :
    ∃ w, (move.without x = none → w = v) ∧
      (∀ move', move.without x = some move' → Move v move' w) ∧ Erased x t w := by
  have before := unique.before last.events
  rw [last.events, woken_append, List.mem_append, not_or] at spared
  cases last with
  | wait address thread made =>
    cases made
    obtain ⟨w, self, other, erased⟩ := h.wait account' thread unique
    refine ⟨w, fun gone => self ?_, fun move' kept => ?_, erased⟩
    · by_contra apart
      rw [ConditionMove.without, if_neg apart] at gone
      cases gone
    · rw [ConditionMove.without] at kept
      split at kept
      · cases kept
      · rename_i apart
        cases kept
        exact other apart
  | signal address amount picked =>
    cases picked
    obtain ⟨w, move', erased⟩ := h.signal account amount before spared.2
    refine ⟨w, nofun, fun _ kept => ?_, erased⟩
    cases kept
    exact move'
  | @timeout address e answer waiting ended =>
    by_cases self : e = x
    · subst self
      have out := h.timeout_self account waiting
      have queued := account.queued_of_waiting waiting h.process.isWoken_self
      rw [(conditionTimeout_of_asleep address h.process.isWoken_self
        (account.distinct (.condition address)) queued).1] at ended
      cases ended
      refine ⟨v, fun _ => rfl, fun move' kept => ?_, out⟩
      rw [ConditionMove.without, if_pos ⟨rfl, rfl⟩] at kept
      cases kept
    · obtain ⟨w, move', erased⟩ := h.timeout account account' before waiting self ended
      have kept : ConditionMove.without x (.timeout address e answer) =
          some (.timeout address (x.renumbered e) answer) := if_neg fun gone => self gone.1
      rw [kept]
      refine ⟨w, nofun, fun _ same => ?_, erased⟩
      cases same
      exact move'
  | wake address e waiting woken =>
    obtain ⟨w, move', erased⟩ := h.wake before waiting woken
    refine ⟨w, nofun, fun _ kept => ?_, erased⟩
    cases kept
    exact move'

end Erased

/-- Before `x` comes there is nothing to erase. -/
theorem Accounted.erased (h : Accounted s) (later : s.process.wakes.made ≤ x.id) :
    Erased x s s := by
  have low : ∀ place e, (place, e) ∈ arrivals s.events → e.id < x.id := fun place e arrived =>
    Nat.lt_of_lt_of_le (h.id_lt arrived) later
  have flags : ∀ id ∈ s.process.wakes.woken, id < x.id := by
    intro id mem
    rw [h.flags, List.mem_reverse, List.mem_map] at mem
    obtain ⟨e, woke, rfl⟩ := mem
    obtain ⟨_, _, _, arrived⟩ := h.arrived_of_gone ((woken_sublist_gone s.events).subset woke)
    exact low _ e arrived
  have queues : ∀ place, s.process.queueOf place = x.without (s.process.queueOf place) := by
    intro place
    refine (WaitEntry.without_of_lt fun e mem => ?_).symm
    exact low place e (h.mem_queueOf_iff.mp mem).1
  refine ⟨⟨(closeGap_of_le later).symm, ?_, ?_, fun address => queues (.mutex address),
    fun address => queues (.condition address)⟩, ?_⟩
  · rw [List.map_congr_left fun id mem => closeGap_of_le (Nat.le_of_lt (flags id mem)),
      List.map_id']
  · intro mem
    exact Nat.lt_irrefl _ (flags x.id mem)
  · intro address e waiting other
    rw [WaitEntry.renumbered_of_lt (low _ e (mem_arrivals_iff.mpr waiting.arrived))]
    exact waiting

variable [MemoryChannel M]

/-- As long as `x` is not woken, a run can be gone through without it. -/
theorem Moves.erased (run : Moves s moves t) (start : Reachable s)
    (later : s.process.wakes.made ≤ x.id) (unique : Unique x t) (spared : x ∉ woken t.events) :
    ∃ v, Moves s (moves.filterMap (ConditionMove.without x)) v ∧ Erased x t v := by
  induction run with
  | start => exact ⟨s, .start, start.accounted.erased later⟩
  | @snoc moves move t u run last ih =>
    have spared' : x ∉ woken t.events := by
      intro woke
      rw [last.events, woken_append] at spared
      exact spared (List.mem_append_left _ woke)
    obtain ⟨v, others, erased⟩ := ih (unique.before last.events) spared'
    obtain ⟨w, gone, kept, erased'⟩ := erased.step (run.reachable start).accounted
      (others.reachable start).accounted last unique spared
    refine ⟨w, ?_, erased'⟩
    rw [List.filterMap_append]
    cases here : move.without x with
    | none =>
      rw [List.filterMap_cons_none here, gone here]
      exact (List.append_nil _).symm ▸ others
    | some move' =>
      rw [List.filterMap_cons_some here]
      exact .snoc others (kept move' here)

/-- What a run and the same run without the wait of `x` have in common. -/
structure Alike (x : WaitEntry) (u v : WaitRun M A F) : Prop where
  queues : ∀ place, v.process.queueOf place = x.without (u.process.queueOf place)
  flags : ∀ place e, (place, e) ∈ arrivals u.events → e ≠ x →
    v.process.wakes.isWoken (x.renumbered e) = u.process.wakes.isWoken e
  /-- The other entries are told apart by their numbers in the second run as well. -/
  faithful : ∀ place e, (place, e) ∈ arrivals u.events → e ≠ x →
    ∀ place' e', (place', e') ∈ arrivals u.events → e' ≠ x →
      (x.renumbered e).id = (x.renumbered e').id → e = e'

/-- An entry that comes in the course of some moves has a later number than those that were there. -/
theorem Moves.made_le (run : Moves s moves t) (start : Reachable s) {address : VirtAddr}
    {thread : GuestThread} (arrived : .wait address thread x ∈ moves) :
    s.process.wakes.made ≤ x.id := by
  have made := (run.reachable start).accounted.made
  rw [run.events, arrivals, List.filterMap_append, List.map_append] at made
  by_contra early
  have old : x.id ∈ (arrivals s.events).map fun a => a.2.id := by
    rw [start.accounted.made]
    exact List.mem_range.mpr (Nat.lt_of_not_le early)
  have new : x.id ∈ ((moves.map ConditionMove.event).filterMap WaitEvent.arrival?).map
      fun a => a.2.id := by
    apply List.mem_map.mpr
    exact ⟨_, mem_arrivals_iff.mpr (List.mem_map_of_mem arrived), rfl⟩
  have once := made ▸ List.nodup_range
  exact (List.nodup_append.mp once).2.2 x.id old x.id new rfl

/-- Erasing from a run at condition variables the arrival and the timeout of a wait that ran out
leaves a run with the same answers to all others, which is the first one without that wait at every
time. -/
theorem Moves.expiry_transparent (run : Moves s moves t) (start : Reachable s)
    {address there : VirtAddr} {thread : GuestThread} (arrived : .wait address thread x ∈ moves)
    (out : .timeout there x false ∈ moves) (k : Nat) :
    ∃ u v, Moves s (moves.take k) u ∧
      Moves s ((moves.take k).filterMap (ConditionMove.without x)) v ∧ Alike x u v := by
  have account := (run.reachable start).accounted
  have event : ∀ move ∈ moves, move.event ∈ t.events := by
    intro move mem
    rw [run.events]
    exact List.mem_append_right _ (List.mem_map_of_mem mem)
  have here := mem_arrivals_iff.mpr (event _ arrived)
  have expired : x ∈ expired t.events := mem_expired_iff.mpr ⟨there, event _ out⟩
  have unique : Unique x t := fun place e mem same => (account.unique mem here same).2
  have spared : x ∉ woken t.events := by
    have once := account.count_gone_le_one x
    rw [← List.count_pos_iff] at expired ⊢
    omega
  obtain ⟨u, part, events, rest⟩ := run.take k
  have unique' := unique.before rest.symm
  have spared' : x ∉ woken u.events := by
    intro woke
    apply spared
    rw [← rest, woken, List.flatMap_append]
    exact List.mem_append_left _ woke
  obtain ⟨v, others, erased⟩ := part.erased start (run.made_le start arrived) unique' spared'
  refine ⟨u, v, part, others, erased.process.queueOf, ?_, ?_⟩
  · intro place e mem other
    exact erased.process.isWoken (unique'.apart mem other)
  · intro place e mem other place' e' mem' other' same
    rw [WaitEntry.renumbered, WaitEntry.renumbered,
      closeGap_inj (unique'.apart mem other) (unique'.apart mem' other')] at same
    exact ((part.reachable start).accounted.unique mem mem' same).2

/-- Three threads wait, the first is served, the second gives up, and the third is served after it. -/
theorem expiry_among_three : ∃ (s t : WaitRun Window Unit Unit) (moves : List ConditionMove)
    (x : WaitEntry), Reachable s ∧ Moves s moves t ∧ .timeout 0x2000 x false ∈ moves ∧
    moves.filterMap (ConditionMove.without x) =
      [.wait 0x2000 ⟨5, 4, 100, 0⟩ ⟨0, 5, 4, 100⟩, .wait 0x2000 ⟨7, 3, 102, 0⟩ ⟨1, 7, 3, 102⟩,
        .signal 0x2000 1 [⟨0, 5, 4, 100⟩], .signal 0x2000 2 [⟨1, 7, 3, 102⟩],
        .wake 0x2000 ⟨1, 7, 3, 102⟩] ∧
    ∀ k, ∃ u v, Moves s (moves.take k) u ∧
      Moves s ((moves.take k).filterMap (ConditionMove.without x)) v ∧ Alike x u v := by
  have start := Reachable.start 0 {} (Window.new 0x1000 0x1000) () ()
  have none : Moves ⟨.new 0 {} (Window.new 0x1000 0x1000) () (), []⟩ [] _ := .start
  have first := none.snoc (.wait _ 0x2000 ⟨5, 4, 100, 0⟩ rfl)
  have second := first.snoc (.wait _ 0x2000 ⟨6, 3, 101, 0⟩ rfl)
  have third := second.snoc (.wait _ 0x2000 ⟨7, 3, 102, 0⟩ rfl)
  have served := third.snoc (.signal _ 0x2000 1 rfl)
  have out := served.snoc (.timeout _ 0x2000 ⟨1, 6, 3, 101⟩ ⟨by decide, by decide⟩ rfl)
  have last := out.snoc (.signal _ 0x2000 2 rfl)
  have back := last.snoc (.wake _ 0x2000 ⟨2, 7, 3, 102⟩ ⟨by decide, by decide⟩ (by decide))
  refine ⟨_, _, _, ⟨1, 6, 3, 101⟩, start, back, by decide, by decide, fun k => ?_⟩
  exact back.expiry_transparent start
    (by decide : ConditionMove.wait 0x2000 ⟨6, 3, 101, 0⟩ ⟨1, 6, 3, 101⟩ ∈ _)
    (by decide : ConditionMove.timeout 0x2000 ⟨1, 6, 3, 101⟩ false ∈ _) k

end WaitRun

end GuestKernel
