import Mathlib
import GuestKernel.Proofs.Wait.Turn

/-!
# Steps at different places

Two steps are apart if they are at two mutexes whose words share no byte, at two condition variables
with different addresses, or one at a mutex and one at a condition variable. The turn of neither
depends on whether the other one was taken before, and so both orders leave the same process. Only
the numbers of the entries are given out in the order of arrival: if both steps queue a thread, the
two new numbers are exchanged.
-/

set_option autoImplicit false

namespace GuestKernel

def WaitEntry.rename (π : Nat → Nat) (entry : WaitEntry) : WaitEntry :=
  { entry with id := π entry.id }

def SyncAnswer.rename (π : Nat → Nat) : SyncAnswer → SyncAnswer
  | returned => .returned
  | blocked entry => .blocked (entry.rename π)
  | woke entries => .woke (entries.map (WaitEntry.rename π))
  | ended signalled => .ended signalled

def Blocks (answer : Except Fault SyncAnswer) : Prop := ∃ entry, answer = .ok (.blocked entry)

def WaitPlace.Apart : WaitPlace → WaitPlace → Prop
  | mutex a, mutex b => GuestMemory.WordsApart a b
  | condition a, condition b => a ≠ b
  | mutex _, condition _ | condition _, mutex _ => True

theorem WaitPlace.Apart.symm {a b : WaitPlace} (apart : a.Apart b) : b.Apart a := by
  cases a with
  | mutex _ =>
    cases b with
    | mutex _ => exact Or.symm apart
    | condition _ => exact trivial
  | condition _ =>
    cases b with
    | mutex _ => exact trivial
    | condition _ => exact Ne.symm apart

theorem WaitPlace.Apart.ne {a b : WaitPlace} (apart : a.Apart b) : a ≠ b := by
  rintro rfl
  cases a with
  | mutex address =>
    have words : address.toNat + 4 ≤ address.toNat ∨ address.toNat + 4 ≤ address.toNat := apart
    omega
  | condition address => exact apart rfl

/-- The new numbers of two newcomers are exchanged; a single newcomer keeps its number. -/
theorem exists_renumbering (m : Nat) (first second : Option GuestThread) :
    ∃ π : Equiv.Perm Nat, (∀ n < m, π n = n) ∧ (π = 1 ∨ first.isSome ∧ second.isSome) ∧
      (first.isSome → π m = m + second.toList.length) ∧
      (second.isSome → π (m + first.toList.length) = m) := by
  cases first with
  | none => exact ⟨1, fun _ _ => rfl, .inl rfl, nofun, fun _ => rfl⟩
  | some _ =>
    cases second with
    | none => exact ⟨1, fun _ _ => rfl, .inl rfl, fun _ => rfl, nofun⟩
    | some _ =>
      refine ⟨Equiv.swap m (m + 1), fun n below => ?_, .inr ⟨rfl, rfl⟩, fun _ => ?_, fun _ => ?_⟩
      · exact Equiv.swap_apply_of_ne_of_ne (by omega) (by omega)
      · exact Equiv.swap_apply_left m (m + 1)
      · exact Equiv.swap_apply_right m (m + 1)

/-- Exchanging numbers that are still free changes no flag. -/
theorem WakeBoard.isWoken_rename {board : WakeBoard} {made : Nat} {π : Equiv.Perm Nat}
    (small : ∀ n < made, π n = n) (given : ∀ e, board.isWoken e = true → e.id < made)
    (entry : WaitEntry) : board.isWoken (entry.rename π) = board.isWoken entry := by
  rw [Bool.eq_iff_iff]
  constructor
  · intro woken
    have same : π entry.id = entry.id := π.injective (small _ (given _ woken))
    rw [WaitEntry.rename, same] at woken
    exact woken
  · intro woken
    rw [WaitEntry.rename, small entry.id (given entry woken)]
    exact woken

section Local
variable {g : Glance} {turn : Turn} {π : Nat → Nat} {entries : List WaitEntry}

theorem map_rename (fixed : ∀ e ∈ entries, e.rename π = e) :
    entries.map (WaitEntry.rename π) = entries :=
  (List.map_congr_left fixed).trans (List.map_id' _)

/-- A turn names no entries but those that were queued. -/
structure Turn.Local (turn : Turn) (g : Glance) : Prop where
  queue : turn.queue ⊆ g.queue
  woken : turn.woken ⊆ g.queue
  answer : ∀ π, (∀ e ∈ g.queue, e.rename π = e) →
    turn.answer.map (SyncAnswer.rename π) = turn.answer

theorem Glance.reply_local {answer : Except Fault SyncAnswer}
    (nameless : ∀ π, answer.map (SyncAnswer.rename π) = answer) : (g.reply answer).Local g :=
  ⟨List.Subset.refl _, List.nil_subset _, fun π _ => nameless π⟩

theorem Glance.block_local (thread : GuestThread) : (g.block thread).Local g :=
  ⟨List.Subset.refl _, List.nil_subset _, fun _ _ => rfl⟩

theorem Glance.wake_local (picked : entries ⊆ g.queue) : (g.wake entries).Local g := by
  refine ⟨List.filter_subset_self _, picked, fun π fixed => ?_⟩
  have named := map_rename fun e picks => fixed e (picked picks)
  exact congrArg (fun entries => Except.ok (SyncAnswer.woke entries)) named

theorem Glance.store_local {address : VirtAddr} {word : UInt32} (h : turn.Local g) :
    (g.store address word turn).Local g := by
  rw [Glance.store]
  split
  · exact reply_local fun _ => rfl
  · exact ⟨h.queue, h.woken, h.answer⟩

theorem SyncStep.respond_local (step : SyncStep) (g : Glance) : (step.respond g).Local g := by
  cases step with
  | lock address owner insist thread =>
    rw [respond]
    split
    · exact Glance.reply_local fun _ => rfl
    · split
      · exact Glance.reply_local fun _ => rfl
      · split
        · exact Glance.store_local (Glance.reply_local fun _ => rfl)
        · split
          · exact Glance.store_local (Glance.block_local thread)
          · exact Glance.block_local thread
  | unlock address =>
    rw [respond]
    split
    · rename_i i entry chosen
      obtain ⟨before, after, cut, _⟩ := WaitEntry.selected_of_chosen chosen
      apply Glance.store_local
      apply Glance.wake_local
      intro e picked
      rw [List.mem_singleton.mp picked]
      exact cut.mem
    · split
      · exact Glance.reply_local fun _ => rfl
      · exact Glance.store_local (Glance.reply_local fun _ => rfl)
  | wait address thread => exact Glance.block_local thread
  | signal address amount =>
    apply Glance.wake_local
    intro e picked
    exact List.mem_mergeSort.mp (List.mem_of_mem_take picked)
  | timeout address entry =>
    rw [respond]
    split
    · exact Glance.reply_local fun _ => rfl
    · exact ⟨List.filter_subset_self _, List.nil_subset _, fun _ _ => rfl⟩

theorem SyncStep.respond_written {step : SyncStep} {address : VirtAddr} (g : Glance)
    (there : step.place = .condition address) : (step.respond g).written = none := by
  cases step with
  | lock => cases there
  | unlock => cases there
  | wait => rfl
  | signal => rfl
  | timeout =>
    rw [respond]
    split <;> rfl

variable {n m : Nat}

theorem Turn.Local.outcome_rename (h : turn.Local g) (fixed : ∀ e ∈ g.queue, e.rename π = e)
    (moved : turn.arrives.isSome → π n = m) :
    turn.outcome m = (turn.outcome n).map (SyncAnswer.rename π) := by
  rw [outcome, outcome]
  cases arrives : turn.arrives with
  | none => exact (h.answer π fixed).symm
  | some thread =>
    rw [← moved (arrives ▸ rfl)]
    rfl

theorem Turn.Local.queued_rename (h : turn.Local g) (fixed : ∀ e ∈ g.queue, e.rename π = e)
    (moved : turn.arrives.isSome → π n = m) :
    turn.queued m = (turn.queued n).map (WaitEntry.rename π) := by
  rw [queued, queued, List.map_append, map_rename fun e queued => fixed e (h.queue queued)]
  cases arrives : turn.arrives with
  | none => rfl
  | some thread =>
    rw [← moved (arrives ▸ rfl)]
    rfl

end Local

namespace GuestProcess

open GuestMemory

/-- Every entry that is queued or was woken has a number that was given out. -/
structure Numbered {M A F : Type} (p : GuestProcess M A F) : Prop where
  queued : ∀ place, ∀ e ∈ p.queueOf place, e.id < p.wakes.made
  woken : ∀ e, p.wakes.isWoken e = true → e.id < p.wakes.made

theorem Numbered.fixed {M A F : Type} {p : GuestProcess M A F} {π : Nat → Nat}
    (numbered : Numbered p) (small : ∀ n < p.wakes.made, π n = n) (place : WaitPlace) :
    ∀ e ∈ p.queueOf place, e.rename π = e := by
  intro e queued
  rw [WaitEntry.rename, small e.id (numbered.queued place e queued)]

section Crossing
variable {M A F : Type} [SteadyChannel M] {p q r q' r' : GuestProcess M A F} {x y : SyncStep}
variable {answer answer' : Except Fault SyncAnswer} {π : Nat → Nat}

/-- Two processes with the same guest memory and, up to the numbers of entries, the same waiting
threads. -/
structure Renamed (π : Nat → Nat) (p q : GuestProcess M A F) : Prop where
  queues : ∀ place, q.queueOf place = (p.queueOf place).map (WaitEntry.rename π)
  woken : ∀ entry, q.wakes.isWoken (entry.rename π) = p.wakes.isWoken entry
  made : q.wakes.made = p.wakes.made
  bytes : ByteChannel.byteAt q.channel = ByteChannel.byteAt p.channel
  refusal : SteadyChannel.refusal q.channel = SteadyChannel.refusal p.channel

theorem Numbered.id_lt (numbered : Numbered p) {turn : Turn} {e : WaitEntry}
    (names : turn.Local (x.glance p)) (woken : e.id ∈ turn.woken.map WaitEntry.id) :
    e.id < p.wakes.made := by
  obtain ⟨other, picked, same⟩ := List.mem_map.mp woken
  rw [← same]
  exact numbered.queued x.place other (names.woken picked)

theorem storeWord_comm_of_apart (apart : x.place.Apart y.place) (g g' : Glance)
    (bytes : Nat → UInt8) :
    storeWord x.place.address (x.respond g).written
        (storeWord y.place.address (y.respond g').written bytes) =
      storeWord y.place.address (y.respond g').written
        (storeWord x.place.address (x.respond g).written bytes) := by
  cases hx : x.place with
  | condition a =>
    rw [SyncStep.respond_written g hx]
    rfl
  | mutex a =>
    cases hy : y.place with
    | condition b =>
      rw [SyncStep.respond_written g' hy]
      rfl
    | mutex b =>
      rw [hx, hy] at apart
      exact storeWord_comm apart _ _ bytes

theorem Takes.wordAt {g : Glance} {address : VirtAddr}
    (taken : Takes p x.place (x.respond g) answer q) (apart : x.place.Apart (.mutex address)) :
    wordAt q.channel address = wordAt p.channel address := by
  have stored := taken.channel
  cases hx : x.place with
  | mutex a =>
    rw [hx] at apart stored
    exact stored.wordAt apart
  | condition a =>
    rw [SyncStep.respond_written g hx] at stored
    exact wordAt_congr stored.bytes

/-- A step does not show in a glance at a place apart. -/
theorem Takes.glance {g : Glance} (taken : Takes p x.place (x.respond g) answer q)
    (apart : x.place.Apart y.place)
    (flag : ∀ address entry, y = .timeout address entry →
      q.wakes.isWoken entry = p.wakes.isWoken entry) :
    y.glance q = y.glance p := by
  have queue := taken.others y.place apart.symm.ne
  have refusal : ∀ direction address size, SteadyChannel.refusal q.channel direction address size =
      SteadyChannel.refusal p.channel direction address size := by
    intro direction address size
    rw [taken.channel.refusal]
  cases y with
  | lock b | unlock b =>
    exact Glance.ext queue (taken.wordAt apart) (refusal .read b 4) (refusal .write b 4) rfl
  | wait | signal => exact Glance.ext queue rfl rfl rfl rfl
  | timeout b entry => exact Glance.ext queue rfl rfl rfl (flag b entry rfl)

theorem Takes.blocks {place : WaitPlace} {turn : Turn} (taken : Takes p place turn answer q)
    (arrives : turn.arrives.isSome) : Blocks answer := by
  obtain ⟨thread, arrived⟩ := Option.isSome_iff_exists.mp arrives
  refine ⟨.ofThread p.wakes.made thread, ?_⟩
  rw [taken.outcome, Turn.outcome, arrived]

/-- Two steps that are apart end alike in both orders. -/
theorem renamed_of_takes {ofX ofX' ofY ofY' : Except Fault SyncAnswer}
    (numbered : Numbered p) (apart : x.place.Apart y.place)
    (first : Takes p x.place (x.respond (x.glance p)) ofX q)
    (second : Takes q y.place (y.respond (y.glance p)) ofY r)
    (first' : Takes p y.place (y.respond (y.glance p)) ofY' q')
    (second' : Takes q' x.place (x.respond (x.glance p)) ofX' r') :
    ∃ π : Equiv.Perm Nat, (∀ n < p.wakes.made, π n = n) ∧ (π = 1 ∨ Blocks ofX ∧ Blocks ofY') ∧
      ofX' = ofX.map (SyncAnswer.rename π) ∧ ofY' = ofY.map (SyncAnswer.rename π) ∧
      Renamed π r r' := by
  obtain ⟨π, small, still, ahead, behind⟩ := exists_renumbering p.wakes.made
    (x.respond (x.glance p)).arrives (y.respond (y.glance p)).arrives
  have namesX := x.respond_local (x.glance p)
  have namesY := y.respond_local (y.glance p)
  have fixed := numbered.fixed small
  rw [← first'.made] at ahead
  rw [← first.made] at behind
  refine ⟨π, small, ?_, ?_, ?_, ?_, ?_, ?_, ?_, ?_⟩
  · rcases still with still | ⟨arrivesX, arrivesY⟩
    · exact .inl still
    · exact .inr ⟨first.blocks arrivesX, first'.blocks arrivesY⟩
  · rw [second'.outcome, first.outcome]
    exact namesX.outcome_rename (fixed x.place) ahead
  · rw [first'.outcome, second.outcome]
    exact namesY.outcome_rename (fixed y.place) behind
  · intro place
    by_cases atX : place = x.place
    · rw [atX, second'.queue, second.others x.place apart.ne, first.queue]
      exact namesX.queued_rename (fixed x.place) ahead
    · by_cases atY : place = y.place
      · rw [atY, second'.others y.place apart.symm.ne, first'.queue, second.queue]
        exact namesY.queued_rename (fixed y.place) behind
      · rw [second'.others place atX, first'.others place atY, second.others place atY,
          first.others place atX, map_rename (fixed place)]
  · -- which entries are woken does not depend on the order, and no number that moves is among them
    intro entry
    have flags : ∀ e, r'.wakes.isWoken e = r.wakes.isWoken e := by
      intro e
      rw [Bool.eq_iff_iff, second'.flags, first'.flags, second.flags, first.flags]
      exact or_left_comm
    rw [flags]
    apply WakeBoard.isWoken_rename small
    intro e woken
    rcases (second.flags e).mp woken with now | before
    · exact numbered.id_lt namesY now
    · rcases (first.flags e).mp before with now | before
      · exact numbered.id_lt namesX now
      · exact numbered.woken e before
  · rw [second'.made, first'.made, second.made, first.made]
    omega
  · rw [second'.channel.bytes, first'.channel.bytes, second.channel.bytes, first.channel.bytes]
    exact storeWord_comm_of_apart apart _ _ _
  · rw [second'.channel.refusal, first'.channel.refusal, second.channel.refusal,
      first.channel.refusal]

end Crossing

end GuestProcess

namespace WaitRun

open GuestProcess GuestMemory

section Account
variable {M A F : Type} {s : WaitRun M A F} {x : SyncStep}

/-- A step that can be taken: what gives up waiting has to wait. -/
def Possible (s : WaitRun M A F) : SyncStep → Prop
  | .timeout address entry => s.Waiting address entry
  | _ => True

theorem Accounted.numbered (h : Accounted s) : Numbered s.process := by
  refine ⟨fun place e queued => h.id_lt (h.mem_queueOf_iff.mp queued).1, fun e flag => ?_⟩
  rw [WakeBoard.isWoken, List.contains_iff_mem, h.flags, List.mem_reverse, List.mem_map] at flag
  obtain ⟨other, woke, same⟩ := flag
  obtain ⟨event, _, _, arrived⟩ := h.arrived_of_gone ((woken_sublist_gone s.events).subset woke)
  exact same ▸ h.id_lt arrived

theorem Accounted.fits (h : Accounted s) (possible : s.Possible x) : Fits x s.process := by
  refine ⟨h.distinct x.place, ?_⟩
  rintro address entry rfl asleep
  exact h.queued_of_waiting possible asleep

theorem events_after {α : Type} {call : Action (GuestProcess M A F) α}
    {happened : α → List WaitEvent} {place : WaitPlace}
    (here : ∀ answer, ∀ event ∈ happened answer, event.place = place) :
    ∃ new, (s.after call happened).events = s.events ++ new ∧
      ∀ event ∈ new, event.place = place := by
  refine ⟨_, rfl, ?_⟩
  cases (call s.process).outcome with
  | ok answer => exact here answer
  | error fault => exact fun event mem => nomatch mem

end Account

section Runs
variable {M A F : Type} [SteadyChannel M] {s : WaitRun M A F} {x y : SyncStep}

def next (s : WaitRun M A F) : SyncStep → WaitRun M A F
  | .lock address owner insist thread =>
    s.after (mutexLock address owner insist thread) (lockEvents address)
  | .unlock address => s.after (mutexUnlock address) (unlockEvents address)
  | .wait address thread =>
    s.after (conditionWait address thread) fun entry => [.arrived (.condition address) entry]
  | .signal address amount =>
    s.after (conditionSignal address amount) fun woken => [.signalled address woken]
  | .timeout address entry =>
    s.after (conditionTimeout address entry) fun answer => [.returned address entry answer]

theorem step_next (possible : s.Possible x) : Step s (s.next x) := by
  cases x with
  | lock address owner insist thread => exact .lock s address owner insist thread
  | unlock address => exact .unlock s address
  | wait address thread => exact .wait s address thread
  | signal address amount => exact .signal s address amount
  | timeout address entry => exact .timeout s address entry possible

theorem next_process (s : WaitRun M A F) (x : SyncStep) :
    (s.next x).process = (x.perform s.process).state := by
  cases x <;> exact (Action.state_map ..).symm

theorem events_next (s : WaitRun M A F) (x : SyncStep) :
    ∃ happened, (s.next x).events = s.events ++ happened ∧
      ∀ event ∈ happened, event.place = x.place := by
  cases x with
  | lock address =>
    apply events_after
    intro outcome event mem
    cases outcome with
    | returned => cases mem
    | queued entry => exact List.mem_singleton.mp mem ▸ rfl
  | unlock address =>
    apply events_after
    intro handed event mem
    cases handed with
    | none => cases mem
    | some entry => exact List.mem_singleton.mp mem ▸ rfl
  | wait => exact events_after fun _ _ mem => List.mem_singleton.mp mem ▸ rfl
  | signal => exact events_after fun _ _ mem => List.mem_singleton.mp mem ▸ rfl
  | timeout => exact events_after fun _ _ mem => List.mem_singleton.mp mem ▸ rfl

theorem Possible.next (possible : s.Possible y) (apart : x.place ≠ y.place) :
    (s.next x).Possible y := by
  cases y with
  | timeout address entry =>
    obtain ⟨happened, events, here⟩ := events_next s x
    have arrived : .arrived (.condition address) entry ∈ (s.next x).events := by
      rw [events]
      exact List.mem_append_left _ possible.arrived
    refine ⟨arrived, fun answer again => ?_⟩
    rw [events] at again
    rcases List.mem_append.mp again with before | now
    · exact possible.pending answer before
    · exact apart (here _ now).symm
  | _ => exact trivial

/-- A place at which nothing happened: the same queue, the same word, and none of those who came
there woken. -/
structure Untouched (s t : WaitRun M A F) (place : WaitPlace) : Prop where
  queue : t.process.queueOf place = s.process.queueOf place
  tag : ∀ address, place = .mutex address →
    wordAt t.process.channel address = wordAt s.process.channel address
  waiters : ∀ entry, .arrived place entry ∈ s.events →
    t.process.wakes.isWoken entry = s.process.wakes.isWoken entry

/-- Two steps that can be taken in either order: each leaves the place of the other alone, and both
orders give the same answers and the same process. If both steps queue a thread, that is up to the
numbers of the new entries. -/
structure Independent (s : WaitRun M A F) (x y : SyncStep) : Prop where
  possible : (s.next x).Possible y ∧ (s.next y).Possible x
  untouched : Untouched s (s.next x) y.place ∧ Untouched s (s.next y) x.place
  orders : ∃ π : Equiv.Perm Nat, (∀ n < s.process.wakes.made, π n = n) ∧
    (π = 1 ∨ Blocks (x.perform s.process).outcome ∧ Blocks (y.perform s.process).outcome) ∧
    (x.perform (s.next y).process).outcome =
      (x.perform s.process).outcome.map (SyncAnswer.rename π) ∧
    (y.perform s.process).outcome =
      (y.perform (s.next x).process).outcome.map (SyncAnswer.rename π) ∧
    Renamed π ((s.next x).next y).process ((s.next y).next x).process

theorem Accounted.takes (h : Accounted s) (possible : s.Possible x) :
    Takes s.process x.place (x.respond (x.glance s.process)) (x.perform s.process).outcome
      (s.next x).process := by
  rw [next_process]
  exact perform_takes (h.fits possible)

theorem Accounted.untouched (h : Accounted s) (possible : s.Possible x) {place : WaitPlace}
    (apart : x.place.Apart place) : Untouched s (s.next x) place := by
  have taken := h.takes possible
  have change := (step_next possible).change h
  have queue := taken.others place apart.symm.ne
  refine ⟨queue, ?_, ?_⟩
  · rintro address rfl
    exact taken.wordAt apart
  · intro entry arrived
    exact change.isWoken_of_untouched h (change.accounted h) (mem_arrivals_iff.mpr arrived) queue

/-- The second step takes the turn that it would have taken first. -/
theorem Accounted.takes_next (h : Accounted s) (possible : s.Possible x) (possible' : s.Possible y)
    (apart : x.place.Apart y.place) :
    Takes (s.next x).process y.place (y.respond (y.glance s.process))
      (y.perform (s.next x).process).outcome ((s.next x).next y).process := by
  have account := ((step_next possible).change h).accounted h
  have taken := account.takes (possible'.next apart.ne)
  have untouched := h.untouched possible apart
  have glance : y.glance (s.next x).process = y.glance s.process := by
    apply (h.takes possible).glance apart
    rintro address entry rfl
    exact untouched.waiters entry possible'.arrived
  rw [glance] at taken
  exact taken

theorem Reachable.independent (h : Reachable s) (possible : s.Possible x)
    (possible' : s.Possible y) (apart : x.place.Apart y.place) : Independent s x y := by
  have account := h.accounted
  refine ⟨⟨possible'.next apart.ne, possible.next apart.symm.ne⟩,
    ⟨account.untouched possible apart, account.untouched possible' apart.symm⟩, ?_⟩
  exact renamed_of_takes account.numbered apart (account.takes possible)
    (account.takes_next possible possible' apart) (account.takes possible')
    (account.takes_next possible' possible apart.symm)

end Runs

/-- A lock and a wait at one address, of which both block, and a lock and a wait that ends there. -/
theorem independent_at_one_address : ∃ s : WaitRun CalmWindow Unit Unit,
    (SyncStep.perform (.lock 0x1000 5 false ⟨7, 1, 102, 0⟩) s.process).outcome =
      .ok (.blocked ⟨1, 7, 1, 102⟩) ∧
    (SyncStep.perform (.wait 0x1000 ⟨8, 4, 103, 0⟩) s.process).outcome =
      .ok (.blocked ⟨1, 8, 4, 103⟩) ∧
    Independent s (.lock 0x1000 5 false ⟨7, 1, 102, 0⟩) (.wait 0x1000 ⟨8, 4, 103, 0⟩) ∧
    Independent s (.lock 0x1000 5 false ⟨7, 1, 102, 0⟩) (.timeout 0x1000 ⟨0, 6, 4, 101⟩) := by
  have start := Reachable.start 0 {} (CalmWindow.new 0x1000 0x1000) () ()
  have owned := start.step (.lock _ 0x1000 0 true ⟨5, 1, 100, 0⟩)
  have waits := owned.step (.wait _ 0x1000 ⟨6, 4, 101, 0⟩)
  refine ⟨_, ?_, ?_, waits.independent trivial trivial trivial,
    waits.independent trivial ⟨by decide, by decide⟩ trivial⟩
  · rfl
  · rfl

end WaitRun

end GuestKernel
