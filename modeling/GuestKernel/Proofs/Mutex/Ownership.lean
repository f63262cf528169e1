import Mathlib
import GuestKernel.Proofs.Mutex.Calls
import GuestKernel.Proofs.Mutex.Handover
import GuestKernel.Proofs.Mutex.Parties
import GuestKernel.Proofs.Mutex.TagUpdate

/-!
# Mutual exclusion

`Kept` is what every step of the threads that share a mutex keeps: either nobody owns the mutex, the
word is zero and nobody is queued, or one thread owns it and the word is its tag, with the bit of
the waiters if threads are queued; and the queue holds the entries of the blocked threads. So a
mutex has one owner at most, and while threads are blocked there is an owner who must call to unlock
it and thereby hands it to one of them.
-/

set_option autoImplicit false

namespace GuestKernel

open GuestMemory

namespace MutexRun

open GuestProcess WaitRun

variable {M A F ι : Type} [ByteChannel M] {party : MutexParty ι} {address : VirtAddr}
variable {s : MutexRun M A F ι}

/-- The word, the queue, the owners and the blocked threads of a mutex fit together. -/
structure Kept (party : MutexParty ι) (address : VirtAddr) (s : MutexRun M A F ι) : Prop where
  reachable : s.run.Reachable
  tag : (s.owners = ∅ ∧ s.word address = 0 ∧ s.queue address = []) ∨
    ∃ i, s.owners = {i} ∧ ¬ s.Blocked i ∧
      s.word address = ownedTag (party.handle i) (0 < (s.queue address).length)
  queued : ∀ e, e ∈ s.queue address ↔
    ∃ i, s.entryOf i = some e ∧ s.run.process.wakes.isWoken e = false
  arrived : ∀ i e, s.entryOf i = some e → (.mutex address, e) ∈ arrivals s.run.events
  handles : ∀ i e, s.entryOf i = some e → e.handle = party.handle i

theorem masked_handle (party : MutexParty ι) (i : ι) :
    party.handle i &&& mutexOwnerMask = party.handle i :=
  masked_of_clear (party.clear i)

theorem tag_ne_zero (party : MutexParty ι) (i : ι) (contended : Bool) :
    ownedTag (party.handle i) contended ≠ 0 := by
  apply ownedTag_ne_zero
  rw [masked_handle]
  exact party.ne_zero i

namespace Kept

theorem free (h : Kept party address s) (zero : s.word address = 0) :
    s.owners = ∅ ∧ s.queue address = [] := by
  rcases h.tag with ⟨nobody, _, empty⟩ | ⟨i, _, _, word⟩
  · exact ⟨nobody, empty⟩
  · exact absurd (word.symm.trans zero) (tag_ne_zero party i _)

theorem owned (h : Kept party address s) (nonzero : s.word address ≠ 0) :
    ∃ i, s.owners = {i} ∧ ¬ s.Blocked i ∧
      s.word address = ownedTag (party.handle i) (0 < (s.queue address).length) := by
  rcases h.tag with ⟨_, zero, _⟩ | owned
  · exact absurd zero nonzero
  · exact owned

theorem owned_of_mem (h : Kept party address s) {i : ι} (owns : i ∈ s.owners) :
    s.owners = {i} ∧ ¬ s.Blocked i ∧
      s.word address = ownedTag (party.handle i) (0 < (s.queue address).length) := by
  rcases h.tag with ⟨nobody, _, _⟩ | ⟨j, single, runs, word⟩
  · rw [nobody] at owns
    exact absurd owns (Set.notMem_empty i)
  · have same : i = j := by rwa [single] at owns
    subst same
    exact ⟨single, runs, word⟩

/-- Two threads do not share an entry. -/
theorem entry_injective (h : Kept party address s) {i j : ι} {e : WaitEntry}
    (hi : s.entryOf i = some e) (hj : s.entryOf j = some e) : i = j :=
  party.distinct ((h.handles i e hi).symm.trans (h.handles j e hj))

/-- A step that leaves the word and the queue alone. -/
theorem elsewhere (h : Kept party address s) {run : WaitRun M A F} (step : s.run.Step run)
    (word : wordAt run.process.channel address = s.word address)
    (queue : run.process.mutexes.queueAt address = s.queue address) :
    Kept party address { s with run } := by
  have account := h.reachable.accounted
  have account' := (h.reachable.step step).accounted
  have change := step.change account
  have flags : ∀ i e, s.entryOf i = some e →
      run.process.wakes.isWoken e = s.run.process.wakes.isWoken e := fun i e entry =>
    change.isWoken_of_untouched account account' (h.arrived i e entry) queue
  have blocked : ∀ i, Blocked { s with run } i ↔ s.Blocked i := by
    intro i
    constructor
    · rintro ⟨e, entry, asleep⟩
      exact ⟨e, entry, (flags i e entry).symm.trans asleep⟩
    · rintro ⟨e, entry, asleep⟩
      exact ⟨e, entry, (flags i e entry).trans asleep⟩
  refine ⟨h.reachable.step step, ?_, ?_, ?_, h.handles⟩
  · rcases h.tag with ⟨nobody, zero, empty⟩ | ⟨i, single, runs, tag⟩
    · exact .inl ⟨nobody, word.trans zero, queue.trans empty⟩
    · refine .inr ⟨i, single, fun stuck => runs ((blocked i).mp stuck), ?_⟩
      have same : MutexRun.queue { s with run } address = s.queue address := queue
      rw [same]
      exact word.trans tag
  · intro e
    have same : MutexRun.queue { s with run } address = s.queue address := queue
    rw [same, h.queued]
    constructor
    · rintro ⟨i, entry, asleep⟩
      exact ⟨i, entry, (flags i e entry).trans asleep⟩
    · rintro ⟨i, entry, asleep⟩
      exact ⟨i, entry, (flags i e entry).symm.trans asleep⟩
  · intro i e entry
    exact change.arrivals_subset (h.arrived i e entry)

section Lock
variable [DecidableEq ι] {i : ι} {owner : Handle} {insist : Bool} {thread : GuestThread}

/-- A call that neither takes the mutex nor is queued at it. -/
theorem lock_still (h : Kept party address s)
    (word : wordAt (mutexLock address owner insist thread s.run.process).state.channel address =
      s.word address)
    (queue : (mutexLock address owner insist thread s.run.process).state.mutexes =
      s.run.process.mutexes)
    (unqueued : ∀ e, (mutexLock address owner insist thread s.run.process).outcome ≠
      .ok (.queued e)) (untaken : ¬ s.Takes address owner insist thread) :
    Kept party address (s.locked address i owner insist thread) := by
  have owners : {j | j ∈ s.owners ∨ j = i ∧ s.Takes address owner insist thread} = s.owners := by
    ext j
    rw [Set.mem_ofPred_eq]
    constructor
    · rintro (owns | ⟨_, takes⟩)
      · exact owns
      · exact absurd takes untaken
    · exact .inl
  have same : s.locked address i owner insist thread = { s with
      run := s.run.after (mutexLock address owner insist thread) (lockEvents address) } := by
    rw [locked, owners]
    split
    · rename_i e outcome
      exact absurd outcome (unqueued e)
    · rfl
  rw [same]
  refine h.elsewhere (.lock s.run address owner insist thread) word ?_
  change (mutexLock address owner insist thread s.run.process).state.mutexes.queueAt address = _
  rw [queue]
  rfl

theorem lock_taken (h : Kept party address s) (own : thread.handle = party.handle i)
    (runs : ¬ s.Blocked i) (zero : s.word address = 0)
    (passed : insist = true ∨ s.word address &&& mutexOwnerMask = owner) {c : M}
    {log : List LogRecord}
    (call : mutexLock address owner insist thread s.run.process =
      ⟨.ok .returned, { s.run.process with channel := c }, log⟩)
    (word : wordAt c address = s.run.process.takingTag address thread) :
    Kept party address (s.locked address i owner insist thread) := by
  obtain ⟨nobody, empty⟩ := h.free zero
  have waiters : s.run.process.mutexes.waiters address = (s.queue address).length := rfl
  rw [takingTag, own, waiters] at word
  have takes : s.Takes address owner insist thread := ⟨by rw [call], passed⟩
  have process : (s.locked address i owner insist thread).run.process =
      { s.run.process with channel := c } := by
    simp only [locked, after, call]
  have events : (s.locked address i owner insist thread).run.events = s.run.events := by
    simp only [locked, after, call, lockEvents, List.append_nil]
  have entries : (s.locked address i owner insist thread).entryOf = s.entryOf := by
    simp only [locked, call]
  have single : (s.locked address i owner insist thread).owners = {i} := by
    ext j
    simp [locked, nobody, takes]
  refine ⟨h.reachable.step (.lock s.run address owner insist thread),
    .inr ⟨i, single, ?_, ?_⟩, ?_, ?_, ?_⟩
  · rw [Blocked, process, entries]
    exact runs
  · rw [MutexRun.word, queue, process]
    exact word
  · rw [queue, process, entries]
    exact h.queued
  · rw [entries, events]
    exact h.arrived
  · rw [entries]
    exact h.handles

omit [ByteChannel M] in
/-- The last entry of each thread, after one of them was queued again. -/
theorem entry_of_update {j : ι} {e new : WaitEntry}
    (entry : Function.update s.entryOf i (some new) j = some e) :
    (j = i ∧ e = new) ∨ (j ≠ i ∧ s.entryOf j = some e) := by
  by_cases same : j = i
  · subst same
    rw [Function.update_self, Option.some.injEq] at entry
    exact .inl ⟨rfl, entry.symm⟩
  · rw [Function.update_of_ne same] at entry
    exact .inr ⟨same, entry⟩

theorem queued_update (h : Kept party address s) (runs : ¬ s.Blocked i) {new : WaitEntry}
    (asleep : s.run.process.wakes.isWoken new = false) (e : WaitEntry) :
    e ∈ s.queue address ++ [new] ↔ ∃ j, Function.update s.entryOf i (some new) j = some e ∧
      s.run.process.wakes.isWoken e = false := by
  rw [List.mem_append, List.mem_singleton, h.queued]
  constructor
  · rintro (⟨j, entry, asleep⟩ | rfl)
    · have other : j ≠ i := by
        rintro rfl
        exact runs ⟨e, entry, asleep⟩
      exact ⟨j, by rwa [Function.update_of_ne other], asleep⟩
    · exact ⟨i, Function.update_self .., asleep⟩
  · rintro ⟨j, entry, asleep⟩
    rcases entry_of_update entry with ⟨_, rfl⟩ | ⟨_, entry⟩
    · exact .inr rfl
    · exact .inl ⟨j, entry, asleep⟩

omit [DecidableEq ι] in
theorem asleep_of_queued (h : Kept party address s) {c : M} {log : List LogRecord}
    (call : mutexLock address owner insist thread s.run.process =
      ⟨.ok (.queued (.ofThread s.run.process.wakes.made thread)),
        s.run.process.withQueued address thread c, log⟩) :
    s.run.process.wakes.isWoken (.ofThread s.run.process.wakes.made thread) = false := by
  have reachable := h.reachable.step (.lock s.run address owner insist thread)
  have queued : .ofThread s.run.process.wakes.made thread ∈
      (s.run.process.withQueued address thread c).queueOf (.mutex address) := by
    change _ ∈ WaitQueues.queueAt (s.run.process.withQueued address thread c).mutexes address
    rw [withQueued, WaitQueues.queueAt_setQueue_self]
    exact List.mem_append_right _ (List.mem_singleton_self _)
  have accounted := reachable.accounted
  rw [after, call] at accounted
  exact accounted.asleep_of_queued queued

theorem lock_queued (h : Kept party address s) (own : thread.handle = party.handle i)
    (without : i ∉ s.owners) (runs : ¬ s.Blocked i) (nonzero : s.word address ≠ 0) {c : M}
    {log : List LogRecord}
    (call : mutexLock address owner insist thread s.run.process =
      ⟨.ok (.queued (.ofThread s.run.process.wakes.made thread)),
        s.run.process.withQueued address thread c, log⟩)
    (word : (wordAt c address = s.word address ∧ s.word address &&& mutexWaitersBit ≠ 0) ∨
      wordAt c address = s.word address ||| mutexWaitersBit) :
    Kept party address (s.locked address i owner insist thread) := by
  obtain ⟨k, single, kruns, tag⟩ := h.owned nonzero
  have marked : wordAt c address = ownedTag (party.handle k) true := by
    rcases word with ⟨same, bit⟩ | written
    · rw [tag, ownedTag_and_bit_ne_zero_iff] at bit
      rw [same, tag, bit]
    · rw [written, tag, ownedTag_or_bit]
  have apart : k ≠ i := by
    rintro rfl
    exact without (single ▸ Set.mem_singleton k)
  have process : (s.locked address i owner insist thread).run.process =
      s.run.process.withQueued address thread c := by
    simp only [locked, after, call]
  have events : (s.locked address i owner insist thread).run.events =
      s.run.events ++ [.arrived (.mutex address) (.ofThread s.run.process.wakes.made thread)] := by
    simp only [locked, after, call, lockEvents]
  have entries : (s.locked address i owner insist thread).entryOf =
      Function.update s.entryOf i (some (.ofThread s.run.process.wakes.made thread)) := by
    simp only [locked, call]
  have queue : (s.locked address i owner insist thread).queue address =
      s.queue address ++ [.ofThread s.run.process.wakes.made thread] := by
    rw [MutexRun.queue, process]
    exact WaitQueues.queueAt_setQueue_self _
  have flags : ∀ e, (s.locked address i owner insist thread).run.process.wakes.isWoken e =
      s.run.process.wakes.isWoken e := by
    intro e
    rw [process]
    rfl
  have owners : (s.locked address i owner insist thread).owners = {k} := by
    ext j
    simp [locked, Takes, call, single]
  have asleep := h.asleep_of_queued call
  refine ⟨h.reachable.step (.lock s.run address owner insist thread),
    .inr ⟨k, owners, ?_, ?_⟩, ?_, ?_, ?_⟩
  · rintro ⟨e, entry, asleep⟩
    rw [entries, Function.update_of_ne apart] at entry
    exact kruns ⟨e, entry, (flags e).symm.trans asleep⟩
  · have waits : decide (0 < (s.queue address ++
        [WaitEntry.ofThread s.run.process.wakes.made thread]).length) = true := by simp
    rw [queue, waits, MutexRun.word, process]
    exact marked
  · intro e
    rw [queue, entries, flags]
    exact h.queued_update runs asleep e
  · intro j e entry
    rw [entries] at entry
    rw [events, arrivals_append]
    rcases entry_of_update entry with ⟨_, rfl⟩ | ⟨_, entry⟩
    · exact List.mem_append_right _ (List.mem_singleton_self _)
    · exact List.mem_append_left _ (h.arrived j e entry)
  · intro j e entry
    rw [entries] at entry
    rcases entry_of_update entry with ⟨rfl, rfl⟩ | ⟨_, entry⟩
    · exact own
    · exact h.handles j e entry

theorem lock (h : Kept party address s) (own : thread.handle = party.handle i)
    (without : i ∉ s.owners) (runs : ¬ s.Blocked i) :
    Kept party address (s.locked address i owner insist thread) := by
  have exit := mutexLock_exit s.run.process address owner insist thread
  rcases call : mutexLock address owner insist thread s.run.process with ⟨outcome, q, log⟩
  have still : wordAt q.channel address = s.word address → q.mutexes = s.run.process.mutexes →
      (∀ e, outcome ≠ .ok (.queued e)) →
      ¬ (outcome = .ok .returned ∧ (insist = true ∨ s.word address &&& mutexOwnerMask = owner)) →
        Kept party address (s.locked address i owner insist thread) :=
    fun word queue unqueued untaken =>
      h.lock_still (by rw [call]; exact word) (by rw [call]; exact queue)
        (by rw [call]; exact unqueued) (by rw [Takes, call]; exact untaken)
  rw [call] at exit
  cases exit with
  | unread read => exact still (wordAt_of_readWord read) rfl (by simp) (by simp)
  | turnedAway read asked other =>
    rw [eq_wordAt_of_readWord read] at other
    exact still (wordAt_of_readWord read) rfl (by simp)
      fun takes => not_away takes.2 ⟨asked, other⟩
  | untaken read write =>
    refine still ?_ rfl (by simp) (by simp)
    exact (wordAt_of_writeWord_error write).trans (wordAt_of_readWord read)
  | taken read passed write =>
    have zero := eq_wordAt_of_readWord read
    rw [zero] at passed
    exact h.lock_taken own runs zero.symm passed call (wordAt_of_writeWord_ok write)
  | unmarked read write =>
    refine still ?_ rfl (by simp) (by simp)
    exact (wordAt_of_writeWord_error write).trans (wordAt_of_readWord read)
  | queued read passed nonzero marking =>
    have word := eq_wordAt_of_readWord read
    rw [word] at nonzero
    refine h.lock_queued own without runs nonzero call ?_
    cases marking with
    | marked bit =>
      rw [word] at bit
      exact .inl ⟨wordAt_of_readWord read, bit⟩
    | written bare write =>
      refine .inr ((wordAt_of_writeWord_ok write).trans ?_)
      rw [word]
      rfl

end Lock

section Unlock
variable {i : ι}

/-- A call that faults leaves the mutex owned. -/
theorem unlock_still (h : Kept party address s) {fault : Fault} {c : M} {log : List LogRecord}
    (call : mutexUnlock address s.run.process =
      ⟨.error fault, { s.run.process with channel := c }, log⟩)
    (word : wordAt c address = s.word address) : Kept party address (s.unlocked address i) := by
  have same : s.unlocked address i =
      { s with run := s.run.after (mutexUnlock address) (unlockEvents address) } := by
    simp only [unlocked, call, heirs]
  rw [same]
  refine h.elsewhere (.unlock s.run address) ?_ ?_
  · simpa only [after, call] using word
  · simp only [after, call]
    rfl

/-- A call that finds nobody queued frees the mutex. -/
theorem unlock_cleared (h : Kept party address s) (owns : i ∈ s.owners) {c : M}
    {log : List LogRecord}
    (call : mutexUnlock address s.run.process =
      ⟨.ok none, { s.run.process with channel := c }, log⟩)
    (nobody : s.queue address = []) (word : wordAt c address = 0) :
    Kept party address (s.unlocked address i) := by
  obtain ⟨single, _, _⟩ := h.owned_of_mem owns
  have process : (s.unlocked address i).run.process = { s.run.process with channel := c } := by
    simp only [unlocked, after, call]
  have events : (s.unlocked address i).run.events = s.run.events := by
    simp only [unlocked, after, call, unlockEvents, List.append_nil]
  have owners : (s.unlocked address i).owners = ∅ := by
    ext j
    simp [unlocked, call, heirs, single]
  refine ⟨h.reachable.step (.unlock s.run address), .inl ⟨owners, ?_, ?_⟩, ?_, ?_, h.handles⟩
  · rw [MutexRun.word, process]
    exact word
  · rw [queue, process]
    exact nobody
  · rw [queue, process]
    exact h.queued
  · rw [events]
    exact h.arrived

theorem unlock_handed (h : Kept party address s) (owns : i ∈ s.owners)
    {before after : List WaitEntry} {e : WaitEntry} {c : M} {log : List LogRecord}
    (cut : WaitEntry.Selected (s.queue address) before e after)
    (call : mutexUnlock address s.run.process =
      ⟨.ok (some e), { s.run.process with
        channel := c
        mutexes := (s.run.process.mutexes.remove address e).getD s.run.process.mutexes
        wakes := s.run.process.wakes.wake e }, log⟩)
    (word : wordAt c address = ownedTag e.handle (1 < s.run.process.mutexes.waiters address)) :
    Kept party address (s.unlocked address i) := by
  have account := h.reachable.accounted
  have distinct : Distinct (s.queue address) := account.distinct (.mutex address)
  have removal := WaitQueues.remove_of_mem distinct cut.mem
  obtain ⟨single, _, _⟩ := h.owned_of_mem owns
  obtain ⟨heir, entry, asleep⟩ := (h.queued e).mp cut.mem
  have process : (s.unlocked address i).run.process = { s.run.process with
      channel := c
      mutexes := (s.run.process.mutexes.remove address e).getD s.run.process.mutexes
      wakes := s.run.process.wakes.wake e } := by
    simp only [unlocked, WaitRun.after, call]
  have queue : (s.unlocked address i).queue address = remaining [e] (s.queue address) := by
    rw [MutexRun.queue, process, removal]
    exact WaitQueues.queueAt_setQueue_self _
  have waiters : s.run.process.mutexes.waiters address = (before ++ after).length + 1 := cut.length
  have flags : ∀ j e', s.entryOf j = some e' →
      ((s.unlocked address i).run.process.wakes.isWoken e' = false ↔
        e' ≠ e ∧ s.run.process.wakes.isWoken e' = false) := by
    intro j e' entry'
    rw [process, ← Bool.not_eq_true, WakeBoard.isWoken_wake, not_or, Bool.not_eq_true]
    refine and_congr_left fun _ => not_congr ⟨fun same => ?_, fun same => same ▸ rfl⟩
    exact (account.unique (h.arrived j e' entry') (h.arrived heir e entry) same).2
  have owners : (s.unlocked address i).owners = {heir} := by
    ext j
    simp only [unlocked, call, heirs, single, Set.mem_ofPred_eq, Set.mem_singleton_iff]
    constructor
    · rintro (⟨same, other⟩ | entry')
      · exact absurd same other
      · exact h.entry_injective entry' entry
    · rintro rfl
      exact .inr entry
  refine ⟨h.reachable.step (.unlock s.run address), .inr ⟨heir, owners, ?_, ?_⟩, ?_, ?_,
    h.handles⟩
  · rintro ⟨e', entry', asleep'⟩
    have same : e' = e := Option.some.inj (entry'.symm.trans entry)
    exact ((flags heir e' entry').mp asleep').1 same
  · rw [queue, remaining_of_split distinct cut.split, MutexRun.word, process, word, waiters,
      h.handles heir e entry]
    simp
  · intro e'
    rw [queue, mem_remaining, List.mem_singleton, h.queued]
    constructor
    · rintro ⟨⟨j, entry', asleep'⟩, other⟩
      exact ⟨j, entry', (flags j e' entry').mpr ⟨other, asleep'⟩⟩
    · rintro ⟨j, entry', asleep'⟩
      obtain ⟨other, asleep'⟩ := (flags j e' entry').mp asleep'
      exact ⟨⟨j, entry', asleep'⟩, other⟩
  · intro j e' entry'
    have change := (WaitRun.Step.unlock s.run address).change account
    exact change.arrivals_subset (h.arrived j e' entry')

theorem unlock (h : Kept party address s) (owns : i ∈ s.owners) :
    Kept party address (s.unlocked address i) := by
  have exit := mutexUnlock_exit s.run.process address
  rcases call : mutexUnlock address s.run.process with ⟨outcome, q, log⟩
  rw [call] at exit
  cases exit with
  | unread nobody read => exact h.unlock_still call (wordAt_of_readWord read)
  | uncleared nobody read write =>
    exact h.unlock_still call ((wordAt_of_writeWord_error write).trans (wordAt_of_readWord read))
  | cleared nobody read write =>
    exact h.unlock_cleared owns call nobody (wordAt_of_writeWord_ok write)
  | unhanded cut write => exact h.unlock_still call (wordAt_of_writeWord_error write)
  | handed cut write => exact h.unlock_handed owns cut call (wordAt_of_writeWord_ok write)

end Unlock

section Guest
variable {i : ι} {channel : M}

/-- A thread takes a free mutex by itself. -/
theorem acquire (h : Kept party address s) (runs : ¬ s.Blocked i) (zero : s.word address = 0)
    (written : Overwritten s.run.process.channel address (party.handle i) channel) :
    Kept party address (s.withChannel channel (insert i s.owners)) := by
  obtain ⟨nobody, empty⟩ := h.free zero
  have word := wordAt_of_overwrite written
  refine ⟨h.reachable.step (.guest s.run channel), .inr ⟨i, ?_, runs, ?_⟩, h.queued, h.arrived,
    h.handles⟩
  · rw [withChannel, nobody]
    exact insert_empty_eq i
  · have queue : (s.withChannel channel (insert i s.owners)).queue address = [] := empty
    rw [queue]
    exact word.trans (masked_handle party i).symm

/-- A thread gives up a mutex that nobody else wants by itself. -/
theorem release (h : Kept party address s) (owns : i ∈ s.owners)
    (bare : s.word address = party.handle i)
    (written : Overwritten s.run.process.channel address 0 channel) :
    Kept party address (s.withChannel channel (s.owners \ {i})) := by
  obtain ⟨single, _, tag⟩ := h.owned_of_mem owns
  have bit := ownedTag_and_bit_ne_zero_iff (party.handle i) (0 < (s.queue address).length)
  have empty : s.queue address = [] := by
    rw [← tag, bare, party.clear i] at bit
    simpa using bit
  refine ⟨h.reachable.step (.guest s.run channel), .inl ⟨?_, wordAt_of_overwrite written, empty⟩,
    h.queued, h.arrived, h.handles⟩
  rw [withChannel, single]
  exact Set.sdiff_self

end Guest

theorem step [DecidableEq ι] {t : MutexRun M A F ι} (h : Kept party address s)
    (step : Step party address s t) : Kept party address t := by
  cases step with
  | lock i owner insist thread own without runs => exact h.lock own without runs
  | unlock i owns => exact h.unlock owns
  | acquire i channel runs free written => exact h.acquire runs free written
  | release i channel owns bare written => exact h.release owns bare written
  | elsewhere run step word queue => exact h.elsewhere step word queue

end Kept

theorem Reachable.kept [DecidableEq ι] (h : Reachable party address s) : Kept party address s := by
  induction h with
  | start run reachable free nobody =>
    refine ⟨reachable, .inl ⟨rfl, free, nobody⟩, ?_, by simp, by simp⟩
    intro e
    rw [queue, nobody]
    simp
  | step _ step ih => exact ih.step step

/-- What holds of the threads that share a mutex at all times. -/
structure WellHeld [DecidableEq ι] (party : MutexParty ι) (address : VirtAddr)
    (s : MutexRun M A F ι) : Prop where
  exclusive : ∀ i ∈ s.owners, ∀ j ∈ s.owners, i = j
  free_iff : s.word address = 0 ↔ s.owners = ∅
  ownerField : ∀ i ∈ s.owners, s.word address &&& mutexOwnerMask = party.handle i
  waitersBit : s.word address &&& mutexWaitersBit ≠ 0 ↔ s.queue address ≠ []
  blockedOnce : ∀ i, s.Blocked i →
    (s.queue address).countP (fun e => e.handle == party.handle i) = 1
  queuedBlocked : ∀ e ∈ s.queue address, ∃ i, s.Blocked i ∧ s.entryOf i = some e
  ownerRuns : ∀ i ∈ s.owners, ¬ s.Blocked i ∧ ∀ e ∈ s.queue address, e.handle ≠ party.handle i
  /-- A call that takes the mutex finds it free and leaves the handle of the caller in its word. -/
  taking : ∀ i owner insist thread, thread.handle = party.handle i → ¬ s.Blocked i →
    s.Takes address owner insist thread →
    s.word address = 0 ∧ s.owners = ∅ ∧
      (s.locked address i owner insist thread).owners = {i} ∧
      (s.locked address i owner insist thread).word address = party.handle i
  /-- A call that can access the word and is not turned away takes a free mutex, and blocks its
  thread at any other. -/
  answered : ∀ i owner insist thread, Accessible s.run.process.channel address →
    insist = true ∨ s.word address &&& mutexOwnerMask = owner →
    (s.word address = 0 ∧ s.Takes address owner insist thread) ∨
      (s.word address ≠ 0 ∧ (s.locked address i owner insist thread).owners = s.owners ∧
        (s.locked address i owner insist thread).Blocked i)
  /-- While a thread is blocked there is an owner, who cannot drop the mutex without a call, and
  whose call hands it to a blocked thread. -/
  served : ∀ j, s.Blocked j → ∃ i ∈ s.owners, s.word address ≠ party.handle i ∧
    (Accessible s.run.process.channel address →
      ∃ k e, s.Blocked k ∧ s.entryOf k = some e ∧
        (mutexUnlock address s.run.process).outcome = .ok (some e) ∧
        (s.unlocked address i).owners = {k} ∧ ¬ (s.unlocked address i).Blocked k)

namespace Kept

theorem waitersBit_iff (h : Kept party address s) :
    s.word address &&& mutexWaitersBit ≠ 0 ↔ s.queue address ≠ [] := by
  rcases h.tag with ⟨_, zero, empty⟩ | ⟨i, _, _, tag⟩
  · simp [zero, empty]
  · rw [tag, ownedTag_and_bit_ne_zero_iff, decide_eq_true_eq, List.length_pos_iff]

theorem queue_ne_nil (h : Kept party address s) {j : ι} (blocked : s.Blocked j) :
    s.queue address ≠ [] := by
  obtain ⟨e, entry, asleep⟩ := blocked
  exact List.ne_nil_of_mem ((h.queued e).mpr ⟨j, entry, asleep⟩)

/-- The entries with the handle of a blocked thread are its own. -/
theorem entry_of_handle (h : Kept party address s) {i : ι} {e : WaitEntry}
    (queued : e ∈ s.queue address) (same : e.handle = party.handle i) : s.entryOf i = some e := by
  obtain ⟨j, entry, _⟩ := (h.queued e).mp queued
  have : j = i := party.distinct ((h.handles j e entry).symm.trans same)
  exact this ▸ entry

theorem countP_of_blocked (h : Kept party address s) {i : ι} (blocked : s.Blocked i) :
    (s.queue address).countP (fun e => e.handle == party.handle i) = 1 := by
  obtain ⟨e, entry, asleep⟩ := blocked
  have queued := (h.queued e).mpr ⟨i, entry, asleep⟩
  have distinct : Distinct (s.queue address) := h.reachable.accounted.distinct (.mutex address)
  rw [← List.count_eq_one_of_mem distinct.nodup queued, List.count]
  apply List.countP_congr
  intro e' queued'
  rw [beq_iff_eq, beq_iff_eq]
  constructor
  · intro same
    exact Option.some.inj ((h.entry_of_handle queued' same).symm.trans entry)
  · rintro rfl
    exact h.handles i e' entry

theorem served (h : Kept party address s) {i j : ι} (owns : i ∈ s.owners)
    (blocked : s.Blocked j) (accessible : Accessible s.run.process.channel address) :
    ∃ k e, s.Blocked k ∧ s.entryOf k = some e ∧
      (mutexUnlock address s.run.process).outcome = .ok (some e) ∧
      (s.unlocked address i).owners = {k} ∧ ¬ (s.unlocked address i).Blocked k := by
  have account := h.reachable.accounted
  cases next : s.run.process.mutexes.peekNext address with
  | none => exact absurd (WaitQueues.peekNext_eq_none_iff.mp next) (h.queue_ne_nil blocked)
  | some e =>
    obtain ⟨before, after, cut⟩ := WaitQueues.selected_of_peekNext next
    obtain ⟨k, entry, asleep⟩ := (h.queued e).mp cut.mem
    have serves := (serves_first accessible (account.distinct (.mutex address)) cut asleep).1
    rw [WaitEntry.serviceOrder_of_selected cut] at serves
    have outcome : (mutexUnlock address s.run.process).outcome = .ok (some e) := serves.1
    have heir : k ∈ (s.unlocked address i).owners := by
      rw [unlocked, outcome]
      exact .inr entry
    obtain ⟨single, runs, _⟩ := (h.unlock owns).owned_of_mem heir
    exact ⟨k, e, ⟨e, entry, asleep⟩, entry, outcome, single, runs⟩

section Answers
variable [DecidableEq ι] {i : ι} {owner : Handle} {insist : Bool} {thread : GuestThread}

theorem taking (h : Kept party address s) (own : thread.handle = party.handle i)
    (runs : ¬ s.Blocked i) (takes : s.Takes address owner insist thread) :
    s.word address = 0 ∧ s.owners = ∅ ∧
      (s.locked address i owner insist thread).owners = {i} ∧
      (s.locked address i owner insist thread).word address = party.handle i := by
  obtain ⟨zero, queues⟩ : s.word address = 0 ∧
      (mutexLock address owner insist thread s.run.process).state.mutexes =
        s.run.process.mutexes := by
    have done := mutexLock_done takes.1
    generalize (mutexLock address owner insist thread s.run.process).state = q at done ⊢
    cases done with
    | turnedAway asked other => exact absurd ⟨asked, other⟩ (not_away takes.2)
    | taken free => exact ⟨free, rfl⟩
  obtain ⟨nobody, empty⟩ := h.free zero
  have without : i ∉ s.owners := nobody ▸ Set.notMem_empty i
  have owns : i ∈ (s.locked address i owner insist thread).owners := .inr ⟨rfl, takes⟩
  obtain ⟨single, _, tag⟩ := (h.lock own without runs).owned_of_mem owns
  have queue : (s.locked address i owner insist thread).queue address = [] :=
    (congrArg (WaitQueues.queueAt · address) queues).trans empty
  rw [queue] at tag
  exact ⟨zero, nobody, single, tag.trans (masked_handle party i)⟩

theorem answered (h : Kept party address s) (i : ι)
    (accessible : Accessible s.run.process.channel address)
    (passed : insist = true ∨ s.word address &&& mutexOwnerMask = owner) :
    (s.word address = 0 ∧ s.Takes address owner insist thread) ∨
      (s.word address ≠ 0 ∧ (s.locked address i owner insist thread).owners = s.owners ∧
        (s.locked address i owner insist thread).Blocked i) := by
  obtain ⟨answer, ok⟩ := mutexLock_answers accessible owner insist thread
  have done := mutexLock_done ok
  rcases call : mutexLock address owner insist thread s.run.process with ⟨outcome, q, log⟩
  rw [call] at ok done
  subst ok
  cases done with
  | turnedAway asked other => exact absurd ⟨asked, other⟩ (not_away passed)
  | taken free => exact .inl ⟨free, by rw [call], passed⟩
  | queued owned =>
    refine .inr ⟨owned, ?_, .ofThread s.run.process.wakes.made thread, ?_, ?_⟩
    · ext j
      simp [locked, Takes, call]
    · simp only [locked, call, Function.update_self]
    · simp only [locked, after, call]
      exact h.asleep_of_queued call

end Answers

end Kept

/-- Threads that share a mutex exclude each other, and none that is blocked is forgotten. -/
theorem Reachable.wellHeld [DecidableEq ι] (h : Reachable party address s) :
    WellHeld party address s := by
  have kept := h.kept
  refine ⟨?_, ⟨fun zero => (kept.free zero).1, ?_⟩, ?_, kept.waitersBit_iff,
    fun i => kept.countP_of_blocked, ?_, ?_, fun i owner insist thread => kept.taking,
    fun i owner insist thread => kept.answered i, ?_⟩
  · intro i hi j hj
    rw [(kept.owned_of_mem hj).1] at hi
    exact hi
  · intro nobody
    rcases kept.tag with ⟨_, zero, _⟩ | ⟨i, single, _⟩
    · exact zero
    · rw [nobody] at single
      exact absurd single.symm (Set.singleton_ne_empty i)
  · intro i owns
    rw [(kept.owned_of_mem owns).2.2, ownedTag_and_mask, masked_handle]
  · intro e queued
    obtain ⟨i, entry, asleep⟩ := (kept.queued e).mp queued
    exact ⟨i, ⟨e, entry, asleep⟩, entry⟩
  · intro i owns
    obtain ⟨_, runs, _⟩ := kept.owned_of_mem owns
    refine ⟨runs, fun e queued same => runs ?_⟩
    obtain ⟨j, _, asleep⟩ := (kept.queued e).mp queued
    exact ⟨e, kept.entry_of_handle queued same, asleep⟩
  · intro j blocked
    have bit := kept.waitersBit_iff.mpr (kept.queue_ne_nil blocked)
    have nonzero : s.word address ≠ 0 := by
      intro zero
      rw [zero, UInt32.zero_and] at bit
      exact bit rfl
    obtain ⟨i, single, _⟩ := kept.owned nonzero
    have owns : i ∈ s.owners := single ▸ Set.mem_singleton i
    refine ⟨i, owns, ?_, kept.served owns blocked⟩
    intro bare
    rw [bare, party.clear i] at bit
    exact bit rfl

/-- The first of two threads owns the mutex and the second is blocked. -/
theorem wellHeld_with_blocked : ∃ (party : MutexParty Bool) (s : MutexRun Window Unit Unit Bool),
    s.word 0x1000 = 0x40000005 ∧ s.Blocked true ∧ WellHeld party 0x1000 s := by
  let party : MutexParty Bool := ⟨fun i => if i then 6 else 5, by decide, by decide, by decide⟩
  have start : Reachable party 0x1000 _ := .start _
    (WaitRun.Reachable.start 0 {} (Window.new 0x1000 0x1000) () ()) (by decide) (by decide)
  have taken := start.step (.lock _ false 0 true ⟨5, 1, 100, 0⟩ rfl (Set.notMem_empty _)
    (by rintro ⟨e, entry, _⟩; cases entry))
  have queued := taken.step (.lock _ true 5 false ⟨6, 1, 101, 0⟩ rfl
    (by rintro (owns | ⟨same, _⟩); exacts [owns, nomatch same])
    (by rintro ⟨e, entry, _⟩; cases entry))
  exact ⟨party, _, by decide, ⟨_, rfl, rfl⟩, queued.wellHeld⟩

end MutexRun

end GuestKernel
