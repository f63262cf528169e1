import Mathlib
import GuestKernel.Proofs.HandleTable.Owners
import GuestKernel.Proofs.HandleTable.WriteOnce

/-!
# Which bindings own an address

Whether a handle owns memory follows from the way in which it was bound. `Traced` keeps these ways
next to a run, `viewsOf` reads from them what each handle shows as memory, and a query of the table
finds an address exactly if such a memory contains it. The addresses of a memory are compared as
unbounded numbers; no order of the entries plays a part.
-/

set_option autoImplicit false

namespace GuestKernel

/-- The memory that a binding shows. -/
def Binding.view (binding : Binding) : Option MemoryObject :=
  binding.region.map fun region => ⟨binding.object, region⟩

/-- The way in which a handle came to its binding. -/
inductive Provenance where
  | object (object : KernelObject)
  | memory (memory : MemoryObject)
  | copy (source : Handle)

namespace Provenance

/-- The memory that a handle shows which was bound in this way. An object shows a memory if it
offers a region; what is bound as a memory shows it in any case. -/
def view (views : Handle → Option MemoryObject) : Provenance → Option MemoryObject
  | object o => o.region.map fun region => ⟨o, region⟩
  | memory m => some m
  | copy source => views source

def event (handle : Handle) : Provenance → TableEvent
  | object o => .created handle (.ofObject o)
  | memory m => .created handle (.ofMemory m)
  | copy source => .copied source handle

/-- What a handle gets that is bound in this way, if the others hold `held`. -/
def binding (held : Handle → Option Binding) : Provenance → Option Binding
  | object o => some (.ofObject o)
  | memory m => some (.ofMemory m)
  | copy source => held source

theorem view_of_binding {made : Provenance} {held : Handle → Option Binding} {binding : Binding}
    {views : Handle → Option MemoryObject}
    (shown : ∀ handle binding, held handle = some binding → views handle = binding.view)
    (found : made.binding held = some binding) : made.view views = binding.view := by
  cases made with
  | object o =>
    cases found
    rfl
  | memory m =>
    cases found
    rfl
  | copy source => exact shown source binding found

theorem bound?_event (handle : Handle) (made : Provenance) :
    (made.event handle).bound? = some handle := by
  cases made <;> rfl

theorem apply_event (held : Handle → Option Binding) (handle : Handle) (made : Provenance) :
    (made.event handle).apply held = Function.update held handle (made.binding held) := by
  cases made <;> rfl

theorem view_update {made : Provenance} {handle : Handle}
    (apart : ∀ source, made = .copy source → source ≠ handle)
    (views : Handle → Option MemoryObject) (memory : Option MemoryObject) :
    made.view (Function.update views handle memory) = made.view views := by
  cases made with
  | object o => rfl
  | memory m => rfl
  | copy source => exact Function.update_of_ne (apart source rfl) ..

end Provenance

/-- What each handle shows as memory, if the handles were bound in these ways. -/
def viewsOf (origins : List (Handle × Provenance)) : Handle → Option MemoryObject :=
  origins.foldl (fun views made => Function.update views made.1 (made.2.view views)) fun _ => none

theorem viewsOf_append_one (origins : List (Handle × Provenance)) (handle : Handle)
    (made : Provenance) : viewsOf (origins ++ [(handle, made)]) =
      Function.update (viewsOf origins) handle (made.view (viewsOf origins)) := by
  rw [viewsOf, List.foldl_append]
  rfl

/-- The handle that a call with this outcome has bound, and the way in which. -/
def TableCall.origin? : (call : TableCall) → Except Fault call.Answer → Option (Handle × Provenance)
  | newHandle build, .ok (handle, _) =>
    match build handle with
    | .ok object => some (handle, .object object)
    | .error _ => none
  | insertItem object, .ok handle => some (handle, .object object)
  | insertMemory memory, .ok handle => some (handle, .memory memory)
  | duplicateHandle source, .ok copy => some (copy, .copy source)
  | _, _ => none

theorem TableCall.origin?_cases (call : TableCall) (outcome : Except Fault call.Answer) :
    (∃ handle made, call.origin? outcome = some (handle, made) ∧
      call.events outcome = [made.event handle]) ∨
    call.origin? outcome = none ∧
      (call.events outcome = [] ∨ ∃ handle, call.events outcome = [.deleted handle]) := by
  cases call with
  | newHandle build =>
    rcases outcome with fault | ⟨handle, answered⟩
    · exact .inr ⟨rfl, .inl rfl⟩
    · simp only [origin?, events]
      cases build handle with
      | ok object => exact .inl ⟨handle, .object object, rfl, rfl⟩
      | error cause => exact .inr ⟨rfl, .inl rfl⟩
  | insertItem object =>
    rcases outcome with fault | handle
    · exact .inr ⟨rfl, .inl rfl⟩
    · exact .inl ⟨handle, .object object, rfl, rfl⟩
  | insertMemory memory =>
    rcases outcome with fault | handle
    · exact .inr ⟨rfl, .inl rfl⟩
    · exact .inl ⟨handle, .memory memory, rfl, rfl⟩
  | duplicateHandle source =>
    rcases outcome with fault | copy
    · exact .inr ⟨rfl, .inl rfl⟩
    · exact .inl ⟨copy, .copy source, rfl, rfl⟩
  | deleteHandle handle =>
    rcases outcome with fault | ⟨_ | object⟩
    · exact .inr ⟨rfl, .inl rfl⟩
    · exact .inr ⟨rfl, .inl rfl⟩
    · exact .inr ⟨rfl, .inr ⟨handle, rfl⟩⟩
  | getObject | getHandle | memoryObject => cases outcome <;> exact .inr ⟨rfl, .inl rfl⟩

/-- What the ways of binding say of a history. -/
structure Matches (events : List TableEvent) (origins : List (Handle × Provenance)) : Prop where
  handles : origins.map Prod.fst = boundHandles events
  views : ∀ handle binding, contents events handle = some binding →
    viewsOf origins handle = binding.view
  laws : ∀ handle made, (handle, made) ∈ origins →
    viewsOf origins handle = made.view (viewsOf origins)
  sources : ∀ copy source, (copy, .copy source) ∈ origins → source ∈ boundHandles events

namespace Matches

variable {events : List TableEvent} {origins : List (Handle × Provenance)} {handle : Handle}

theorem binds (h : Matches events origins) (made : Provenance)
    (fresh : handle ∉ boundHandles events)
    (present : ∀ source, made = .copy source → contents events source ≠ none) :
    Matches (events ++ [made.event handle]) (origins ++ [(handle, made)]) := by
  have more : boundHandles (events ++ [made.event handle]) = boundHandles events ++ [handle] := by
    rw [boundHandles_append_one, made.bound?_event]
    rfl
  -- the new handle is no source, so what the older handles show does not change
  have apart : ∀ {other : Provenance}, (∀ source, other = .copy source →
      source ∈ boundHandles events) → ∀ source, other = .copy source → source ≠ handle := by
    rintro other known source copied rfl
    exact fresh (known source copied)
  have known : ∀ source, made = .copy source → source ∈ boundHandles events :=
    fun source copied => mem_boundHandles _ (present source copied)
  refine ⟨?_, ?_, ?_, ?_⟩
  · rw [List.map_append, h.handles, more]
    rfl
  · intro other binding found
    rw [contents_append_one, made.apply_event] at found
    rw [viewsOf_append_one]
    by_cases same : other = handle
    · subst same
      rw [Function.update_self] at found ⊢
      exact Provenance.view_of_binding h.views found
    · rw [Function.update_of_ne same] at found ⊢
      exact h.views other binding found
  · intro other way mem
    rw [viewsOf_append_one]
    rcases List.mem_append.mp mem with mem | mem
    · have old : other ∈ boundHandles events := h.handles ▸ List.mem_map_of_mem mem
      have elsewhere : other ≠ handle := fun same => fresh (same ▸ old)
      have sources : ∀ source, way = .copy source → source ∈ boundHandles events :=
        fun source copied => h.sources other source (copied ▸ mem)
      rw [Function.update_of_ne elsewhere, Provenance.view_update (apart sources)]
      exact h.laws other way mem
    · cases List.mem_singleton.mp mem
      rw [Function.update_self, Provenance.view_update (apart known)]
  · intro copy source mem
    rw [more]
    apply List.mem_append_left
    rcases List.mem_append.mp mem with mem | mem
    · exact h.sources copy source mem
    · cases List.mem_singleton.mp mem
      exact known source rfl

theorem deletes (h : Matches events origins) (gone : Handle) :
    Matches (events ++ [.deleted gone]) origins := by
  have same : boundHandles (events ++ [.deleted gone]) = boundHandles events := by
    rw [boundHandles_append_one]
    exact List.append_nil _
  refine ⟨same ▸ h.handles, ?_, h.laws, ?_⟩
  · intro handle binding found
    rw [contents_append_one, TableEvent.apply, Function.update_apply] at found
    split at found
    · cases found
    · exact h.views handle binding found
  · rw [same]
    exact h.sources

end Matches

namespace TableRun

/-- A run together with the ways in which its handles were bound. -/
inductive Traced (base : Handle) : TableRun → List (Handle × Provenance) → Prop where
  | start : Traced base ⟨.new base, [], []⟩ []
  | call {s : TableRun} {origins : List (Handle × Provenance)} (traced : Traced base s origins)
      (call : TableCall) :
      Traced base ⟨(call.perform s.table).state, s.building,
          s.events ++ call.events (call.perform s.table).outcome⟩
        (origins ++ (call.origin? (call.perform s.table).outcome).toList)
  | finishes {s : TableRun} {origins : List (Handle × Provenance)} (traced : Traced base s origins)
      {handle : Handle} (object : KernelObject) (here : handle ∈ s.building) :
      Traced base ⟨(HandleTable.bind handle (.ofObject object) s.table).state,
          s.building.erase handle, s.events ++ [.created handle (.ofObject object)]⟩
        (origins ++ [(handle, .object object)])
  /-- A step that leaves no event has bound nothing. -/
  | silent {s t : TableRun} {origins : List (Handle × Provenance)} (traced : Traced base s origins)
      (step : Step s t) (same : t.events = s.events) : Traced base t origins

variable {base : Handle} {s : TableRun} {origins : List (Handle × Provenance)}

theorem Traced.reachable (h : Traced base s origins) : Reachable base s := by
  induction h with
  | start => exact .start
  | call _ call ih => exact ih.step (.call _ call)
  | finishes _ object here ih => exact ih.step (.finishes _ object here)
  | silent _ step _ ih => exact ih.step step

theorem Reachable.exists_traced (h : Reachable base s) : ∃ origins, Traced base s origins := by
  induction h with
  | start => exact ⟨[], .start⟩
  | step _ step ih =>
    obtain ⟨origins, traced⟩ := ih
    cases step with
    | call call => exact ⟨_, traced.call call⟩
    | begins reserved => exact ⟨_, traced.silent (.begins _ reserved) rfl⟩
    | finishes object here => exact ⟨_, traced.finishes object here⟩
    | fails here => exact ⟨_, traced.silent (.fails _ here) rfl⟩

theorem source_of_copied {table after : HandleTable} {source copy : Handle}
    (change : TableChange table [.copied source copy] after) :
    table.bindings.get? source ≠ none := by
  cases change with
  | copied _ _ found =>
    rw [found]
    exact Option.some_ne_none _

theorem Traced.matched (h : Traced base s origins) : Matches s.events origins := by
  induction h with
  | start =>
    refine ⟨rfl, ?_, ?_, ?_⟩
    · intro handle binding found
      cases found
    · intro handle made mem
      cases mem
    · intro copy source mem
      cases mem
  | @call s origins traced call ih =>
    have after := (traced.reachable.step (.call s call)).kept.once
    dsimp only at after ⊢
    rcases call.origin?_cases (call.perform s.table).outcome with
      ⟨handle, made, bound, left⟩ | ⟨none, left | ⟨gone, left⟩⟩
    · rw [left] at after
      rw [bound, left]
      rw [boundHandles_append_one, made.bound?_event] at after
      have apart := List.nodup_append.mp (List.nodup_append.mp after).2.1
      refine ih.binds made (fun mem => apart.2.2 handle mem handle List.mem_cons_self rfl) ?_
      rintro source rfl
      rw [← traced.reachable.kept.bindings]
      exact source_of_copied (left ▸ call.change s.table)
    · rw [none, left, List.append_nil, Option.toList_none, List.append_nil]
      exact ih
    · rw [none, left, Option.toList_none, List.append_nil]
      exact ih.deletes gone
  | @finishes s origins traced handle object here ih =>
    have before := (List.nodup_append.mp traced.reachable.kept.once).2.2
    exact ih.binds (.object object) (fun mem => before handle here handle mem rfl) nofun
  | silent _ _ same ih => exact same ▸ ih

/-- The handle is bound, shows the memory, and the address lies in that. -/
structure Owns (s : TableRun) (views : Handle → Option MemoryObject) (address : VirtAddr)
    (owner : Owner) : Prop where
  bound : s.table.bindings.get? owner.handle ≠ none
  view : views owner.handle = some owner.memory
  low : owner.memory.region.address.toNat ≤ address.toNat
  high : address.toNat < owner.memory.region.address.toNat + owner.memory.region.size.toNat

theorem Traced.ownedBy_iff (h : Traced base s origins) {address : VirtAddr} {owner : Owner} :
    s.table.OwnedBy address owner ↔ s.Owns (viewsOf origins) address owner := by
  have views : ∀ binding, s.table.bindings.get? owner.handle = some binding →
      viewsOf origins owner.handle = binding.view := fun binding found =>
    h.matched.views _ _ ((h.reachable.kept.bindings _).symm.trans found)
  constructor
  · rintro ⟨bound, inside⟩
    obtain ⟨low, high⟩ := (Region.contains_iff ..).mp inside
    exact ⟨bound ▸ Option.some_ne_none _, views _ bound, low, high⟩
  · rintro ⟨bound, view, low, high⟩
    obtain ⟨binding, found⟩ := Option.ne_none_iff_exists'.mp bound
    rw [views binding found] at view
    obtain ⟨region, offered, shown⟩ := Option.map_eq_some_iff.mp view
    refine ⟨?_, (Region.contains_iff ..).mpr ⟨low, high⟩⟩
    rw [found, ← shown]
    obtain ⟨object, _⟩ := binding
    cases offered
    rfl

/-- Queries for the owner of an address are answered by the memories that the bound handles show. -/
structure OwnersExact (s : TableRun) (origins : List (Handle × Provenance)) : Prop where
  /-- Every handle was bound in one way at most, and in some way if it still is bound. -/
  once : (origins.map Prod.fst).Nodup
  known : ∀ handle, s.table.bindings.get? handle ≠ none → ∃ made, (handle, made) ∈ origins
  object : ∀ handle o, (handle, .object o) ∈ origins →
    viewsOf origins handle = o.region.map fun region => ⟨o, region⟩
  memory : ∀ handle m, (handle, .memory m) ∈ origins → viewsOf origins handle = some m
  copy : ∀ handle source, (handle, .copy source) ∈ origins →
    viewsOf origins handle = viewsOf origins source
  /-- Several owners may share an address; the one with the smallest handle is found. -/
  found_iff : ∀ address owner, s.table.memoryObject address = some owner ↔
    s.Owns (viewsOf origins) address owner ∧
      ∀ other, s.Owns (viewsOf origins) address other → owner.handle.toNat ≤ other.handle.toNat
  isSome_iff : ∀ address, (s.table.memoryObject address).isSome = true ↔
    ∃ owner, s.Owns (viewsOf origins) address owner
  anyOrder : ∀ other : HandleTable, other.bindings.entries.Perm s.table.bindings.entries →
    ∀ address, other.memoryObject address = s.table.memoryObject address

theorem Traced.ownersExact (h : Traced base s origins) : OwnersExact s origins := by
  have matched := h.matched
  refine ⟨?_, ?_, fun handle o => matched.laws handle _, fun handle m => matched.laws handle _,
    fun handle source => matched.laws handle _, ?_, ?_,
    fun other same address => HandleTable.memoryObject_of_perm same⟩
  · rw [matched.handles]
    exact (List.nodup_append.mp h.reachable.kept.once).2.1
  · intro handle bound
    rw [h.reachable.kept.bindings] at bound
    have mem := mem_boundHandles _ bound
    rw [← matched.handles, List.mem_map] at mem
    obtain ⟨⟨_, made⟩, there, rfl⟩ := mem
    exact ⟨made, there⟩
  · intro address owner
    simp only [HandleTable.memoryObject_eq_some_iff, h.ownedBy_iff, UInt32.le_iff_toNat_le]
  · intro address
    constructor
    · intro found
      obtain ⟨owner, answer⟩ := Option.isSome_iff_exists.mp found
      exact ⟨owner, h.ownedBy_iff.mp (HandleTable.memoryObject_spec answer).1⟩
    · rintro ⟨owner, owns⟩
      obtain ⟨found, answer, _⟩ := HandleTable.memoryObject_of_owned (h.ownedBy_iff.mpr owns)
      rw [answer]
      rfl

/-- However a table came about, the owner that it finds for an address is the right one. -/
theorem Reachable.owners_exact (h : Reachable base s) :
    (∃ origins, Traced base s origins) ∧
      ∀ origins, Traced base s origins → OwnersExact s origins :=
  ⟨h.exists_traced, fun _ traced => traced.ownersExact⟩

/-- A memory that passes the last address, under an object that offers no region, and the copy of a
copy of an object that offers a region up to the last address; the copied handles are deleted. -/
theorem owners_exact_past_the_end : ∃ s : TableRun,
    ([0xFFFFFFFFFFFFDFFF, 0xFFFFFFFFFFFFE000, 0xFFFFFFFFFFFFF000, 0xFFFFFFFFFFFFFFFF, 0].map
      fun address => (s.table.memoryObject address).map Owner.handle) =
        [none, some 9, some 5, some 5, none] ∧
      (∃ origins, Traced 5 s origins) ∧ ∀ origins, Traced 5 s origins → OwnersExact s origins := by
  let event : KernelObject := ⟨.numbered 1, .ordinary .event, none, none⟩
  let region : Region := ⟨0xFFFFFFFFFFFFE000, 0x2000⟩
  let block : KernelObject := ⟨.numbered 2, .ordinary .sharedMemory, some region, none⟩
  have initial : Reachable 5 ⟨.new 5, [], []⟩ := .start
  have memory := initial.step (.call _ (.insertMemory ⟨event, ⟨0xFFFFFFFFFFFFF000, 0x2000⟩⟩))
  have offered := memory.step (.call _ (.insertItem block))
  have plain := offered.step (.call _ (.insertItem event))
  have copied := plain.step (.call _ (.duplicateHandle 6))
  have again := copied.step (.call _ (.duplicateHandle 8))
  have gone := (again.step (.call _ (.deleteHandle 6))).step (.call _ (.deleteHandle 8))
  exact ⟨_, by decide, gone.owners_exact⟩

end TableRun

end GuestKernel
