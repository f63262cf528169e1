import Mathlib
import GuestKernel.Action

/-!
# What an action leaves alone

An action keeps a view of its state if the view is the same afterwards, however the action ends, and
preserves what is so of the state if it is so afterwards. Both are relations between the states
before and after, and `along_bind` carries every such relation through the ways of building an
action; `along_bind_at` does so at one state, where more is known of what the first action gives.
`view_bind` says that of two actions only the first matters for a view that the second keeps.
-/

set_option autoImplicit false

namespace GuestKernel

namespace Action

variable {σ τ α β γ : Type} {view : σ → γ}

/-- Every state is related to the one that the action leaves. -/
def Along (R : σ → σ → Prop) (a : Action σ α) : Prop := ∀ s, R s (a s).state

theorem along_bind_at {R : σ → σ → Prop} (trans : ∀ {s t u}, R s t → R t u → R s u)
    {a : Action σ α} {next : α → Action σ β} {s : σ} (first : R s (a s).state)
    (h : ∀ x, (a s).outcome = .ok x → R (a s).state (next x (a s).state).state) :
    R s ((a >>= next) s).state := by
  rw [bind_apply]
  rcases ended : a s with ⟨outcome, t, log⟩
  rw [ended] at first h
  cases outcome with
  | error fault => exact first
  | ok x => exact trans first (h x rfl)

theorem along_bind {R : σ → σ → Prop} (trans : ∀ {s t u}, R s t → R t u → R s u)
    {a : Action σ α} {next : α → Action σ β} (first : Along R a) (h : ∀ x, Along R (next x)) :
    Along R (a >>= next) := fun s =>
  along_bind_at (R := R) trans (first s) fun x _ => h x (a s).state

def Keeps (view : σ → γ) (a : Action σ α) : Prop := Along (fun s t => view t = view s) a

/-- An action that first looks at its state goes on from there. -/
theorem state_current_bind (next : σ → Action σ β) (s : σ) :
    ((current >>= next) s).state = (next s s).state := rfl

theorem view_bind {a : Action σ α} {next : α → Action σ β} (h : ∀ x, Keeps view (next x)) (s : σ) :
    view ((a >>= next) s).state = view (a s).state := by
  rw [bind_apply]
  rcases a s with ⟨outcome, t, log⟩
  cases outcome with
  | error fault => rfl
  | ok x => exact h x t

theorem keeps_bind {a : Action σ α} {next : α → Action σ β} (first : Keeps view a)
    (h : ∀ x, Keeps view (next x)) : Keeps view (a >>= next) :=
  along_bind (fun before after => after.trans before) first h

theorem keeps_pure (x : α) : Keeps view (pure x : Action σ α) := fun _ => rfl

theorem keeps_current : Keeps view (current : Action σ σ) := fun _ => rfl

theorem keeps_done (outcome : Except Fault α) : Keeps view (done outcome : Action σ α) :=
  fun _ => rfl

theorem keeps_note (record : LogRecord) : Keeps view (note record : Action σ Unit) := fun _ => rfl

theorem keeps_update {f : σ → σ} (h : ∀ s, view (f s) = view s) : Keeps view (update f) := h

/-- What is so before the action is so afterwards. -/
def Preserves (P : σ → Prop) (a : Action σ α) : Prop := Along (fun s t => P s → P t) a

variable {P : σ → Prop}

theorem preserves_bind_at {a : Action σ α} {next : α → Action σ β} {s : σ}
    (first : P s → P (a s).state)
    (h : ∀ x, (a s).outcome = .ok x → P (a s).state → P (next x (a s).state).state) :
    P s → P ((a >>= next) s).state :=
  along_bind_at (R := fun s t => P s → P t) (fun f g holds => g (f holds)) first h

theorem preserves_bind {a : Action σ α} {next : α → Action σ β} (first : Preserves P a)
    (h : ∀ x, Preserves P (next x)) : Preserves P (a >>= next) :=
  along_bind (R := fun s t => P s → P t) (fun f g holds => g (f holds)) first h

theorem preserves_mapRefusal {a : Action σ α} (f : KernelError → KernelError)
    (h : Preserves P a) : Preserves P (mapRefusal f a) := by
  intro s
  rw [mapRefusal_state]
  exact h s

theorem preserves_onPart {part : σ → τ} {replace : τ → σ → σ} {Q : τ → Prop} {a : Action τ α}
    (read : ∀ s, P s → Q (part s)) (put : ∀ s t, P s → Q t → P (replace t s))
    (h : Preserves Q a) : Preserves P (onPart part replace a) := fun s holds =>
  put s _ holds (h _ (read s holds))

end Action

end GuestKernel
