import GuestKernel.Log

/-!
# Actions on a state

An `Action σ α` is one call: from a state it ends with a value or a fault, with the state it leaves
behind, and with the records it logs. A call that ends in a fault keeps what it has changed so far;
nothing is rolled back. The laws below say what each way of building an action does to the three
parts, so that later proofs need not open the constructions again.

An action runs alone. Calls that block are NOT one action: they are cut where they block.
-/

set_option autoImplicit false

namespace GuestKernel

/-- What a call leaves. -/
structure Effect (σ α : Type) where
  outcome : Except Fault α
  state : σ
  log : List LogRecord

/-- A call on a state of type `σ` that is meant to give an `α`. -/
def Action (σ α : Type) : Type := σ → Effect σ α

namespace Action

variable {σ τ α β : Type}

/-- Lets `next` go on after an effect, unless that ended in a fault. -/
def andThen (first : Effect σ α) (next : α → Action σ β) : Effect σ β :=
  match first.outcome with
  | .ok a => { next a first.state with log := first.log ++ (next a first.state).log }
  | .error fault => ⟨.error fault, first.state, first.log⟩

instance : Monad (Action σ) where
  pure a := fun s => ⟨.ok a, s, []⟩
  bind first next := fun s => andThen (first s) next

/-- Ends with an outcome that is already known. -/
def done (outcome : Except Fault α) : Action σ α := fun s => ⟨outcome, s, []⟩

def refuse (cause : KernelError) : Action σ α := done (.error (.error cause))

def current : Action σ σ := fun s => ⟨.ok s, s, []⟩

/-- Asks the state something and leaves it as it is. -/
def ask (f : σ → Except Fault α) : Action σ α := fun s => ⟨f s, s, []⟩

def update (f : σ → σ) : Action σ Unit := fun s => ⟨.ok (), f s, []⟩

def note (record : LogRecord) : Action σ Unit := fun s => ⟨.ok (), s, [record]⟩

/-- Runs an action and gives how it ended, so that a fault does not end the call. -/
def attempt (a : Action σ α) : Action σ (Except Fault α) := fun s =>
  ⟨.ok (a s).outcome, (a s).state, (a s).log⟩

/-- Rewords the cause of a refusal; another fault stays what it is. -/
def mapRefusal (f : KernelError → KernelError) (a : Action σ α) : Action σ α := fun s =>
  let e := a s
  match e.outcome with
  | .error (.error cause) => { e with outcome := .error (.error (f cause)) }
  | _ => e

def onPart (part : σ → τ) (replace : τ → σ → σ) (a : Action τ α) : Action σ α := fun s =>
  let e := a (part s)
  ⟨e.outcome, replace e.state s, e.log⟩

def onFirst (a : Action σ α) : Action (σ × τ) α :=
  onPart Prod.fst (fun s pair => (s, pair.2)) a

def onSecond (a : Action τ α) : Action (σ × τ) α :=
  onPart Prod.snd (fun t pair => (pair.1, t)) a

section Laws
variable (s : σ)

@[simp] theorem pure_apply (a : α) : (pure a : Action σ α) s = ⟨.ok a, s, []⟩ := rfl

@[simp] theorem bind_apply (first : Action σ α) (next : α → Action σ β) :
    (first >>= next) s = andThen (first s) next := rfl

@[simp] theorem map_apply (f : α → β) (a : Action σ α) :
    (f <$> a) s = andThen (a s) fun x => pure (f x) := rfl

@[simp] theorem andThen_ok (a : α) (log : List LogRecord) (next : α → Action σ β) :
    andThen ⟨.ok a, s, log⟩ next = ⟨(next a s).outcome, (next a s).state, log ++ (next a s).log⟩ :=
  rfl

@[simp] theorem andThen_error (fault : Fault) (log : List LogRecord) (next : α → Action σ β) :
    andThen ⟨.error fault, s, log⟩ next = ⟨.error fault, s, log⟩ := rfl

@[simp] theorem done_apply (outcome : Except Fault α) :
    (done outcome : Action σ α) s = ⟨outcome, s, []⟩ := rfl

@[simp] theorem refuse_apply (cause : KernelError) :
    (refuse cause : Action σ α) s = ⟨.error (.error cause), s, []⟩ := rfl

@[simp] theorem ask_apply (f : σ → Except Fault α) : ask f s = ⟨f s, s, []⟩ := rfl

@[simp] theorem attempt_apply (a : Action σ α) :
    attempt a s = ⟨.ok (a s).outcome, (a s).state, (a s).log⟩ := rfl

@[simp] theorem current_apply : (current : Action σ σ) s = ⟨.ok s, s, []⟩ := rfl

@[simp] theorem update_apply (f : σ → σ) : update f s = ⟨.ok (), f s, []⟩ := rfl

@[simp] theorem note_apply (record : LogRecord) :
    (note record : Action σ Unit) s = ⟨.ok (), s, [record]⟩ := rfl

@[simp] theorem onPart_apply (part : σ → τ) (replace : τ → σ → σ) (a : Action τ α) :
    onPart part replace a s =
      ⟨(a (part s)).outcome, replace (a (part s)).state s, (a (part s)).log⟩ := rfl

/-- What ends two actions with a fault ends the first, or the second once the first has a value. -/
theorem bind_eq_error {first : Action σ α} {next : α → Action σ β} {s : σ} {fault : Fault}
    (h : ((first >>= next) s).outcome = .error fault) :
    (first s).outcome = .error fault ∨
      ∃ a, (first s).outcome = .ok a ∧ (next a (first s).state).outcome = .error fault := by
  rw [bind_apply] at h
  rcases ended : first s with ⟨outcome, t, log⟩
  rw [ended] at h
  cases outcome with
  | error found =>
    cases h
    exact .inl rfl
  | ok a => exact .inr ⟨a, rfl, h⟩

/-- Two actions that have a value both do, and the second leaves the state. -/
theorem bind_eq_ok {first : Action σ α} {next : α → Action σ β} {s : σ} {b : β}
    (h : ((first >>= next) s).outcome = .ok b) :
    ∃ a, (first s).outcome = .ok a ∧ (next a (first s).state).outcome = .ok b ∧
      ((first >>= next) s).state = (next a (first s).state).state := by
  rw [bind_apply] at h ⊢
  rcases ended : first s with ⟨outcome, t, log⟩
  rw [ended] at h
  cases outcome with
  | error fault => cases h
  | ok a => exact ⟨a, rfl, h, rfl⟩

theorem mapRefusal_outcome (f : KernelError → KernelError) (a : Action σ α) :
    (mapRefusal f a s).outcome = (a s).outcome.mapError (Fault.reword f) := by
  simp only [mapRefusal]
  split
  · rename_i cause h
    rw [h]
    rfl
  · rename_i other
    cases h : (a s).outcome with
    | ok x => rfl
    | error fault =>
      cases fault with
      | error cause => exact absurd h (other cause)
      | overflow => rfl
      | bufferTooLarge => rfl

theorem mapRefusal_state (f : KernelError → KernelError) (a : Action σ α) :
    (mapRefusal f a s).state = (a s).state := by
  simp only [mapRefusal]
  split <;> rfl

end Laws

instance : LawfulMonad (Action σ) :=
  LawfulMonad.mk' (Action σ)
    (fun x => by
      funext s
      rcases h : x s with ⟨o, t, l⟩
      cases o <;> simp [h])
    (fun a f => by
      funext s
      simp)
    (fun x f g => by
      funext s
      rcases h : x s with ⟨o, t, l⟩
      cases o with
      | error e => simp [h]
      | ok a =>
        rcases h' : f a t with ⟨o', t', l'⟩
        cases o' <;> simp [h, h'])

end Action

end GuestKernel
