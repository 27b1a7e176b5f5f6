import Chip8.Event
import Chip8.Fault

/-!
# Actions

An action works on a state, may fail, and reports events.  A failure does not
undo anything: the state an action leaves is always there, whether it succeeded
or not, and so are the events reported up to the failure.  That an instruction
which fails has changed nothing is therefore a property to be proved of it, not a
property of the way it is written down.

The laws of a monad hold, `bind` being sequential composition.
-/

namespace Chip8

set_option autoImplicit false

universe u

/-- What an action leaves behind: a state, a result or a fault, and the events in the
order in which they were reported. -/
structure Outcome (σ α : Type) where
  state : σ
  result : Except Fault α
  events : List Event

/-- A computation on a state that may fail and that reports events. -/
def Action (σ α : Type) : Type := σ → Outcome σ α

namespace Action

variable {σ τ α β : Type}

/-- The action that does nothing and answers `a`. -/
def done (a : α) : Action σ α := fun s => ⟨s, .ok a, []⟩

/-- The action that fails and does nothing else. -/
def fail (fault : Fault) : Action σ α := fun s => ⟨s, .error fault, []⟩

/-- One action after another; the second is not started if the first fails. -/
def andThen (first : Action σ α) (next : α → Action σ β) : Action σ β := fun s =>
  match first s with
  | ⟨s', .ok a, events⟩ =>
    let last := next a s'
    ⟨last.state, last.result, events ++ last.events⟩
  | ⟨s', .error fault, events⟩ => ⟨s', .error fault, events⟩

instance : Monad (Action σ) where
  pure := done
  bind := andThen

/-- The present state. -/
def state : Action σ σ := fun s => ⟨s, .ok s, []⟩

/-- Changes the state. -/
def update (f : σ → σ) : Action σ Unit := fun s => ⟨f s, .ok (), []⟩

/-- Reports an event. -/
def report (event : Event) : Action σ Unit := fun s => ⟨s, .ok (), [event]⟩

/-- The answer of a computation that either fails or answers, without a state. -/
def ofExcept (e : Except Fault α) : Action σ α := fun s => ⟨s, e, []⟩

/-- An action on a part of a larger state. -/
def within (part : τ → σ) (put : σ → τ → τ) (action : Action σ α) : Action τ α := fun t =>
  let o := action (part t)
  ⟨put o.state t, o.result, o.events⟩

/-- The same action a number of times; the answers are dropped. -/
def repeated (action : Action σ α) : Nat → Action σ Unit
  | 0 => done ()
  | n + 1 => andThen action fun _ => repeated action n

/-! ## The laws of sequential composition -/

theorem bind_eq_andThen (first : Action σ α) (next : α → Action σ β) :
    (first >>= next) = andThen first next := rfl

@[simp] theorem done_bind (a : α) (next : α → Action σ β) (s : σ) :
    (Action.andThen (done a) next) s = next a s := by
  simp [andThen, done]

@[simp] theorem bind_done (action : Action σ α) (s : σ) :
    (Action.andThen action done) s = action s := by
  unfold andThen
  rcases h : action s with ⟨s', r, events⟩
  cases r <;> simp [done]

theorem andThen_assoc {γ : Type} (first : Action σ α) (second : α → Action σ β)
    (third : β → Action σ γ) (s : σ) :
    andThen (andThen first second) third s =
      andThen first (fun a => andThen (second a) third) s := by
  unfold andThen
  rcases first s with ⟨s₁, r₁, events₁⟩
  cases r₁ with
  | error fault => rfl
  | ok a =>
    dsimp only
    rcases second a s₁ with ⟨s₂, r₂, events₂⟩
    cases r₂ with
    | error fault => rfl
    | ok b => simp [List.append_assoc]

instance : LawfulMonad (Action σ) :=
  LawfulMonad.mk' (Action σ)
    (fun action => funext fun s => bind_done action s)
    (fun a next => funext fun s => done_bind a next s)
    (fun first second third => funext fun s => andThen_assoc first second third s)

end Action

end Chip8
