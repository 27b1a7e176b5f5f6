import Chip8.Processor

/-!
# Evaluating actions

What a composed action leaves behind, read off from its first part.  The first part
either fails, and then that is all, or it gives a state and an answer from which the
rest goes on.  The parts that cannot fail have an equation of their own, so that a
sequence of them is evaluated by rewriting.

A property of states is kept by a sequence when every part of it keeps it, whether the
parts fail or not (`Keeps.bind`).
-/

namespace Chip8

set_option autoImplicit false

namespace Action

variable {σ τ α β : Type}

/-! ## The first part of a sequence -/

theorem bind_of_events {first : Action σ α} {next : α → Action σ β} {before after : σ} {answer : α}
    {events : List Event} (first_ok : first before = ⟨after, .ok answer, events⟩) :
    (first >>= next) before =
      ⟨(next answer after).state, (next answer after).result,
        events ++ (next answer after).events⟩ := by
  rw [bind_eq_andThen, andThen, first_ok]

theorem bind_of_ok {first : Action σ α} {next : α → Action σ β} {before after : σ} {answer : α}
    (first_ok : first before = ⟨after, .ok answer, []⟩) :
    (first >>= next) before = next answer after :=
  bind_of_events first_ok

theorem bind_of_error {first : Action σ α} {next : α → Action σ β} {before after : σ}
    {fault : Fault} {events : List Event}
    (first_fails : first before = ⟨after, .error fault, events⟩) :
    (first >>= next) before = ⟨after, .error fault, events⟩ := by
  rw [bind_eq_andThen, andThen, first_fails]

/-- A sequence that answers has a first part that answers and a rest that goes on from there. -/
theorem ok_of_bind {first : Action σ α} {next : α → Action σ β} {before after : σ} {answer : β}
    {events : List Event} (ran : (first >>= next) before = ⟨after, .ok answer, events⟩) :
    ∃ middle value early late, first before = ⟨middle, .ok value, early⟩ ∧
      next value middle = ⟨after, .ok answer, late⟩ ∧ events = early ++ late := by
  rcases start : first before with ⟨middle, result, early⟩
  cases result with
  | error fault =>
      rw [bind_of_error start] at ran
      cases ran
  | ok value =>
      rcases rest : next value middle with ⟨last, final, late⟩
      rw [bind_of_events start, rest] at ran
      cases ran
      exact ⟨middle, value, early, late, rfl, rest, rfl⟩

/-- An answer that is made of another one does nothing to the state. -/
theorem state_of_answer (first : Action σ α) (answer : α → β) (s : σ) :
    ((first >>= fun value => Pure.pure (answer value)) s).state = (first s).state := by
  rcases ran : first s with ⟨after, result, events⟩
  cases result with
  | error fault => rw [bind_of_error ran]
  | ok value => rw [bind_of_events ran]; rfl

/-- Only what the first part does at the state at hand matters. -/
theorem bind_congr_first {first other : Action σ α} {next : α → Action σ β} {before : σ}
    (same : first before = other before) : (first >>= next) before = (other >>= next) before := by
  rw [bind_eq_andThen, bind_eq_andThen, andThen, andThen, same]

@[simp] theorem pure_apply (answer : α) (s : σ) :
    (pure answer : Action σ α) s = ⟨s, .ok answer, []⟩ := rfl

@[simp] theorem fail_apply (fault : Fault) (s : σ) :
    (fail fault : Action σ α) s = ⟨s, .error fault, []⟩ := rfl

@[simp] theorem update_apply (f : σ → σ) (s : σ) : update f s = ⟨f s, .ok (), []⟩ := rfl

@[simp] theorem state_bind (next : σ → Action σ β) (s : σ) : (state >>= next) s = next s s :=
  bind_of_ok rfl

@[simp] theorem update_bind (f : σ → σ) (next : Unit → Action σ β) (s : σ) :
    (update f >>= next) s = next () (f s) :=
  bind_of_ok rfl

/-! ## Properties that actions keep -/

/-- An action keeps a property of states: it holds of the state that is left, also after a
failure. -/
def Keeps (property : σ → Prop) (action : Action σ α) : Prop :=
  ∀ s, property s → property (action s).state

theorem Keeps.pure {property : σ → Prop} (answer : α) :
    Keeps property (pure answer : Action σ α) := fun _ held => held

theorem Keeps.update {property : σ → Prop} {f : σ → σ} (kept : ∀ s, property s → property (f s)) :
    Keeps property (update f) := kept

theorem Keeps.bind {property : σ → Prop} {first : Action σ α} {next : α → Action σ β}
    (first_keeps : Keeps property first) (next_keeps : ∀ answer, Keeps property (next answer)) :
    Keeps property (first >>= next) := by
  intro s held
  have after_first := first_keeps s held
  rw [bind_eq_andThen, andThen]
  rcases outcome : first s with ⟨middle, result, events⟩
  rw [outcome] at after_first
  cases result with
  | error fault => exact after_first
  | ok answer => exact next_keeps answer middle after_first

theorem Keeps.within {property : σ → Prop} {kept : τ → Prop} {part : σ → τ} {put : τ → σ → σ}
    {action : Action τ α} (action_keeps : Keeps kept action)
    (inside : ∀ s, property s → kept (part s))
    (outside : ∀ s t, property s → kept t → property (put t s)) :
    Keeps property (Action.within part put action) :=
  fun s held => outside s _ held (action_keeps (part s) (inside s held))

end Action

namespace Processor

variable {ρ π : Type}

@[simp] theorem changeRegisters_apply (f : ρ → ρ) (p : Processor ρ π) :
    changeRegisters f p = ⟨{ p with registers := f p.registers }, .ok (), []⟩ := rfl

@[simp] theorem changeRegisters_bind {β : Type} (f : ρ → ρ)
    (next : Unit → Action (Processor ρ π) β) (p : Processor ρ π) :
    (changeRegisters f >>= next) p = next () { p with registers := f p.registers } :=
  Action.bind_of_ok rfl

@[simp] theorem changeDevices_apply (f : π → π) (p : Processor ρ π) :
    changeDevices f p = ⟨{ p with devices := f p.devices }, .ok (), []⟩ := rfl

@[simp] theorem changeDevices_bind {β : Type} (f : π → π)
    (next : Unit → Action (Processor ρ π) β) (p : Processor ρ π) :
    (changeDevices f >>= next) p = next () { p with devices := f p.devices } :=
  Action.bind_of_ok rfl

theorem changeMemory_of_ok {f : Memory → Except Fault Memory} {p : Processor ρ π}
    {memory : Memory} (changed : f p.memory = .ok memory) :
    changeMemory f p = ⟨{ p with memory := memory }, .ok (), []⟩ := by
  rw [changeMemory, changed]

theorem changeMemory_of_error {f : Memory → Except Fault Memory} {p : Processor ρ π}
    {fault : Fault} (refused : f p.memory = .error fault) :
    changeMemory f p = ⟨p, .error fault, []⟩ := by
  rw [changeMemory, refused]

theorem withMemory_of_ok {α : Type} {f : Memory → Except Fault (α × Memory)} {p : Processor ρ π}
    {answer : α} {memory : Memory} (changed : f p.memory = .ok (answer, memory)) :
    withMemory f p = ⟨{ p with memory := memory }, .ok answer, []⟩ := by
  rw [withMemory, changed]

theorem withMemory_of_error {α : Type} {f : Memory → Except Fault (α × Memory)}
    {p : Processor ρ π} {fault : Fault} (refused : f p.memory = .error fault) :
    withMemory f p = ⟨p, .error fault, []⟩ := by
  rw [withMemory, refused]

/-- A memory operation keeps a property if what it makes of the memory does. -/
theorem keeps_changeMemory {property : Processor ρ π → Prop} {f : Memory → Except Fault Memory}
    (kept : ∀ p memory, property p → f p.memory = .ok memory →
      property { p with memory := memory }) :
    Action.Keeps property (changeMemory f) := by
  intro p held
  cases changed : f p.memory with
  | error fault => rwa [changeMemory_of_error changed]
  | ok memory =>
      rw [changeMemory_of_ok changed]
      exact kept p memory held changed

end Processor

end Chip8
