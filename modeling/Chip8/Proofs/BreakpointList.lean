import Chip8.Proofs.FirstHit
import Mathlib.Data.List.Nodup

/-!
# Equal breakpoints

Equal breakpoints are meant to be one breakpoint, but a session keeps them in a list, and each of
the three edits of the list handles equal ones in its own way.  Adding leaves out what is there
already, and removing takes out one of the equal ones.  Putting a breakpoint in the place of another
does not look for an equal one: it can put a breakpoint beside its equal (`Doubles`), and then one
of them outlives the removal and goes on stopping runs (`doubled_breakpoint_outlives_removal`).

This is the only way in which equal breakpoints come to stand in the list.  As long as no edit
doubles a breakpoint, the list has no two equal ones, and a removed breakpoint is no longer a reason
for any run to stop (`equal_once_iff_never_doubles`).
-/

namespace Chip8

set_option autoImplicit false

/-- What a host does with the breakpoints of a session. -/
inductive BreakpointEdit where
  | add (b : Breakpoint)
  | update (old new : Breakpoint)
  | remove (b : Breakpoint)
  deriving DecidableEq, Repr

namespace Session

open Machine (tick)

/-- The session after an edit of its breakpoints. -/
def edit (s : Session) : BreakpointEdit → Session
  | .add b => s.addBreakpoint b
  | .update old new => s.updateBreakpoint old new
  | .remove b => s.removeBreakpoint b

/-- The session after several edits. -/
def edited (s : Session) (edits : List BreakpointEdit) : Session := edits.foldl edit s

variable {s : Session} {b : Breakpoint}

theorem edited_concat (s : Session) (edits : List BreakpointEdit) (last : BreakpointEdit) :
    s.edited (edits ++ [last]) = (s.edited edits).edit last := by
  rw [edited, List.foldl_append]
  rfl

/-! ## The list after one edit -/

/-- An edit puts a breakpoint beside an equal one. -/
def Doubles (s : Session) : BreakpointEdit → Prop
  | .update old new => old ∈ s.breakpoints ∧ new ≠ old ∧ new ∈ s.breakpoints
  | .add _ | .remove _ => False

instance (s : Session) (edit : BreakpointEdit) : Decidable (s.Doubles edit) :=
  match edit with
  | .update _ _ => inferInstanceAs (Decidable (_ ∧ _ ∧ _))
  | .add _ | .remove _ => inferInstanceAs (Decidable False)

theorem nodup_add (distinct : s.breakpoints.Nodup) (b : Breakpoint) :
    (s.addBreakpoint b).breakpoints.Nodup := by
  unfold addBreakpoint
  split
  next => exact distinct
  next absent =>
    refine List.nodup_append.mpr ⟨distinct, List.nodup_singleton b, ?_⟩
    intro other inside last only same
    rw [List.mem_singleton] at only
    exact absent (only ▸ same ▸ inside)

/-- A replacement keeps a list without equal breakpoints so, unless it doubles one. -/
theorem nodup_update_iff (distinct : s.breakpoints.Nodup) (old new : Breakpoint) :
    (s.updateBreakpoint old new).breakpoints.Nodup ↔ ¬ s.Doubles (.update old new) := by
  have at_most_one := List.nodup_iff_count_le_one.mp distinct
  by_cases there : old ∈ s.breakpoints
  · have counted (c : Breakpoint) : (s.breakpoints.replace old new).count c =
        s.breakpoints.count c + (if new = c then 1 else 0) - (if old = c then 1 else 0) := by
      simp only [List.count_replace, List.contains_iff_mem, there, if_true, beq_iff_eq]
    rw [updateBreakpoint, List.nodup_iff_count_le_one]
    constructor
    · rintro single ⟨_, different, inside⟩
      have twice := single new
      have once := List.one_le_count_iff.mpr inside
      rw [counted, if_pos rfl, if_neg (Ne.symm different)] at twice
      omega
    · intro fresh c
      have once := at_most_one c
      rw [counted]
      by_cases here : new = c
      · subst here
        by_cases same : old = new
        · rw [if_pos rfl, if_pos same]
          omega
        · have absent : new ∉ s.breakpoints := fun inside =>
            fresh ⟨there, Ne.symm same, inside⟩
          rw [List.count_eq_zero_of_not_mem absent, if_pos rfl]
          omega
      · rw [if_neg here]
        omega
  · rw [updateBreakpoint, List.replace_of_not_mem there]
    exact iff_of_true distinct fun doubles => there doubles.1

/-- **An edit keeps a list without equal breakpoints so, unless it doubles one.** -/
theorem nodup_edit_iff (distinct : s.breakpoints.Nodup) (e : BreakpointEdit) :
    (s.edit e).breakpoints.Nodup ↔ ¬ s.Doubles e := by
  cases e with
  | add b => exact iff_of_true (nodup_add distinct b) id
  | update old new => exact nodup_update_iff distinct old new
  | remove b => exact iff_of_true (distinct.erase b) id

/-- A removed breakpoint is still there if there were several of it. -/
theorem mem_remove_iff :
    b ∈ (s.edit (.remove b)).breakpoints ↔ 2 ≤ s.breakpoints.count b := by
  rw [← List.one_le_count_iff, edit, removeBreakpoint, List.count_erase_self]
  omega

/-! ## Why a run stops -/

/-- A breakpoint of the list is a reason to stop after `k` ticks: it waits for the program counter,
or the last tick met it. -/
structure StopReason (s : Session) (b : Breakpoint) (k : Nat) : Prop where
  listed : b ∈ s.breakpoints
  enabled : b.enabled = true
  met : (∃ m, s.machine.afterTicks k = some m ∧ b.kind = .pcMatch ∧
      b.value = some m.registers.pc) ∨
    ∃ j before cycle, k = j + 1 ∧ s.machine.afterTicks j = some before ∧
      (tick before).result = .ok cycle ∧ b.Holds before.registers cycle

/-- **A run that stops at a breakpoint has a breakpoint of the list as its reason.** -/
theorem exists_stopReason {limit : Option Nat} {allowance : Nat}
    (stopped : (run allowance (limitOf limit) none s).result = .ok .breakpoint) :
    ∃ b k, s.StopReason b k ∧
      s.machine.afterTicks k = some (run allowance (limitOf limit) none s).state.machine := by
  have ends := ends_run s limit allowance
  rw [stopped] at ends
  cases ends with
  | hit k _ reached reason =>
      rcases reason with ⟨j, before, cycle, number, there, succeeded, b, inside, enabled, holds⟩ |
        ⟨⟨m, there, ⟨b, inside, enabled, kind, value⟩, _⟩, _⟩
      · exact ⟨b, k, ⟨inside, enabled, .inr ⟨j, before, cycle, number, there, succeeded, holds⟩⟩,
          reached⟩
      · exact ⟨b, k, ⟨inside, enabled, .inl ⟨m, there, kind, value⟩⟩, reached⟩

/-- A breakpoint has no part in a session: it is not in the list, and every run that stops at a
breakpoint stops for another one. -/
structure Without (s : Session) (b : Breakpoint) : Prop where
  absent : b ∉ s.breakpoints
  other : ∀ limit allowance, (run allowance (limitOf limit) none s).result = .ok .breakpoint →
    ∃ other k, other ≠ b ∧ s.StopReason other k ∧
      s.machine.afterTicks k = some (run allowance (limitOf limit) none s).state.machine

theorem without_of_not_mem (absent : b ∉ s.breakpoints) : s.Without b where
  absent := absent
  other := by
    intro limit allowance stopped
    obtain ⟨other, k, reason, reached⟩ := exists_stopReason stopped
    have different : other ≠ b := fun same => absent (same ▸ reason.listed)
    exact ⟨other, k, different, reason, reached⟩

/-! ## Sequences of edits -/

/-- Equal breakpoints are one breakpoint at every moment of a sequence of edits: no two of the list
are equal, and a breakpoint has no part in the session right after it was removed. -/
structure EqualOnce (s : Session) (edits : List BreakpointEdit) : Prop where
  distinct : ∀ done rest, edits = done ++ rest → (s.edited done).breakpoints.Nodup
  removed : ∀ done b rest, edits = done ++ .remove b :: rest →
    (s.edited (done ++ [.remove b])).Without b

/-- No edit of a sequence doubles a breakpoint. -/
def NeverDoubles (s : Session) : List BreakpointEdit → Prop
  | [] => True
  | e :: rest => ¬ s.Doubles e ∧ (s.edit e).NeverDoubles rest

instance decidableNeverDoubles (s : Session) :
    (edits : List BreakpointEdit) → Decidable (s.NeverDoubles edits)
  | [] => inferInstanceAs (Decidable True)
  | e :: rest =>
    have := decidableNeverDoubles (s.edit e) rest
    inferInstanceAs (Decidable (_ ∧ _))

theorem neverDoubles_append {done rest : List BreakpointEdit} :
    s.NeverDoubles (done ++ rest) ↔ s.NeverDoubles done ∧ (s.edited done).NeverDoubles rest := by
  induction done generalizing s with
  | nil => exact (and_iff_right trivial).symm
  | cons e done ih => exact (and_congr_right fun _ => ih).trans and_assoc.symm

/-- Edits that double no breakpoint keep the list without equal ones. -/
theorem nodup_edited {edits : List BreakpointEdit} (distinct : s.breakpoints.Nodup)
    (never : s.NeverDoubles edits) : (s.edited edits).breakpoints.Nodup := by
  induction edits generalizing s with
  | nil => exact distinct
  | cons e rest ih => exact ih ((nodup_edit_iff distinct e).mpr never.1) never.2

/-- If the list has no equal breakpoints at any moment, no edit doubles one. -/
theorem neverDoubles_of_distinct {edits : List BreakpointEdit}
    (distinct : ∀ done rest, edits = done ++ rest → (s.edited done).breakpoints.Nodup) :
    s.NeverDoubles edits := by
  induction edits generalizing s with
  | nil => trivial
  | cons e rest ih =>
      have now : s.breakpoints.Nodup := distinct [] (e :: rest) rfl
      have next : (s.edit e).breakpoints.Nodup := distinct [e] rest rfl
      refine ⟨(nodup_edit_iff now e).mp next, ih fun done later split => ?_⟩
      exact distinct (e :: done) later (congrArg (e :: ·) split)

/-- **Equal breakpoints are one breakpoint if and only if none is doubled.**  For every session
whose list has no equal breakpoints, such as a new one, and every sequence of edits. -/
theorem equal_once_iff_never_doubles (distinct : s.breakpoints.Nodup)
    (edits : List BreakpointEdit) : s.EqualOnce edits ↔ s.NeverDoubles edits := by
  constructor
  · intro once
    exact neverDoubles_of_distinct once.distinct
  · intro never
    have at_every_moment : ∀ done rest, edits = done ++ rest →
        (s.edited done).breakpoints.Nodup := by
      rintro done rest rfl
      exact nodup_edited distinct (neverDoubles_append.mp never).1
    refine ⟨at_every_moment, fun done b rest split => without_of_not_mem ?_⟩
    have single := List.nodup_iff_count_le_one.mp (at_every_moment done _ split) b
    rw [edited_concat, mem_remove_iff]
    omega

/-- A new session with a machine that jumps on the spot. -/
def bare : Session := ofMachine (Machine.ofWord 0x10 0x00 .everyCycle) none

/-- A breakpoint is put in the place of another, and the first one is removed. -/
theorem bare_equal_once :
    bare.EqualOnce [.add (.atAddress 0), .add (.atAddress 2),
      .update (.atAddress 2) (.atAddress 4), .remove (.atAddress 0)] := by
  have distinct : bare.breakpoints.Nodup := List.nodup_nil
  exact (equal_once_iff_never_doubles distinct _).mpr (by decide)

/-- **A doubled breakpoint outlives its removal.**  A breakpoint is put in the place of another
while there is an equal one, and removed: it is in the list still, and stops a run. -/
theorem doubled_breakpoint_outlives_removal :
    let edits := [.add (.atAddress 0), .add (.atAddress 2),
      .update (.atAddress 2) (.atAddress 0), .remove (.atAddress 0)]
    ¬ bare.EqualOnce edits ∧ Breakpoint.atAddress 0 ∈ (bare.edited edits).breakpoints ∧
      (run 1 none none (bare.edited edits)).result = .ok .breakpoint := by
  intro edits
  have survives : Breakpoint.atAddress 0 ∈ (bare.edited edits).breakpoints := by decide
  refine ⟨fun once => ?_, survives, rfl⟩
  exact (once.removed (edits.take 3) (.atAddress 0) [] rfl).absent survives

end Session

end Chip8
