import Chip8.Proofs.Footprint
import Mathlib.Data.List.Chain

/-!
# Calls and returns nest

Only two instructions touch the call stack: entering a subroutine remembers the next word on it, and
leaving one takes the address that was remembered last (`stack_after_step`).  So as long as the
stack does not become as low as it was before a call, everything up to and including the address
that the call remembered stays where it is (`RestsOn`), whatever is executed above it.

The cycle that brings the stack back to the depth before the call therefore leaves the subroutine
that the call entered, goes on behind the call and finds the stack as the call found it
(`calls_nest`).
-/

namespace Chip8

set_option autoImplicit false

namespace CallStack

variable {stack base later : CallStack}

/-- A call stack has another one at its bottom. -/
structure RestsOn (stack base : CallStack) : Prop where
  capacity : stack.capacity = base.capacity
  returns : base.returns <:+ stack.returns

theorem RestsOn.refl (stack : CallStack) : stack.RestsOn stack := ⟨rfl, List.suffix_refl _⟩

theorem RestsOn.push (rests : stack.RestsOn base) {address : Int}
    (pushed : stack.push address = .ok later) : later.RestsOn base := by
  refine ⟨(capacity_push pushed).trans rests.capacity, ?_⟩
  unfold CallStack.push at pushed
  split at pushed
  · cases pushed
    exact rests.returns.trans (List.suffix_cons _ _)
  · cases pushed

/-- What is left after a return still has the other stack at its bottom if it is no lower. -/
theorem RestsOn.pop (rests : stack.RestsOn base) {address : Nat}
    (popped : stack.pop = .ok (address, later)) (deep : base.depth ≤ later.depth) :
    later.RestsOn base := by
  refine ⟨(capacity_pop popped).trans rests.capacity, ?_⟩
  have suffix := rests.returns
  unfold CallStack.pop at popped
  split at popped
  · cases popped
  · next innermost outer entries =>
      cases popped
      rw [entries] at suffix
      rcases List.suffix_cons_iff.mp suffix with whole | inside
      · -- the other stack cannot be higher than what is left
        rw [depth, whole, List.length_cons] at deep
        exact (Nat.not_succ_le_self _ deep).elim
      · exact inside

theorem RestsOn.eq_of_depth (rests : stack.RestsOn base) (same : stack.depth = base.depth) :
    stack = base := by
  obtain ⟨capacity, returns⟩ := rests
  have entries := returns.eq_of_length same.symm
  cases stack
  cases base
  simp only at capacity entries
  rw [capacity, entries]

end CallStack

namespace Machine

variable {m after : Machine} {record : Snapshot Registers} {events : List Event}

/-! ## The stack in one cycle -/

/-- Entering a subroutine remembers the word behind the call. -/
theorem stack_of_call (cycle : step m = ⟨after, .ok record, events⟩)
    (call : m.word / 0x1000 = 0x2) :
    m.memory.stack.push ((m.registers.pc + 2) % 65536) = .ok after.memory.stack := by
  have denotes : Instruction.Denotes m.opcode (.call m.opcode.nnn) := .call (family_of_head call)
  obtain ⟨executed, _, entered, rfl, _⟩ := executed_of_cycle denotes cycle
  rw [effect] at entered
  by_cases room : m.fetched.memory.stack.depth < m.fetched.memory.stack.capacity
  · rw [enter_of_room room] at entered
    cases entered
    exact if_pos room
  · rw [enter_of_full room] at entered
    cases entered

/-- Leaving a subroutine goes on at the address that was remembered last. -/
theorem stack_of_leave (cycle : step m = ⟨after, .ok record, events⟩) (leaves : m.word = 0x00EE) :
    ∃ address : Nat, m.memory.stack.pop = .ok (address, after.memory.stack) ∧
      after.registers.pc = address := by
  have denotes : Instruction.Denotes m.opcode .leave :=
    .leave (by rw [opcode_family, leaves]; rfl) (by rw [opcode_nnn, leaves]; rfl)
  obtain ⟨executed, _, left, rfl, _⟩ := executed_of_cycle denotes cycle
  rw [effect] at left
  have stack : m.fetched.memory.stack = m.memory.stack := rfl
  cases entries : m.memory.stack.returns with
  | nil =>
      rw [leave_of_empty (stack ▸ entries)] at left
      cases left
  | cons address outer =>
      rw [leave_of_call (stack ▸ entries)] at left
      cases left
      exact ⟨address, by rw [CallStack.pop, entries]; rfl, rfl⟩

/-- Any other word leaves the stack alone. -/
theorem stack_of_other (no_call : m.word / 0x1000 ≠ 0x2) (no_leave : m.word ≠ 0x00EE) :
    (step m).state.memory.stack = m.memory.stack :=
  m.step_changes_only.stack (not_touched (not_or.mpr ⟨no_leave, no_call⟩) nofun)

/-- **The stack after a cycle**: a call has pushed on it, a return has popped from it, and
everything else has left it alone. -/
theorem stack_after_step (cycle : step m = ⟨after, .ok record, events⟩) :
    (m.word / 0x1000 = 0x2 ∧
      m.memory.stack.push ((m.registers.pc + 2) % 65536) = .ok after.memory.stack) ∨
    (m.word = 0x00EE ∧ ∃ address : Nat, m.memory.stack.pop = .ok (address, after.memory.stack) ∧
      after.registers.pc = address) ∨
    after.memory.stack = m.memory.stack := by
  by_cases call : m.word / 0x1000 = 0x2
  · exact .inl ⟨call, stack_of_call cycle call⟩
  · by_cases leaves : m.word = 0x00EE
    · exact .inr (.inl ⟨leaves, stack_of_leave cycle leaves⟩)
    · have same := stack_of_other call leaves
      rw [cycle] at same
      exact .inr (.inr same)

theorem restsOn_step (cycle : step m = ⟨after, .ok record, events⟩) {base : CallStack}
    (rests : m.memory.stack.RestsOn base) (deep : base.depth ≤ after.memory.stack.depth) :
    after.memory.stack.RestsOn base := by
  rcases stack_after_step cycle with ⟨_, pushed⟩ | ⟨_, address, popped, _⟩ | same
  · exact rests.push pushed
  · exact rests.pop popped deep
  · rw [same]
    exact rests

/-! ## Runs of cycles -/

/-- A cycle that succeeded, with the machines before and after it. -/
structure Cycle where
  before : Machine
  after : Machine
  record : Snapshot Registers
  events : List Event
  succeeded : step before = ⟨after, .ok record, events⟩

/-- A cycle finds the stack that another one has left.  Between the two anything else may have
changed. -/
def Cycle.FollowedBy (cycle next : Cycle) : Prop :=
  next.before.memory.stack = cycle.after.memory.stack

/-- While cycles leave the stack no lower than another one, it has the other one at its bottom. -/
theorem restsOn_of_linked {cycle last : Cycle} {inner : List Cycle} {base : CallStack}
    (linked : List.IsChain Cycle.FollowedBy (cycle :: (inner ++ [last])))
    (rests : cycle.after.memory.stack.RestsOn base)
    (deep : ∀ later ∈ inner, base.depth ≤ later.after.memory.stack.depth) :
    last.before.memory.stack.RestsOn base := by
  induction inner generalizing cycle with
  | nil =>
      obtain ⟨follows, _⟩ := List.isChain_cons_cons.mp linked
      rw [follows]
      exact rests
  | cons next rest ih =>
      obtain ⟨follows, further⟩ := List.isChain_cons_cons.mp linked
      rw [Cycle.FollowedBy] at follows
      refine ih further ?_ fun later inside => deep later (.tail _ inside)
      exact restsOn_step next.succeeded (follows ▸ rests) (deep next (.head _))

/-- **Calls and returns nest.**  If the cycles after a call leave the stack higher than the call
found it, until one brings it back to that depth, then this one returns from the call: it goes on at
the word behind it, with the stack that the call found. -/
theorem calls_nest {first last : Cycle} {inner : List Cycle}
    (linked : List.IsChain Cycle.FollowedBy (first :: (inner ++ [last])))
    (call : first.before.word / 0x1000 = 0x2)
    (deeper : ∀ later ∈ inner,
      first.before.memory.stack.depth < later.after.memory.stack.depth)
    (back : last.after.memory.stack.depth = first.before.memory.stack.depth) :
    last.before.word = 0x00EE ∧
      last.after.registers.pc = (first.before.registers.pc + 2) % 65536 ∧
      last.after.memory.stack = first.before.memory.stack := by
  have pushed := stack_of_call first.succeeded call
  have higher := CallStack.depth_push pushed
  -- the frame of the call stays at the bottom of the stack up to the last cycle
  have rests : last.before.memory.stack.RestsOn first.after.memory.stack := by
    refine restsOn_of_linked linked (.refl _) fun later inside => ?_
    have above := deeper later inside
    omega
  have high := rests.returns.length_le
  rw [← CallStack.depth, ← CallStack.depth] at high
  rcases stack_after_step last.succeeded with ⟨_, grown⟩ | ⟨leaves, address, popped, counter⟩ | same
  · have grew := CallStack.depth_push grown
    omega
  · have lower := CallStack.depth_pop popped
    have frame := rests.eq_of_depth (by omega)
    rw [frame, CallStack.pop_push pushed, Except.ok.injEq, Prod.mk.injEq] at popped
    obtain ⟨remembered, outer⟩ := popped
    exact ⟨leaves, by omega, outer.symm⟩
  · rw [← same, back] at high
    omega

/-- A machine that enters a subroutine, which enters another. -/
def calling : Machine :=
  { ofWord 0x20 0x02 .everyCycle with
    memory := ⟨#[0x20, 0x02, 0x20, 0x04, 0x00, 0xEE], ⟨2, []⟩, []⟩ }

/-- Its fourth cycle returns from its first call, after a call and a return in between. -/
theorem calls_nest_of_two : ∃ first second third fourth : Cycle,
    first.before = calling ∧
      List.IsChain Cycle.FollowedBy [first, second, third, fourth] ∧
      second.after.memory.stack.depth = 2 ∧ third.after.memory.stack.depth = 1 ∧
      fourth.before.word = 0x00EE ∧ fourth.after.registers.pc = 2 ∧
      fourth.after.memory.stack = first.before.memory.stack := by
  obtain ⟨_, ran⟩ : ∃ record, step calling = ⟨(step calling).state, .ok record, []⟩ := ⟨_, rfl⟩
  obtain ⟨_, further⟩ : ∃ record, step (step calling).state =
      ⟨(step (step calling).state).state, .ok record, []⟩ := ⟨_, rfl⟩
  obtain ⟨_, left⟩ : ∃ record, step (step (step calling).state).state =
      ⟨(step (step (step calling).state).state).state, .ok record, []⟩ := ⟨_, rfl⟩
  obtain ⟨_, returned⟩ : ∃ record, step (step (step (step calling).state).state).state =
      ⟨(step (step (step (step calling).state).state).state).state, .ok record, []⟩ := ⟨_, rfl⟩
  let first : Cycle := ⟨_, _, _, _, ran⟩
  let second : Cycle := ⟨_, _, _, _, further⟩
  let third : Cycle := ⟨_, _, _, _, left⟩
  let fourth : Cycle := ⟨_, _, _, _, returned⟩
  have linked : List.IsChain Cycle.FollowedBy (first :: ([second, third] ++ [fourth])) :=
    List.isChain_cons_cons.mpr ⟨rfl, List.isChain_cons_cons.mpr
      ⟨rfl, List.isChain_cons_cons.mpr ⟨rfl, List.isChain_singleton _⟩⟩⟩
  have deeper : ∀ later ∈ [second, third],
      first.before.memory.stack.depth < later.after.memory.stack.depth := by
    intro later inside
    rcases List.mem_pair.mp inside with rfl | rfl
    · exact Nat.zero_lt_two
    · exact Nat.zero_lt_one
  have call : calling.word / 0x1000 = 0x2 := by decide
  obtain ⟨leaves, counter, stack⟩ := calls_nest linked call deeper rfl
  exact ⟨first, second, third, fourth, rfl, linked, rfl, rfl, leaves, counter, stack⟩

end Machine

end Chip8
