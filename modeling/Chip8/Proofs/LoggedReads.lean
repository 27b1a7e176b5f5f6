import Chip8.Proofs.Accesses
import Mathlib.Order.BooleanAlgebra.Set

/-!
# A machine sees only what it logs

Two machines that differ in some cells only, and whose random bytes and timer ticks come alike, do
the same as long as the first one logs no read of these cells: they make the same ticks with the
same records, and afterwards they differ at most in those of the cells that were not written
meanwhile (`reads_are_logged`).

This is proved operation by operation, for every action that is put together from the operations of
a machine (`Composed.blind`).  What keeps the proof going is that written cells agree from the write
on, so that the cells in which the machines may differ become fewer with the log.
-/

namespace Chip8

set_option autoImplicit false

/-! ## Reads and writes of a log -/

namespace Access

/-- The addresses that were written. -/
def written (log : List Access) : Set Nat := {address | ∃ byte, .write address byte ∈ log}

/-- No window that was read reaches into a set of addresses. -/
def Avoids (cells : Set Nat) (log : List Access) : Prop :=
  ∀ address word, .read address word ∈ log → address ∉ cells ∧ address + 1 ∉ cells

variable {cells : Set Nat} {log early late : List Access}

theorem Avoids.mono {fewer : Set Nat} (avoids : Avoids cells log) (subset : fewer ⊆ cells) :
    Avoids fewer log := by
  intro address word inside
  obtain ⟨first, second⟩ := avoids address word inside
  exact ⟨fun member => first (subset member), fun member => second (subset member)⟩

theorem Avoids.of_append (avoids : Avoids cells (early ++ late)) : Avoids cells early :=
  fun address word inside => avoids address word (List.mem_append_left late inside)

theorem written_append : written (early ++ late) = written early ∪ written late := by
  ext address
  simp only [written, List.mem_append, Set.mem_ofPred_eq, Set.mem_union, exists_or]

@[simp] theorem written_nil : written [] = ∅ := by
  ext address
  simp [written]

@[simp] theorem written_read (address word : Nat) : written [.read address word] = ∅ := by
  ext place
  simp [written]

@[simp] theorem written_write (address byte : Nat) : written [.write address byte] = {address} := by
  ext place
  simp [written, Set.mem_singleton_iff]

end Access

open Access (Avoids written)

/-! ## Machines that agree -/

/-- A way in which random sources and tick sources can be alike: they give the same now, and are
alike afterwards.  They may be the same, or only give the same streams. -/
structure Likeness where
  random : RandomSource → RandomSource → Prop
  ticks : TickSource → TickSource → Prop
  draw : ∀ {source other}, random source other →
    source.draw.1 = other.draw.1 ∧ random source.draw.2 other.draw.2
  take : ∀ {source other}, ticks source other →
    (TickSource.take source).result = (TickSource.take other).result ∧
      ticks (TickSource.take source).state (TickSource.take other).state

/-- The tick source after a number of looks. -/
def TickSource.after (source : TickSource) : Nat → TickSource
  | 0 => source
  | n + 1 => TickSource.after (take source).state n

/-- Sources are alike if they are the same. -/
def Likeness.same : Likeness where
  random := Eq
  ticks := Eq
  draw := by
    rintro source _ rfl
    exact ⟨rfl, rfl⟩
  take := by
    rintro source _ rfl
    exact ⟨rfl, rfl⟩

/-- Sources are alike if they give the same from now on. -/
def Likeness.sameStreams : Likeness where
  random source other := ∀ n, source.nth n = other.nth n
  ticks source other :=
    ∀ n, (TickSource.take (source.after n)).result = (TickSource.take (other.after n)).result
  draw alike := ⟨alike 0, fun n => alike (n + 1)⟩
  take alike := ⟨alike 0, fun n => alike (n + 1)⟩

/-- Two memories differ at most in the bytes of some cells. -/
structure Memory.AgreeOutside (cells : Set Nat) (memory other : Memory) : Prop where
  size : memory.size = other.size
  stack : memory.stack = other.stack
  log : memory.log = other.log
  bytes : ∀ address, address ∉ cells → memory.byte address = other.byte address

/-- Two machines differ at most in the bytes of some cells, up to sources that are alike. -/
structure Machine.AgreeOutside (likeness : Likeness) (cells : Set Nat) (m other : Machine) :
    Prop where
  registers : m.registers = other.registers
  memory : m.memory.AgreeOutside cells other.memory
  cycles : m.cycles = other.cycles
  screen : m.devices.screen = other.devices.screen
  keypad : m.devices.keypad = other.devices.keypad
  random : likeness.random m.devices.random other.devices.random
  ticks : likeness.ticks m.devices.ticks other.devices.ticks

namespace Memory

variable {cells : Set Nat} {memory other : Memory}

theorem AgreeOutside.checkAddress (agree : memory.AgreeOutside cells other) (address : Int) :
    other.checkAddress address = memory.checkAddress address := by
  rw [Memory.checkAddress, Memory.checkAddress, holds, holds, agree.size]

theorem AgreeOutside.checkRange (agree : memory.AgreeOutside cells other) (address length : Int) :
    other.checkRange address length = memory.checkRange address length := by
  simp only [Memory.checkRange, agree.checkAddress]

/-- A window that lies outside the cells is the same in both memories. -/
theorem AgreeOutside.window (agree : memory.AgreeOutside cells other) {address : Nat}
    (first : address ∉ cells) (second : address + 1 ∉ cells) :
    memory.window address = other.window address := by
  rw [Memory.window, Memory.window, agree.bytes _ first, agree.bytes _ second]

theorem AgreeOutside.peek (agree : memory.AgreeOutside cells other) {address : Int} {word : Nat}
    (found : memory.peek address = .ok word) (first : address.toNat ∉ cells)
    (second : address.toNat + 1 ∉ cells) : other.peek address = .ok word := by
  rw [Memory.peek] at found ⊢
  rw [agree.checkAddress, ← agree.window first second]
  exact found

theorem AgreeOutside.record (agree : memory.AgreeOutside cells other) (access : Access) :
    (memory.record access).AgreeOutside cells (other.record access) :=
  { agree with log := by rw [Memory.record, Memory.record, agree.log] }

/-- Both memories agree in a cell that was written in both. -/
theorem AgreeOutside.setByte (agree : memory.AgreeOutside cells other) {address : Nat}
    (inside : address < memory.size) (byte : UInt8) :
    (memory.setByte address byte).AgreeOutside (cells \ {address})
      (other.setByte address byte) where
  size := by rw [size_setByte, size_setByte, agree.size]
  stack := agree.stack
  log := agree.log
  bytes := by
    intro place outside
    rw [byte_setByte, byte_setByte, ← agree.size]
    by_cases here : place = address
    · rw [if_pos ⟨here, inside⟩, if_pos ⟨here, inside⟩]
    · rw [if_neg fun written => here written.1, if_neg fun written => here written.1]
      exact agree.bytes place fun member => outside ⟨member, here⟩

end Memory

namespace Machine

open Processor

variable {likeness : Likeness} {cells : Set Nat} {use : MemoryUse} {m other after : Machine}

theorem AgreeOutside.looksLike (agree : AgreeOutside likeness cells m other) :
    LooksLike m other where
  registers := agree.registers
  screen := agree.screen
  keypad := agree.keypad

/-- If an action succeeds and its log avoids some cells, then on a machine that agrees outside them
it answers the same, and the machines agree afterwards, also in the cells that were written. -/
def Blind (likeness : Likeness) {α : Type} (action : Action Machine α) : Prop :=
  ∀ ⦃cells : Set Nat⦄ ⦃m other after : Machine⦄ ⦃answer : α⦄ ⦃events : List Event⦄,
    AgreeOutside likeness (cells \ written m.memory.log) m other →
    action m = ⟨after, .ok answer, events⟩ → Avoids cells after.memory.log →
    ∃ last reported, action other = ⟨last, .ok answer, reported⟩ ∧
      AgreeOutside likeness (cells \ written after.memory.log) after last

theorem blind_pushReturn (address : Int) : Blind likeness (pushReturn address) := by
  intro cells m other after answer events agree ran _
  cases pushed : m.memory.stack.push address with
  | error fault =>
      rw [pushReturn_of_error pushed] at ran
      cases ran
  | ok stack =>
      have pushed_too : other.memory.stack.push address = .ok stack := by
        rw [← agree.memory.stack, pushed]
      rw [pushReturn_of_ok pushed] at ran
      cases ran
      exact ⟨_, _, pushReturn_of_ok pushed_too,
        { agree with memory := { agree.memory with stack := rfl } }⟩

theorem blind_popReturn : Blind likeness popReturn := by
  intro cells m other after answer events agree ran _
  rcases popped : m.memory.stack.pop with fault | ⟨address, stack⟩
  · rw [popReturn_of_error popped] at ran
    cases ran
  · have popped_too : other.memory.stack.pop = .ok (address, stack) := by
      rw [← agree.memory.stack, popped]
    rw [popReturn_of_ok popped] at ran
    cases ran
    exact ⟨_, _, popReturn_of_ok popped_too,
      { agree with memory := { agree.memory with stack := rfl } }⟩

theorem blind_drawByte : Blind likeness drawByte := by
  intro cells m other after answer events agree ran _
  obtain ⟨same_byte, still_alike⟩ := likeness.draw agree.random
  rw [drawByte_apply] at ran
  cases ran
  refine ⟨{ other with devices.random := other.devices.random.draw.2 }, [], ?_,
    { agree with random := still_alike }⟩
  rw [drawByte_apply, same_byte]

theorem blind_checkRange (address length : Int) : Blind likeness (checkRange address length) := by
  intro cells m other after answer events agree ran _
  rw [checkRange, Outcome.mk.injEq] at ran
  obtain ⟨rfl, passed, rfl⟩ := ran
  refine ⟨other, [], ?_, agree⟩
  rw [checkRange, agree.memory.checkRange, passed]

theorem blind_fetch (address : Int) : Blind likeness (fetch address) := by
  intro cells m other after answer events agree ran avoids
  cases found : m.memory.peek address with
  | error fault =>
      rw [fetch_of_no_peek found] at ran
      cases ran
  | ok word =>
      rw [fetch_of_peek found] at ran
      cases ran
      obtain ⟨first, second⟩ := avoids address.toNat answer (List.mem_append_right _ (.head _))
      have found_too : other.memory.peek address = .ok answer :=
        agree.memory.peek found (fun member => first member.1) fun member => second member.1
      refine ⟨_, _, fetch_of_peek found_too, { agree with memory := ?_ }⟩
      rw [Memory.record, Access.written_append, Access.written_read, Set.union_empty]
      exact agree.memory.record _

theorem blind_write (address datum : Int) : Blind likeness (write address datum) := by
  intro cells m other after answer events agree ran _
  cases stored : m.memory.write address datum with
  | error fault =>
      rw [write, changeMemory_of_error stored] at ran
      cases ran
  | ok memory =>
      obtain ⟨place, byte, rfl, rfl, inside, rfl⟩ := Memory.stored_of_write stored
      rw [write, changeMemory_of_ok stored] at ran
      cases ran
      have stored_too :
          other.memory.write place byte.toNat = .ok (other.memory.stored place [byte]) := by
        rw [Memory.write_of_inside (agree.memory.size ▸ inside) byte.toNat_lt, UInt8.ofNat_toNat]
      refine ⟨{ other with memory := other.memory.stored place [byte] }, [],
        changeMemory_of_ok stored_too, { agree with memory := ?_ }⟩
      have log : (m.memory.stored place [byte]).log =
          m.memory.log ++ [.write place byte.toNat] := rfl
      rw [log, Access.written_append, Access.written_write, ← Set.sdiff_sdiff]
      exact (agree.memory.setByte inside byte).record _

/-- **Every action that is put together from the operations sees only what it logs.** -/
theorem Composed.blind {α : Type} {action : Action Machine α} (composed : Composed use action) :
    Blind likeness action := by
  induction composed with
  | pure answer =>
      intro cells m other after _ events agree ran _
      cases ran
      exact ⟨other, [], rfl, agree⟩
  | fail fault =>
      intro cells m other after _ events agree ran _
      cases ran
  | report event =>
      intro cells m other after _ events agree ran _
      cases ran
      exact ⟨other, [event], rfl, agree⟩
  | changeRegisters change =>
      intro cells m other after _ events agree ran _
      cases ran
      exact ⟨_, [], rfl, { agree with registers := congrArg change agree.registers }⟩
  | changeScreen change =>
      intro cells m other after _ events agree ran _
      cases ran
      exact ⟨_, [], rfl, { agree with screen := congrArg change agree.screen }⟩
  | pushReturn address => exact blind_pushReturn address
  | popReturn => exact blind_popReturn
  | drawByte => exact blind_drawByte
  | checkRange address length => exact blind_checkRange address length
  | fetch address _ => exact blind_fetch address
  | write address datum _ => exact blind_write address datum
  | @look _ next _ visible ih =>
      intro cells m other after answer events agree ran avoids
      rw [Action.state_bind] at ran ⊢
      rw [← visible m other agree.looksLike]
      exact ih m agree ran avoids
  | @bind _ _ first next _ next_composed first_ih next_ih =>
      intro cells m other after answer events agree ran avoids
      obtain ⟨middle, value, early, late, started, continued, rfl⟩ := Action.ok_of_bind ran
      -- the log of the first part is the beginning of the whole log
      obtain ⟨added, accessed⟩ := (next_composed value).accessed middle
      rw [continued] at accessed
      have avoids_first : Avoids cells middle.memory.log := by
        rw [accessed.log] at avoids
        exact avoids.of_append
      obtain ⟨other_middle, reported, other_started, middle_agree⟩ :=
        first_ih agree started avoids_first
      obtain ⟨last, further, other_continued, last_agree⟩ :=
        next_ih value middle_agree continued avoids
      refine ⟨last, reported ++ further, ?_, last_agree⟩
      rw [Action.bind_of_events other_started, other_continued]

/-! ## Cycles and ticks -/

/-- The fetch reads the same word if it avoids the cells in which the memories differ. -/
theorem AgreeOutside.fetched (agree : AgreeOutside likeness cells m other)
    (first : m.registers.pc.toNat ∉ cells) (second : m.registers.pc.toNat + 1 ∉ cells) :
    m.word = other.word ∧
      AgreeOutside likeness (cells \ written m.fetched.memory.log) m.fetched other.fetched := by
  have word : m.word = other.word := by
    rw [Machine.word, Machine.word, ← agree.registers, agree.memory.window first second]
  refine ⟨word, ?_⟩
  rw [show m.fetched.memory.log = [.read m.registers.pc.toNat m.word] from rfl,
    Access.written_read, Set.sdiff_empty]
  exact
    { registers := congrArg Registers.advance agree.registers
      memory :=
        { size := agree.memory.size
          stack := agree.memory.stack
          log := by
            simp only [Machine.fetched, word, agree.registers]
          bytes := agree.memory.bytes }
      cycles := agree.cycles
      screen := agree.screen
      keypad := agree.keypad
      random := agree.random
      ticks := agree.ticks }

/-- **A cycle sees only what it logs.** -/
theorem step_of_agree (agree : AgreeOutside likeness cells m other)
    {record : Snapshot Registers} {events : List Event}
    (cycle : step m = ⟨after, .ok record, events⟩) (avoids : Avoids cells record.accesses) :
    ∃ last reported, step other = ⟨last, .ok record, reported⟩ ∧
      AgreeOutside likeness (cells \ written record.accesses) after last := by
  obtain ⟨inside, executed, ran, rfl, rfl⟩ := step_ok cycle
  have inside_too : other.Inside := by
    rw [Inside, ← agree.registers, ← agree.memory.size]
    exact inside
  obtain ⟨use, composed⟩ := composed_execute m.opcode
  -- the fetch is in the log of the cycle, so that it avoids the cells too
  have fetched_first : .read m.registers.pc.toNat m.word ∈ executed.memory.log := by
    obtain ⟨added, accessed⟩ := composed.accessed m.fetched
    rw [ran] at accessed
    rw [accessed.log]
    exact .head _
  obtain ⟨first, second⟩ := avoids _ _ fetched_first
  obtain ⟨word, agree_fetched⟩ := agree.fetched first second
  have opcode : m.opcode = other.opcode := congrArg (fun w : Nat => Opcode.decode w) word
  obtain ⟨last, reported, ran_too, agree_after⟩ := composed.blind agree_fetched ran avoids
  have cycle_too : step other =
      ⟨last.counted, .ok (recordOf m.opcode executed), reported ++ []⟩ := by
    have same_record : recordOf m.opcode executed = recordOf other.opcode last := by
      rw [recordOf, recordOf, opcode, agree_after.registers, agree_after.cycles,
        agree_after.memory.log]
    rw [step_of_inside inside_too, ← opcode, Action.bind_of_events ran_too, same_record, ← opcode]
    rfl
  refine ⟨last.counted, reported ++ [], cycle_too, ?_⟩
  exact { agree_after with
    memory := { agree_after.memory with log := rfl }
    cycles := congrArg (· + 1) agree_after.cycles }

/-- **A tick sees only what it logs.** -/
theorem tick_of_agree (agree : AgreeOutside likeness cells m other)
    {record : Snapshot Registers} {events : List Event}
    (ticked : tick m = ⟨after, .ok record, events⟩) (avoids : Avoids cells record.accesses) :
    ∃ last reported, tick other = ⟨last, .ok record, reported⟩ ∧
      AgreeOutside likeness (cells \ written record.accesses) after last := by
  obtain ⟨middle, early, count, cycle, taken, rfl⟩ := tick_ok ticked
  obtain ⟨other_middle, reported, cycle_too, agree_middle⟩ := step_of_agree agree cycle avoids
  obtain ⟨same_count, still_alike⟩ := likeness.take agree_middle.ticks
  have taken_too : (TickSource.take other_middle.devices.ticks).result = .ok count := by
    rw [← same_count, taken]
  have ticked_too : tick other =
      ⟨{ other_middle with
          devices.ticks := (TickSource.take other_middle.devices.ticks).state
          registers := other_middle.registers.elapse count },
        .ok record, reported ++ (TickSource.take other_middle.devices.ticks).events⟩ := by
    rw [tick_of_ok cycle_too, updateTimers_of_ok taken_too]
    rfl
  exact ⟨_, _, ticked_too, { agree_middle with
    registers := congrArg (·.elapse count) agree_middle.registers
    ticks := still_alike }⟩

/-- Ticks that all succeed, from one machine to another, with their records. -/
inductive Ran : Machine → List (Snapshot Registers) → Machine → Prop where
  | none {m : Machine} : Ran m [] m
  | tick {m middle after : Machine} {record : Snapshot Registers} {events : List Event}
      {later : List (Snapshot Registers)} : tick m = ⟨middle, .ok record, events⟩ →
      Ran middle later after → Ran m (record :: later) after

/-- **A machine sees only what it logs.**  If two machines differ in some cells only and the first
makes ticks without a logged read of these cells, then the second makes as many ticks with the same
records, and afterwards they differ at most in those of the cells that no record says were
written. -/
theorem reads_are_logged {records : List (Snapshot Registers)}
    (agree : AgreeOutside likeness cells m other) (ran : Ran m records after)
    (avoids : ∀ record ∈ records, Avoids cells record.accesses) :
    ∃ last, Ran other records last ∧
      AgreeOutside likeness (cells \ written (records.flatMap (·.accesses))) after last := by
  induction ran generalizing cells other with
  | none =>
      refine ⟨other, .none, ?_⟩
      rw [List.flatMap_nil, Access.written_nil, Set.sdiff_empty]
      exact agree
  | @tick m middle after record events later ticked _ ih =>
      obtain ⟨other_middle, reported, ticked_too, agree_middle⟩ :=
        tick_of_agree agree ticked (avoids record (.head _))
      have avoids_later : ∀ other_record ∈ later,
          Avoids (cells \ written record.accesses) other_record.accesses := by
        intro other_record inside
        exact (avoids other_record (.tail _ inside)).mono Set.sdiff_subset
      obtain ⟨last, ran_too, agree_last⟩ := ih agree_middle avoids_later
      refine ⟨last, .tick ticked_too ran_too, ?_⟩
      rw [List.flatMap_cons, Access.written_append, ← Set.sdiff_sdiff]
      exact agree_last

/-- A machine that draws a random byte and stores it in the first of two cells behind its words. -/
def storingBefore (source : RandomSource) (first second : UInt8) : Machine :=
  { ofWord 0xC0 0xFF .everyCycle with
    registers := { Registers.initial with pc := 0, index := 4 }
    memory := ⟨#[0xC0, 0xFF, 0xF0, 0x55, first, second], ⟨1, []⟩, []⟩
    devices.random := source }

/-- Two such machines agree outside these cells if their sources give the same stream. -/
theorem agreeOutside_storingBefore {source other : RandomSource}
    (streams : ∀ n, source.nth n = other.nth n) (first second third fourth : UInt8) :
    AgreeOutside .sameStreams {4, 5} (storingBefore source first second)
      (storingBefore other third fourth) where
  registers := rfl
  memory :=
    { size := rfl
      stack := rfl
      log := rfl
      bytes := by
        intro address outside
        match address with
        | 0 | 1 | 2 | 3 => rfl
        | 4 => exact (outside (.inl rfl)).elim
        | 5 => exact (outside (.inr rfl)).elim
        | _ + 6 => rfl }
  cycles := rfl
  screen := rfl
  keypad := rfl
  random := streams
  ticks := fun _ => rfl

/-- Bytes that count up from `0x5A`, listed from some place of a function on. -/
def countingFrom (place : Nat) : RandomSource :=
  .listed (fun later => UInt8.ofNat (0x5A + later - place)) place

/-- The place makes no difference to the stream. -/
theorem nth_countingFrom (place n : Nat) : (countingFrom place).nth n = UInt8.ofNat (0x5A + n) := by
  rw [countingFrom, RandomSource.nth_listed, ← Nat.add_assoc, Nat.add_right_comm,
    Nat.add_sub_cancel]

/-- Two such machines with different bytes in these cells, and with sources that only give the same
stream, make the same two ticks, after which the first of the cells holds the random byte in
both. -/
theorem reads_are_logged_of_store :
    ∃ drawing storing after last,
      AgreeOutside .sameStreams {4, 5} (storingBefore (countingFrom 0) 1 2)
          (storingBefore (countingFrom 8) 7 9) ∧
        Ran (storingBefore (countingFrom 0) 1 2) [drawing, storing] after ∧
        (∀ record ∈ [drawing, storing], Avoids {4, 5} record.accesses) ∧
        Ran (storingBefore (countingFrom 8) 7 9) [drawing, storing] last ∧
        after.memory.byte 4 = 0x5A ∧ last.memory.byte 4 = 0x5A := by
  have streams (n : Nat) : (countingFrom 0).nth n = (countingFrom 8).nth n :=
    (nth_countingFrom 0 n).trans (nth_countingFrom 8 n).symm
  have agree := agreeOutside_storingBefore streams 1 2 7 9
  obtain ⟨drawing, storing, middle, after, drew, stored, first_log, second_log, holds⟩ :
      ∃ drawing storing : Snapshot Registers, ∃ middle after,
        tick (storingBefore (countingFrom 0) 1 2) = ⟨middle, .ok drawing, []⟩ ∧
          tick middle = ⟨after, .ok storing, []⟩ ∧
          drawing.accesses = [.read 0 0xC0FF] ∧
          storing.accesses = [.read 2 0xF055, .write 4 0x5A] ∧ after.memory.byte 4 = 0x5A :=
    ⟨_, _, _, _, rfl, rfl, rfl, rfl, rfl⟩
  have ran : Ran (storingBefore (countingFrom 0) 1 2) [drawing, storing] after :=
    .tick drew (.tick stored .none)
  have avoids : ∀ record ∈ [drawing, storing], Avoids {4, 5} record.accesses := by
    rw [List.forall_mem_cons, List.forall_mem_singleton, first_log, second_log]
    simp [Avoids]
  obtain ⟨last, ran_too, agree_last⟩ := reads_are_logged agree ran avoids
  have written : 4 ∈ Access.written ([drawing, storing].flatMap (·.accesses)) := by
    refine ⟨0x5A, List.mem_flatMap.mpr ⟨storing, .tail _ (.head _), ?_⟩⟩
    rw [second_log]
    exact .tail _ (.head _)
  exact ⟨drawing, storing, after, last, agree, ran, avoids, ran_too, holds,
    (agree_last.memory.bytes 4 fun member => member.2 written).symm.trans holds⟩

end Machine

end Chip8
