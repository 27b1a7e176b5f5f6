import Chip8.Proofs.Preparation

/-!
# A memory as seen by its callers

Whoever uses a memory reads and writes cells, places blocks, asks for ranges, clears everything and
takes the log.  What it sees of the memory depends on nothing but the calls made so far: on the
bytes that they gave to the cells (`byteAfter`) and on the accesses that they logged (`logAfter`).
Neither is read off a memory, and both look at one call at a time, the latest first.

A memory stands for the calls made so far if it has those bytes and that log (`StandsFor`).  A new
memory stands for no calls, and every call keeps the relation, whether it is accepted or refused
(`StandsFor.act`).  So every call, at any moment, is accepted exactly if its numbers are in their
bounds, and is answered from the calls before it (`calls_are_answered_from_calls`).
-/

namespace Chip8

set_option autoImplicit false

/-! ## Calls and what they mean -/

/-- What is done with a memory.  `useStack` is what happens to the call stack beside the cells. -/
inductive MemoryCall where
  | write (address datum : Int)
  | fetch (address : Int)
  | peek (address : Int)
  | load (base : Int) (block : List Int)
  | checkRange (address length : Int)
  | clear
  | takeLog
  | useStack (change : CallStack → CallStack)

/-- What a call answers. -/
inductive MemoryReply where
  | done
  | word (value : Nat)
  | log (accesses : List Access)
  deriving DecidableEq, Repr

namespace MemoryCall

/-- A change that may be refused. -/
def changing (change : Memory → Except Fault Memory) : Action Memory MemoryReply := fun memory =>
  match change memory with
  | .ok later => ⟨later, .ok .done, []⟩
  | .error fault => ⟨memory, .error fault, []⟩

/-- The call as an action. -/
def act : MemoryCall → Action Memory MemoryReply
  | write address datum => changing fun memory => memory.write address datum
  | fetch address => fun memory =>
    match memory.fetch address with
    | .ok (word, later) => ⟨later, .ok (.word word), []⟩
    | .error fault => ⟨memory, .error fault, []⟩
  | peek address => fun memory => ⟨memory, (memory.peek address).map .word, []⟩
  | load base block => changing fun memory => memory.load base block
  | checkRange address length => fun memory =>
    ⟨memory, (memory.checkRange address length).map fun _ => .done, []⟩
  | clear => changing fun memory => .ok memory.clear
  | takeLog => fun memory => ⟨memory.takeLog.2, .ok (.log memory.takeLog.1), []⟩
  | useStack change => changing fun memory => .ok { memory with stack := change memory.stack }

/-- An address of one of `size` cells. -/
def IsPlace (size : Nat) (address : Int) : Prop := 0 ≤ address ∧ address < size

/-- A number that is a byte. -/
def IsDatum (datum : Int) : Prop := 0 ≤ datum ∧ datum ≤ 255

/-- A memory of `size` cells can do what the call asks for. -/
def Accepted (size : Nat) : MemoryCall → Prop
  | write address datum => IsPlace size address ∧ IsDatum datum
  | fetch address | peek address => IsPlace size address
  | load base block =>
    (∀ datum ∈ block, IsDatum datum) ∧ (block = [] ∨ 0 ≤ base ∧ base + block.length ≤ size)
  | checkRange address length => length ≤ 0 ∨ 0 ≤ address ∧ address + length ≤ size
  | clear | takeLog | useStack _ => True

instance (size : Nat) (address : Int) : Decidable (IsPlace size address) :=
  inferInstanceAs (Decidable (_ ∧ _))

instance (datum : Int) : Decidable (IsDatum datum) := inferInstanceAs (Decidable (_ ∧ _))

instance (size : Nat) : (call : MemoryCall) → Decidable (call.Accepted size)
  | write _ _ => inferInstanceAs (Decidable (_ ∧ _))
  | fetch address | peek address => inferInstanceAs (Decidable (IsPlace size address))
  | load _ _ => inferInstanceAs (Decidable (_ ∧ _))
  | checkRange _ _ => inferInstanceAs (Decidable (_ ∨ _))
  | clear | takeLog | useStack _ => inferInstanceAs (Decidable True)

/-- The byte that a call gives to a cell, if it gives one. -/
def given? (place : Nat) : MemoryCall → Option Nat
  | write address datum => if address = place then some datum.toNat else none
  | load base block =>
    if base ≤ place then (block[(place - base).toNat]?).map Int.toNat else none
  | _ => none

end MemoryCall

/-! Histories have the latest call first. -/

/-- The byte of a cell after the calls of a history: that of the latest accepted call that gave it
one since the cells were cleared, else zero. -/
def byteAfter (size place : Nat) : List MemoryCall → Nat
  | [] => 0
  | .clear :: _ => 0
  | call :: earlier =>
    if call.Accepted size then (call.given? place).getD (byteAfter size place earlier)
    else byteAfter size place earlier

/-- The window at a cell after the calls of a history; behind the last cell there is zero. -/
def wordAfter (size place : Nat) (earlier : List MemoryCall) : Nat :=
  256 * byteAfter size place earlier +
    if place + 1 < size then byteAfter size (place + 1) earlier else 0

/-- What a call puts into the log after the calls of a history. -/
def MemoryCall.logged (size : Nat) (earlier : List MemoryCall) : MemoryCall → List Access
  | .fetch address => [.read address.toNat (wordAfter size address.toNat earlier)]
  | .write address datum => [.write address.toNat datum.toNat]
  | _ => []

/-- The log after the calls of a history: what the accepted calls put into it since it was last
taken or cleared. -/
def logAfter (size : Nat) : List MemoryCall → List Access
  | [] => []
  | .clear :: _ | .takeLog :: _ => []
  | call :: earlier =>
    logAfter size earlier ++ if call.Accepted size then call.logged size earlier else []

/-- The call stack after the calls of a history. -/
def stackAfter (stack : CallStack) : List MemoryCall → CallStack
  | [] => stack
  | .clear :: earlier => (stackAfter stack earlier).clear
  | .useStack change :: earlier => change (stackAfter stack earlier)
  | _ :: earlier => stackAfter stack earlier

/-- What an accepted call answers after the calls of a history. -/
def MemoryCall.replyAfter (size : Nat) (earlier : List MemoryCall) : MemoryCall → MemoryReply
  | .fetch address | .peek address => .word (wordAfter size address.toNat earlier)
  | .takeLog => .log (logAfter size earlier)
  | _ => .done

namespace Memory

open MemoryCall

/-- The memory after the calls of a history. -/
def after (memory : Memory) : List MemoryCall → Memory
  | [] => memory
  | call :: earlier => (call.act (memory.after earlier)).state

variable {memory : Memory} {size : Nat} {stack : CallStack} {earlier : List MemoryCall}

/-! ## Accepted and refused calls -/

theorem isByte_iff (datum : Int) : isByte datum = true ↔ IsDatum datum := by
  simp only [isByte, IsDatum, Bool.and_eq_true, decide_eq_true_eq]

theorem checkRange_eq_ok_iff {address length : Int} :
    memory.checkRange address length = .ok () ↔
      length ≤ 0 ∨ 0 ≤ address ∧ address + length ≤ memory.size := by
  constructor
  · intro passed
    by_cases empty : length ≤ 0
    · exact .inl empty
    · exact .inr (fits_of_checkRange (Int.not_le.mp empty) passed)
  · rintro (empty | ⟨nonneg, fits⟩)
    · rw [checkRange, if_pos empty]
    · exact checkRange_of_fits nonneg (.inr fits)

/-- A test of a range that does not pass fails. -/
theorem checkRange_eq_error {address length : Int}
    (refused : ¬ (length ≤ 0 ∨ 0 ≤ address ∧ address + length ≤ memory.size)) :
    ∃ fault, memory.checkRange address length = .error fault := by
  cases tested : memory.checkRange address length with
  | ok => exact (refused (checkRange_eq_ok_iff.mp tested)).elim
  | error fault => exact ⟨fault, rfl⟩

theorem loadBytes_of_passed {base : Int} {bytes : List UInt8}
    (passed : memory.checkRange base bytes.length = .ok ()) :
    memory.loadBytes base bytes = .ok (memory.setBytes base.toNat bytes) := by
  rw [loadBytes, passed]

/-- The bytes of a block of numbers. -/
def bytesOfBlock (block : List Int) : List UInt8 :=
  block.map fun datum => UInt8.ofNat datum.toNat

theorem load_of_data {base : Int} {block : List Int} (data : ∀ datum ∈ block, IsDatum datum) :
    memory.load base block = memory.loadBytes base (bytesOfBlock block) := by
  rw [load, if_pos (List.all_eq_true.mpr fun datum inside =>
    (isByte_iff datum).mpr (data datum inside))]
  rfl

theorem load_of_no_data {base : Int} {block : List Int}
    (other : ¬ ∀ datum ∈ block, IsDatum datum) :
    memory.load base block = .error .blockNotBytes := by
  refine if_neg fun all_bytes => other fun datum inside => ?_
  exact (isByte_iff datum).mp (List.all_eq_true.mp all_bytes datum inside)

/-- What an accepted call makes of a memory. -/
def accept (memory : Memory) : MemoryCall → Memory
  | .write address datum => memory.stored address.toNat [UInt8.ofNat datum.toNat]
  | .fetch address => memory.visited address.toNat 1
  | .load base block => memory.setBytes base.toNat (bytesOfBlock block)
  | .clear => memory.clear
  | .takeLog => { memory with log := [] }
  | .useStack change => { memory with stack := change memory.stack }
  | .peek _ | .checkRange _ _ => memory

/-- What a memory answers to an accepted call. -/
def reply (memory : Memory) : MemoryCall → MemoryReply
  | .fetch address | .peek address => .word (memory.window address.toNat)
  | .takeLog => .log memory.log
  | _ => .done

/-- **A call that is accepted succeeds.** -/
theorem act_of_accepted {call : MemoryCall} (accepted : call.Accepted memory.size) :
    call.act memory = ⟨memory.accept call, .ok (memory.reply call), []⟩ := by
  cases call with
  | write address datum =>
      obtain ⟨⟨nonneg, inside⟩, low, high⟩ := accepted
      obtain ⟨address, rfl⟩ := Int.eq_ofNat_of_zero_le nonneg
      obtain ⟨datum, rfl⟩ := Int.eq_ofNat_of_zero_le low
      rw [act, changing, write_of_inside (by omega) (by omega)]
      rfl
  | fetch address =>
      obtain ⟨nonneg, inside⟩ := accepted
      obtain ⟨address, rfl⟩ := Int.eq_ofNat_of_zero_le nonneg
      simp only [act, fetch_of_inside (show address < memory.size by omega)]
      rfl
  | peek address =>
      obtain ⟨nonneg, inside⟩ := accepted
      obtain ⟨address, rfl⟩ := Int.eq_ofNat_of_zero_le nonneg
      simp only [act, peek_of_inside (show address < memory.size by omega)]
      rfl
  | load base block =>
      obtain ⟨data, room⟩ := accepted
      have passed : memory.checkRange base (bytesOfBlock block).length = .ok () := by
        rw [bytesOfBlock, List.length_map]
        refine checkRange_eq_ok_iff.mpr (room.imp_left ?_)
        rintro rfl
        exact Int.le_refl 0
      rw [act, changing, load_of_data data, loadBytes_of_passed passed]
      rfl
  | checkRange address length =>
      simp only [act, checkRange_eq_ok_iff.mpr accepted]
      rfl
  | clear | takeLog | useStack change => rfl

/-- **A call that is not accepted fails and changes nothing.** -/
theorem act_of_refused {call : MemoryCall} (refused : ¬ call.Accepted memory.size) :
    ∃ fault, call.act memory = ⟨memory, .error fault, []⟩ := by
  cases call with
  | write address datum =>
      by_cases inside : IsPlace memory.size address
      · have other : ¬ isByte datum = true := fun byte =>
          refused ⟨inside, (isByte_iff datum).mp byte⟩
        refine ⟨.datumNotByte datum, ?_⟩
        simp only [act, changing, write, checkAddress_of_holds inside, if_neg other]
      · refine ⟨.addressOutOfRange address memory.size, ?_⟩
        simp only [act, changing, write, checkAddress_of_not_holds inside]
  | fetch address => exact ⟨_, by simp only [act, fetch_of_outside refused]; rfl⟩
  | peek address => exact ⟨_, by simp only [act, peek_of_outside refused]; rfl⟩
  | load base block =>
      by_cases data : ∀ datum ∈ block, IsDatum datum
      · have outside : ¬ ((block.length : Int) ≤ 0 ∨
            0 ≤ base ∧ base + block.length ≤ memory.size) := by
          rintro (empty | room)
          · have nothing : block = [] := List.length_eq_zero_iff.mp (by omega)
            exact refused ⟨data, .inl nothing⟩
          · exact refused ⟨data, .inr room⟩
        obtain ⟨fault, failed⟩ := checkRange_eq_error outside
        refine ⟨fault, ?_⟩
        have length_same : (bytesOfBlock block).length = block.length := List.length_map _
        simp only [act, changing, load_of_data data, loadBytes, length_same, failed]
      · exact ⟨.blockNotBytes, by rw [act, changing, load_of_no_data data]⟩
  | checkRange address length =>
      obtain ⟨fault, failed⟩ := checkRange_eq_error refused
      exact ⟨fault, by simp only [act, failed]; rfl⟩
  | clear | takeLog | useStack change => exact (refused trivial).elim

/-! ## The bytes that an accepted call leaves -/

theorem byte_of_size_le {place : Nat} (beyond : memory.size ≤ place) : memory.byte place = 0 := by
  rw [byte, Array.getElem?_eq_none beyond]
  rfl

/-- A byte after a block was placed: one of the block, or the one that was there. -/
theorem byte_setBytes {start place : Nat} {bytes : List UInt8}
    (fits : start + bytes.length ≤ memory.size) :
    (memory.setBytes start bytes).byte place =
      if start ≤ place then ((bytes[place - start]?).map UInt8.toNat).getD (memory.byte place)
      else memory.byte place := by
  split
  next behind =>
    obtain ⟨k, rfl⟩ := Nat.exists_eq_add_of_le behind
    rw [Nat.add_sub_cancel_left]
    by_cases inside : k < bytes.length
    · rw [byte_setBytes_of_inside memory inside fits, List.getElem?_eq_getElem inside]
      rfl
    · rw [byte_setBytes_of_outside memory (.inr (by omega)), List.getElem?_eq_none (by omega)]
      rfl
  next before => exact byte_setBytes_of_outside memory (.inl (by omega))

theorem toNat_ofNat_of_isDatum {datum : Int} (byte : IsDatum datum) :
    (UInt8.ofNat datum.toNat).toNat = datum.toNat := by
  obtain ⟨low, high⟩ := byte
  rw [UInt8.toNat_ofNat']
  omega

@[simp] theorem size_accept (memory : Memory) (call : MemoryCall) :
    (memory.accept call).size = memory.size := by
  cases call with
  | write address datum => exact size_stored _ _ _
  | fetch address => exact size_visited _ _ _
  | load base block => exact size_setBytes _ _ _
  | clear => exact size_clear memory
  | peek _ | checkRange _ _ | takeLog | useStack _ => rfl

/-- An accepted call that does not clear the cells changes the bytes that it gives, and no
others. -/
theorem byte_accept {call : MemoryCall} (accepted : call.Accepted memory.size)
    (keeps : call ≠ .clear) (place : Nat) :
    (memory.accept call).byte place = (call.given? place).getD (memory.byte place) := by
  cases call with
  | write address datum =>
      obtain ⟨⟨nonneg, inside⟩, byte⟩ := accepted
      obtain ⟨address, rfl⟩ := Int.eq_ofNat_of_zero_le nonneg
      rw [accept, stored, stored, byte_record, byte_setByte, toNat_ofNat_of_isDatum byte, given?,
        Int.toNat_natCast]
      by_cases here : place = address
      · rw [if_pos ⟨here, by omega⟩, if_pos (by omega)]
        rfl
      · rw [if_neg fun both => here both.1, if_neg (by omega)]
        rfl
  | fetch address => exact byte_visited _ _ _ _
  | load base block =>
      obtain ⟨data, nothing | ⟨nonneg, room⟩⟩ := accepted
      · subst nothing
        simp [accept, bytesOfBlock, setBytes, given?]
      · obtain ⟨base, rfl⟩ := Int.eq_ofNat_of_zero_le nonneg
        have fits : base + (bytesOfBlock block).length ≤ memory.size := by
          rw [bytesOfBlock, List.length_map]
          omega
        rw [accept, Int.toNat_natCast, byte_setBytes fits, given?]
        by_cases behind : base ≤ place
        · have distance : ((place : Int) - base).toNat = place - base := by omega
          rw [if_pos behind, if_pos (by omega), distance, bytesOfBlock, List.getElem?_map]
          cases found : block[place - base]? with
          | none => rfl
          | some datum => exact toNat_ofNat_of_isDatum (data datum (List.mem_of_getElem? found))
        · rw [if_neg behind, if_neg (by omega)]
          rfl
  | clear => exact (keeps rfl).elim
  | peek _ | checkRange _ _ | takeLog | useStack _ => rfl

/-! ## The memory after a history -/

/-- A memory has the cells, the log and the call stack that the calls of a history leave. -/
structure StandsFor (memory : Memory) (size : Nat) (stack : CallStack)
    (earlier : List MemoryCall) : Prop where
  size_eq : memory.size = size
  byte_eq : ∀ place, memory.byte place = byteAfter size place earlier
  log_eq : memory.log = logAfter size earlier
  stack_eq : memory.stack = stackAfter stack earlier

theorem StandsFor.window_eq (stands : memory.StandsFor size stack earlier) (place : Nat) :
    memory.window place = wordAfter size place earlier := by
  rw [window, wordAfter, stands.byte_eq place]
  split
  next => rw [stands.byte_eq (place + 1)]
  next last => rw [byte_of_size_le (by rw [stands.size_eq]; omega)]

theorem StandsFor.reply_eq (stands : memory.StandsFor size stack earlier) (call : MemoryCall) :
    memory.reply call = call.replyAfter size earlier := by
  cases call with
  | fetch address | peek address => exact congrArg MemoryReply.word (stands.window_eq _)
  | takeLog => exact congrArg MemoryReply.log stands.log_eq
  | write _ _ | load _ _ | checkRange _ _ | clear | useStack _ => rfl

/-- A refused call leaves no trace in the history. -/
theorem StandsFor.of_refused (stands : memory.StandsFor size stack earlier) {call : MemoryCall}
    (refused : ¬ call.Accepted size) : memory.StandsFor size stack (call :: earlier) where
  size_eq := stands.size_eq
  byte_eq := by
    intro place
    rw [stands.byte_eq place]
    cases call with
    | clear => exact (refused trivial).elim
    | _ => rw [byteAfter, if_neg refused]; exact nofun
  log_eq := by
    rw [stands.log_eq]
    cases call with
    | clear | takeLog => exact (refused trivial).elim
    | _ => rw [logAfter, if_neg refused, List.append_nil] <;> exact nofun
  stack_eq := by
    rw [stands.stack_eq]
    cases call with
    | clear | useStack _ => exact (refused trivial).elim
    | _ => rfl

/-- An accepted call that leaves the log in the memory puts its access there. -/
theorem StandsFor.log_accept (stands : memory.StandsFor size stack earlier) {call : MemoryCall}
    (accepted : call.Accepted size) (keeps : call ≠ .clear ∧ call ≠ .takeLog) :
    (memory.accept call).log = memory.log ++ call.logged size earlier := by
  cases call with
  | write address datum =>
      have logged : (memory.accept (.write address datum)).log =
          memory.log ++ [.write address.toNat (UInt8.ofNat datum.toNat).toNat] := rfl
      rw [logged, toNat_ofNat_of_isDatum accepted.2]
      rfl
  | fetch address =>
      have logged : (memory.accept (.fetch address)).log =
          memory.log ++ [.read address.toNat (memory.window address.toNat)] := rfl
      rw [logged, stands.window_eq]
      rfl
  | load base block => exact (log_setBytes _ _ _).trans (List.append_nil _).symm
  | clear => exact (keeps.1 rfl).elim
  | takeLog => exact (keeps.2 rfl).elim
  | peek _ | checkRange _ _ | useStack _ => exact (List.append_nil _).symm

theorem StandsFor.accept (stands : memory.StandsFor size stack earlier) {call : MemoryCall}
    (accepted : call.Accepted size) :
    (memory.accept call).StandsFor size stack (call :: earlier) where
  size_eq := (size_accept memory call).trans stands.size_eq
  byte_eq := by
    intro place
    have inside : call.Accepted memory.size := by rwa [stands.size_eq]
    cases call with
    | clear => exact byte_clear memory place
    | _ =>
        rw [byte_accept inside nofun, byteAfter, if_pos accepted, stands.byte_eq place]
        exact nofun
  log_eq := by
    cases call with
    | clear | takeLog => rfl
    | _ =>
        rw [stands.log_accept accepted ⟨nofun, nofun⟩, stands.log_eq, logAfter, if_pos accepted] <;>
          exact nofun
  stack_eq := by
    cases call with
    | write _ _ => exact (stack_stored _ _ _).trans stands.stack_eq
    | fetch _ => exact (stack_visited _ _ _).trans stands.stack_eq
    | load _ _ => exact (stack_setBytes _ _ _).trans stands.stack_eq
    | clear => exact congrArg CallStack.clear stands.stack_eq
    | useStack change => exact congrArg change stands.stack_eq
    | peek _ | checkRange _ _ | takeLog => exact stands.stack_eq

/-- **Every call carries a memory from the calls before it to the calls with it.** -/
theorem StandsFor.act (stands : memory.StandsFor size stack earlier) (call : MemoryCall) :
    (call.act memory).state.StandsFor size stack (call :: earlier) := by
  have same := stands.size_eq
  by_cases accepted : call.Accepted size
  · rw [act_of_accepted (by rwa [same])]
    exact stands.accept accepted
  · have refused : ¬ call.Accepted memory.size := by rwa [same]
    obtain ⟨fault, failed⟩ := act_of_refused refused
    rw [failed]
    exact stands.of_refused accepted

theorem standsFor_after (new : memory.StandsFor size stack []) (earlier : List MemoryCall) :
    (memory.after earlier).StandsFor size stack earlier := by
  induction earlier with
  | nil => exact new
  | cons call earlier ih => exact ih.act call

/-- A memory that was just made stands for no calls. -/
theorem create_standsFor {size capacity : Int} (cells : 0 < size) (room : 0 < capacity) :
    ∃ memory, create size capacity = .ok memory ∧
      memory.StandsFor size.toNat ⟨capacity.toNat, []⟩ [] := by
  have made : create size capacity =
      .ok ⟨Array.replicate size.toNat 0, ⟨capacity.toNat, []⟩, []⟩ := by
    rw [create, if_pos cells, CallStack.create, if_pos room]
  refine ⟨_, made, Array.size_replicate, fun place => ?_, rfl, rfl⟩
  simp only [byte, Array.getElem?_replicate]
  split <;> rfl

/-- What becomes of a call: it is accepted if its numbers are in their bounds, and then answered
from the calls before it; else it fails, and the memory is as before. -/
structure Answers (before : Memory) (size : Nat) (earlier : List MemoryCall) (call : MemoryCall) :
    Prop where
  accepted : call.Accepted size →
    (call.act before).result = .ok (call.replyAfter size earlier)
  refused : ¬ call.Accepted size → ∃ fault, call.act before = ⟨before, .error fault, []⟩

theorem StandsFor.answers (stands : memory.StandsFor size stack earlier) (call : MemoryCall) :
    memory.Answers size earlier call where
  accepted := by
    intro accepted
    rw [act_of_accepted (by rwa [stands.size_eq]), stands.reply_eq]
  refused := by
    intro refused
    exact act_of_refused (by rwa [stands.size_eq])

/-- **A memory is a table of bytes with a log.**  At every moment its cells, log and call stack are
what the calls so far left, and the next call is answered from them or fails without a trace. -/
theorem calls_are_answered_from_calls {size capacity : Int} (cells : 0 < size)
    (room : 0 < capacity) :
    ∃ memory, create size capacity = .ok memory ∧
      ∀ (earlier : List MemoryCall) (call : MemoryCall),
        (memory.after earlier).StandsFor size.toNat ⟨capacity.toNat, []⟩ earlier ∧
          (memory.after earlier).Answers size.toNat earlier call := by
  obtain ⟨memory, made, new⟩ := create_standsFor cells room
  refine ⟨memory, made, fun earlier call => ?_⟩
  have stands := standsFor_after new earlier
  exact ⟨stands, stands.answers call⟩

/-- A block is placed over a byte that was written, up to the last of four cells; a write behind it
fails; the last cell is read, and the log is taken for the second time. -/
theorem log_of_last_cell :
    let earlier : List MemoryCall :=
      [.fetch 3, .write 4 1, .load 2 [7, 9], .write 3 5, .takeLog, .fetch 0]
    ∃ memory, create 4 1 = .ok memory ∧
      (MemoryCall.takeLog.act (memory.after earlier)).result =
        .ok (.log [.write 3 5, .read 3 0x900]) := by
  intro earlier
  obtain ⟨memory, made, answered⟩ :=
    calls_are_answered_from_calls (show (0 : Int) < 4 by decide) (show (0 : Int) < 1 by decide)
  exact ⟨memory, made, (answered earlier .takeLog).2.accepted trivial⟩

end Memory

end Chip8
