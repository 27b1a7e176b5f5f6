import Chip8.Proofs.Revisions
import Chip8.Proofs.WrittenDigits

/-!
# Integers in a configuration

An integer of a configuration may stand there as a number, or as a text with its decimal digits or
with its digits in base sixteen, with any zeros in front (`Writes`).  All of these denote the
integer: the mark of base sixteen is never taken for a decimal text, and no decimal text for one
with this mark, since the letter of the mark is no digit of base ten.

So how integers are spelled in a configuration makes no difference (`spellings_are_read_alike`).
-/

namespace Chip8

set_option autoImplicit false

namespace Text

variable {base n : Nat} {c : Char} {text digits : List Char}

/-! ## Texts of digits -/

/-- The characters of a number are the digits of the base. -/
theorem mem_toDigits (large : 1 < base) (inside : c ∈ Nat.toDigits base n) :
    ∃ k < base, c = Nat.digitChar k := by
  induction n using Nat.strongRecOn with
  | ind n ih =>
      rw [Nat.toDigits_eq_if large] at inside
      split at inside
      next below =>
        rw [List.mem_singleton] at inside
        exact ⟨n, below, inside⟩
      next several =>
        rcases List.mem_append.mp inside with front | last
        · exact ih (n / base) (Nat.div_lt_self (by omega) large) front
        · rw [List.mem_singleton] at last
          exact ⟨n % base, Nat.mod_lt _ (by omega), last⟩

/-- A text of digits, at least one. -/
structure AllDigits (base : Nat) (text : List Char) : Prop where
  digits : ∀ c ∈ text, ∃ k, digit? base c = some k
  nonempty : text ≠ []

theorem allDigits_toDigits (large : 1 < base) (small : base ≤ 16) (n : Nat) :
    AllDigits base (Nat.toDigits base n) := by
  refine ⟨fun c inside => ?_, Nat.toDigits_ne_nil⟩
  obtain ⟨k, below, rfl⟩ := mem_toDigits large inside
  exact ⟨k, (digit?_digitChar small below).1⟩

theorem AllDigits.zeros (positive : 0 < base) (small : base ≤ 16) (count : Nat)
    (all : AllDigits base text) : AllDigits base (List.replicate count '0' ++ text) := by
  refine ⟨fun c inside => ?_, fun empty => all.nonempty (List.append_eq_nil_iff.mp empty).2⟩
  rcases List.mem_append.mp inside with zero | later
  · rw [List.eq_of_mem_replicate zero]
    exact ⟨0, (digit?_digitChar small positive).1⟩
  · exact all.digits c later

/-- A run of digits takes a text of digits to its end. -/
theorem digitRun?_of_digits (all : ∀ c ∈ text, ∃ k, digit? base c = some k) (required : Bool)
    (enough : required = true → text ≠ []) :
    digitRun? base required text = some (text.filterMap (digit? base), []) := by
  induction text generalizing required with
  | nil =>
      cases required with
      | true => exact (enough rfl rfl).elim
      | false => rfl
  | cons c rest ih =>
      obtain ⟨k, digit⟩ := all c List.mem_cons_self
      have later := ih (fun c inside => all c (List.mem_cons_of_mem _ inside)) false nofun
      simp only [digitRun?, digit, later, List.filterMap_cons_some digit, Option.map_some]

theorem length_digits (all : ∀ c ∈ text, ∃ k, digit? base c = some k) :
    (text.filterMap (digit? base)).length = text.length := by
  rw [List.length_filterMap_eq_countP, List.countP_eq_length]
  intro c inside
  obtain ⟨k, digit⟩ := all c inside
  rw [digit]
  rfl

/-- A numeral without blanks denotes what its digits denote, behind its sign and its mark. -/
theorem integer?_of_digits {negative : Bool} {unsigned : List Char}
    (no_blank : text.dropWhile isBlank = text) (signed : splitSign text = (negative, unsigned))
    (marked : dropMark base unsigned = digits) (all : AllDigits base digits)
    (short : base = 10 → digits.length ≤ digitLimit) :
    integer? base (String.ofList text) =
      .ok (if negative then -(valueIn base digits : Int) else valueIn base digits) := by
  have run := digitRun?_of_digits all.digits true fun _ => all.nonempty
  have few : ¬ (base = 10 ∧ digitLimit < (digits.filterMap (digit? base)).length) := by
    rw [length_digits all.digits]
    rintro ⟨ten, many⟩
    exact absurd (short ten) (Nat.not_le_of_lt many)
  simp only [integer?, String.toList_ofList, no_blank, signed, marked, run]
  rw [if_neg few]
  rfl

/-! ## Decimal texts -/

/-- The characters of the digits are neither blanks nor signs, and no mark stands among them. -/
theorem plain_digitChar : ∀ k : Fin 16, isBlank (Nat.digitChar k) = false ∧
    Nat.digitChar k ∉ ['-', '+', '_', 'x', 'X'] := by
  decide

/-- The signs in front of an integer: a plus or none if it is not negative, a minus if it is not
positive. -/
inductive IsSign (n : Int) : List Char → Prop where
  | none : 0 ≤ n → IsSign n []
  | plus : 0 ≤ n → IsSign n ['+']
  | minus : n ≤ 0 → IsSign n ['-']

/-- A text without blanks and signs of its own stays behind a sign, which says whether the integer
is negative. -/
theorem IsSign.splitSign {n : Int} {sign : List Char} (is_sign : IsSign n sign)
    (unsigned : ∀ c ∈ digits, c ≠ '-' ∧ c ≠ '+') :
    ∃ negative, splitSign (sign ++ digits) = (negative, digits) ∧
      (if negative then -(n.natAbs : Int) else n.natAbs) = n := by
  cases is_sign with
  | none nonneg =>
      refine ⟨false, ?_, Int.natAbs_of_nonneg nonneg⟩
      rw [List.nil_append]
      unfold Text.splitSign
      split
      next rest => exact ((unsigned '-' List.mem_cons_self).1 rfl).elim
      next rest => exact ((unsigned '+' List.mem_cons_self).2 rfl).elim
      next => rfl
  | plus nonneg => exact ⟨false, rfl, Int.natAbs_of_nonneg nonneg⟩
  | minus nonpos =>
      refine ⟨true, rfl, ?_⟩
      rw [if_pos rfl]
      omega

theorem IsSign.dropWhile_isBlank {n : Int} {sign : List Char} (is_sign : IsSign n sign)
    (no_blanks : ∀ c ∈ digits, isBlank c = false) :
    (sign ++ digits).dropWhile isBlank = sign ++ digits := by
  have starts {c : Char} {rest : List Char} (no_blank : isBlank c = false) :
      (c :: rest).dropWhile isBlank = c :: rest := by
    rw [List.dropWhile_cons, no_blank]
    rfl
  cases is_sign with
  | none =>
      cases digits with
      | nil => rfl
      | cons c rest => exact starts (no_blanks c List.mem_cons_self)
  | plus => exact starts (by decide)
  | minus => exact starts (by decide)

/-- Base ten has no mark. -/
theorem dropMark_ten (text : List Char) : dropMark 10 text = text := by
  unfold dropMark
  split
  · simp [markLetter?]
  · rfl

/-- The digits of a number with zeros in front. -/
def zerosBefore (zeros : Nat) (digits : List Char) : List Char := List.replicate zeros '0' ++ digits

theorem plain_zerosBefore (zeros n : Nat) : ∀ c ∈ zerosBefore zeros (Nat.toDigits 10 n),
    isBlank c = false ∧ c ∉ ['-', '+', '_', 'x', 'X'] := by
  intro c inside
  rcases List.mem_append.mp inside with zero | digit
  · rw [List.eq_of_mem_replicate zero]
    exact plain_digitChar 0
  · obtain ⟨k, below, rfl⟩ := mem_toDigits (by decide) digit
    exact plain_digitChar ⟨k, by omega⟩

/-- **An optional sign, zeros and the decimal digits of an integer denote it.** -/
theorem integer?_decimal {n : Int} {sign : List Char} (is_sign : IsSign n sign) {zeros : Nat}
    (short : zeros + (Nat.toDigits 10 n.natAbs).length ≤ digitLimit) :
    integer? 10 (String.ofList (sign ++ zerosBefore zeros (Nat.toDigits 10 n.natAbs))) = .ok n := by
  have all : AllDigits 10 (zerosBefore zeros (Nat.toDigits 10 n.natAbs)) :=
    (allDigits_toDigits (by decide) (by decide) _).zeros (by decide) (by decide) zeros
  have number : valueIn 10 (zerosBefore zeros (Nat.toDigits 10 n.natAbs)) = n.natAbs := by
    rw [zerosBefore, valueIn_zeros (by decide) (by decide)]
    exact (valueIn_toDigits (by decide) (by decide) _).1
  have few : (zerosBefore zeros (Nat.toDigits 10 n.natAbs)).length ≤ digitLimit := by
    rw [zerosBefore, List.length_append, List.length_replicate]
    exact short
  have unsigned : ∀ c ∈ zerosBefore zeros (Nat.toDigits 10 n.natAbs), c ≠ '-' ∧ c ≠ '+' := by
    intro c inside
    have plain := (plain_zerosBefore _ _ c inside).2
    simp only [List.mem_cons, not_or] at plain
    exact ⟨plain.1, plain.2.1⟩
  obtain ⟨negative, signed, same⟩ := is_sign.splitSign unsigned
  have no_blank := is_sign.dropWhile_isBlank fun c inside =>
    (plain_zerosBefore zeros n.natAbs c inside).1
  rw [integer?_of_digits no_blank signed (dropMark_ten _) all fun _ => few, number, same]

/-! ## Texts in base sixteen -/

/-- The case of a letter does not matter for the digit that it is. -/
theorem digit?_toLower (c : Char) : digit? 16 c.toLower = digit? 16 c := by
  have letters : ∀ k : Fin 26, digit? 16 (Char.ofNat (65 + k)).toLower =
      digit? 16 (Char.ofNat (65 + k)) := by decide
  by_cases capital : c.val ≥ 'A'.val ∧ c.val ≤ 'Z'.val
  · have first : 65 ≤ c.toNat := UInt32.le_iff_toNat_le.mp capital.1
    have last : c.toNat ≤ 90 := UInt32.le_iff_toNat_le.mp capital.2
    have same := letters ⟨c.toNat - 65, by omega⟩
    rw [show 65 + (c.toNat - 65) = c.toNat by omega, Char.ofNat_toNat] at same
    exact same
  · have same : c.toLower = c := dif_neg capital
    rw [same]

/-- Digits in any mixture of cases denote what they denote in small letters. -/
theorem valueIn_of_toLower {letters : List Char}
    (spelled : letters.map Char.toLower = Nat.toDigits 16 n) : valueIn 16 letters = n := by
  have small := (valueIn_toDigits (by decide : 1 < 16) (by decide) n).1
  rw [← spelled, valueIn, List.filterMap_map] at small
  rw [valueIn, ← small]
  congr 2
  funext c
  exact (digit?_toLower c).symm

theorem allDigits_of_toLower {letters : List Char}
    (spelled : letters.map Char.toLower = Nat.toDigits 16 n) : AllDigits 16 letters := by
  have small := allDigits_toDigits (by decide : 1 < 16) (by decide) n
  rw [← spelled] at small
  refine ⟨fun c inside => ?_, fun empty => small.nonempty (by rw [empty]; rfl)⟩
  obtain ⟨k, digit⟩ := small.digits _ (List.mem_map_of_mem inside)
  exact ⟨k, digit?_toLower c ▸ digit⟩

/-- The mark of base sixteen is dropped in front of digits. -/
theorem dropMark_sixteen {mark : Char} (is_mark : mark = 'x' ∨ mark = 'X')
    (all : AllDigits 16 text) : dropMark 16 ('0' :: mark :: text) = text := by
  have marked : decimalDigit? '0' = some 0 ∧ markLetter? 16 = some mark.toLower := by
    rcases is_mark with rfl | rfl <;> decide
  have no_underscore : ∀ more, text ≠ '_' :: more := by
    rintro more rfl
    obtain ⟨k, digit⟩ := all.digits '_' List.mem_cons_self
    have no_digit : digit? 16 '_' = none := by decide
    rw [no_digit] at digit
    cases digit
  rw [dropMark, if_pos marked]
  exact no_underscore

/-- **The mark, zeros and the digits of a number in base sixteen denote it**, in any mixture of
small letters and capitals. -/
theorem integer?_hexadecimal {mark : Char} (is_mark : mark = 'x' ∨ mark = 'X') (zeros : Nat)
    {letters : List Char} (spelled : letters.map Char.toLower = Nat.toDigits 16 n) :
    integer? 16 (String.ofList ('0' :: mark :: zerosBefore zeros letters)) = .ok n := by
  have all : AllDigits 16 (zerosBefore zeros letters) :=
    (allDigits_of_toLower spelled).zeros (by decide) (by decide) zeros
  have number : valueIn 16 (zerosBefore zeros letters) = n := by
    rw [zerosBefore, valueIn_zeros (by decide) (by decide), valueIn_of_toLower spelled]
  have no_blank : ('0' :: mark :: zerosBefore zeros letters).dropWhile isBlank =
      '0' :: mark :: zerosBefore zeros letters := rfl
  rw [integer?_of_digits no_blank rfl (dropMark_sixteen is_mark all) all nofun, number]
  rfl

end Text

namespace SystemConfig

open Value (Renumbered)
open Document (Renumbers)
open Text (IsSign zerosBefore)

/-! ## Values that write an integer -/

/-- A value writes an integer: the number itself, the mark of base sixteen with zeros and digits in
any mixture of cases, or an optional sign with zeros and decimal digits, not too many of them. -/
inductive Writes : Int → Value → Prop where
  | number (n : Int) : Writes n (.int n)
  | hexadecimal {n zeros : Nat} {mark : Char} {letters : List Char} : mark = 'x' ∨ mark = 'X' →
      letters.map Char.toLower = Nat.toDigits 16 n →
      Writes n (.text (String.ofList ('0' :: mark :: zerosBefore zeros letters)))
  | decimal {n : Int} {zeros : Nat} {sign : List Char} : IsSign n sign →
      zeros + (Nat.toDigits 10 n.natAbs).length ≤ Text.digitLimit →
      Writes n (.text (String.ofList (sign ++ zerosBefore zeros (Nat.toDigits 10 n.natAbs))))

variable {text : List Char} {base : Nat} {n : Int} {value value' : Value}

theorem integerIn_ofChars (read : Text.integer? base (String.ofList text) = .ok n) :
    Value.integerIn base (Text.Symbol.ofChars text) = .ok n := by
  rw [Value.integerIn, Text.Symbol.map_toChar_ofChars, read]

/-- Without the letter of the mark a text is read in base ten. -/
theorem integerOfSymbols_of_unmarked (small : 'x' ∉ text) (capital : 'X' ∉ text) :
    integerOfSymbols (Text.Symbol.ofChars text) =
      Value.integerIn 10 (Text.Symbol.ofChars text) := by
  have absent {c : Char} {rest : List Text.Symbol} (no_char : c ∉ text) :
      Text.Symbol.ofChars text ≠ .char '0' :: .char c :: rest := by
    intro marked
    have inside : Text.Symbol.char c ∈ Text.Symbol.ofChars text := by
      rw [marked]
      exact List.mem_cons_of_mem _ List.mem_cons_self
    obtain ⟨_, found, ⟨⟩⟩ := List.mem_map.mp inside
    exact no_char found
  unfold integerOfSymbols
  split
  next marked => exact (absent small marked).elim
  next marked => exact (absent capital marked).elim
  next => rfl

theorem no_letter_of_decimal {sign : List Char} (is_sign : IsSign n sign) (zeros k : Nat) {c : Char}
    (is_letter : c = 'x' ∨ c = 'X') : c ∉ sign ++ zerosBefore zeros (Nat.toDigits 10 k) := by
  intro inside
  rcases List.mem_append.mp inside with in_sign | in_digits
  · cases is_sign with
    | none => cases in_sign
    | plus | minus => rcases is_letter with rfl | rfl <;> simp at in_sign
  · have plain := (Text.plain_zerosBefore zeros k c in_digits).2
    rcases is_letter with rfl | rfl <;> simp at plain

/-- **What writes an integer is read as this integer.** -/
theorem integer_of_writes (d : Document) (writes : Writes n value) : integer d value = .ok n := by
  cases writes with
  | number => rfl
  | @hexadecimal _ zeros mark letters is_mark spelled =>
      have read := integerIn_ofChars (Text.integer?_hexadecimal is_mark zeros spelled)
      rw [integer, integerOfText, String.toList_ofList]
      rcases is_mark with rfl | rfl
      · exact read
      · exact read
  | @decimal _ zeros sign is_sign short =>
      rw [integer, integerOfText, String.toList_ofList, integerOfSymbols_of_unmarked
        (no_letter_of_decimal is_sign _ _ (.inl rfl)) (no_letter_of_decimal is_sign _ _ (.inr rfl))]
      exact integerIn_ofChars (Text.integer?_decimal is_sign short)

theorem AlikeIntegers.of_writes (d d' : Document) (writes : Writes n value)
    (writes' : Writes n value') : AlikeIntegers d d' value value' where
  integer := by rw [integer_of_writes d writes, integer_of_writes d' writes']
  null_iff := by
    constructor
    · rintro rfl
      cases writes'
    · rintro rfl
      cases writes

/-! ## Documents that spell integers in another way -/

/-- One document is another one in which integers are spelled in another way: the breakpoints, the
numbers of host keys, the seed, and whatever else stands for one integer. -/
def Respelled (d d' : Document) : Prop :=
  ∃ related root root', Renumbers d d' related ∧
    Revision d d' related
      (fun value value' => Renumbered related value value' ∨ ∃ n, Writes n value ∧ Writes n value')
      root root' ⟨[], [], [], []⟩

/-- **An integer is read from each of its spellings, and a configuration does not depend on
them.** -/
theorem spellings_are_read_alike :
    (∀ (d : Document) (n : Int) (value : Value), Writes n value → integer d value = .ok n) ∧
      ∀ d d' : Document, Respelled d d' → ofDocument d' () = ofDocument d () := by
  refine ⟨fun d n value => integer_of_writes d, ?_⟩
  rintro d d' ⟨related, root, root', renumbers, revision⟩
  refine (revision.adds renumbers ?_).apply_eq
  rintro value value' (alike | ⟨n, writes, writes'⟩)
  · exact .of_renumbered renumbers alike
  · exact .of_writes d d' writes writes'

/-- A configuration with numbers. -/
def numberedDocument : Document where
  root := .map [(.text "machine", .map [(.text "seed", .int (-7))]),
    (.text "display", .map [(.text "scale", .int 10)]),
    (.text "debug", .map [(.text "breakpoints", .list [.int 512, .int 0x2AF])])]
  endless := #[]

/-- The same with texts. -/
def spelledDocument : Document where
  root := .map [(.text "machine", .map [(.text "seed", .text "-007")]),
    (.text "display", .map [(.text "scale", .text "+10")]),
    (.text "debug", .map [(.text "breakpoints", .list [.text "0x200", .text "0X02aF"])])]
  endless := #[]

theorem writes_mixed_cases : Writes 0x2AF (.text "0X02aF") := by
  have spelled : "0X02aF" = String.ofList ('0' :: 'X' :: zerosBefore 1 ['2', 'a', 'F']) := by decide
  rw [spelled]
  exact .hexadecimal (n := 0x2AF) (.inr rfl) (by decide)

theorem respelled_spelledDocument : Respelled numberedDocument spelledDocument := by
  have seed : Writes (-7) (.text "-007") := by
    have spelled : "-007" = String.ofList (['-'] ++ zerosBefore 2 (Nat.toDigits 10 7)) := by decide
    rw [spelled]
    exact .decimal (n := -7) (.minus (by decide)) (by decide)
  have scale : Writes 10 (.text "+10") := by
    have spelled : "+10" = String.ofList (['+'] ++ zerosBefore 0 (Nat.toDigits 10 10)) := by decide
    rw [spelled]
    exact .decimal (n := 10) (.plus (by decide)) (by decide)
  have address : Writes 0x200 (.text "0x200") := by
    have spelled : "0x200" = String.ofList ('0' :: 'x' :: zerosBefore 0 ['2', '0', '0']) := by
      decide
    rw [spelled]
    exact .hexadecimal (n := 0x200) (.inl rfl) (by decide)
  have renumbers : Renumbers numberedDocument spelledDocument (fun _ _ => False) := ⟨nofun, nofun⟩
  refine ⟨_, _, _, renumbers, ⟨rfl, rfl, ?_, ?_, ?_, ?_, ?_⟩⟩
  · refine .keepText ?_ (.keepText ?_ (.keepText ?_ .done))
    all_goals exact fun no_section => (no_section (by decide)).elim
  · exact .opened (.keepText (fun _ => .inr ⟨_, .number _, seed⟩) .done)
  · exact .opened (.keepText (fun _ => .inr ⟨_, .number _, scale⟩) .done)
  · exact .opened .nil
  · refine .opened (.keepText (fun _ => .spelled rfl rfl ?_) .done)
    exact .cons (.inr ⟨_, .number _, address⟩)
      (.cons (.inr ⟨_, .number _, writes_mixed_cases⟩) .nil)

/-- The numbers and the texts are read alike. -/
theorem spelled_document_is_read :
    integer spelledDocument (.text "0X02aF") = .ok 0x2AF ∧
      ofDocument spelledDocument () = ofDocument numberedDocument () :=
  ⟨spellings_are_read_alike.1 _ _ _ writes_mixed_cases,
    spellings_are_read_alike.2 _ _ respelled_spelledDocument⟩

end SystemConfig

end Chip8
