import Chip8.Text.Hex
import Chip8.Text.Numeral

/-!
# Digits read back

The digits of a number, in small letters or in capitals and with any zeros in front, denote the
number again.  So two numbers that are written alike are equal, whatever the width.

`valueIn` reads a text by its digits alone and passes over everything else; it is total, which is
why it is preferred here to the reading of numerals, whose refusals would only be in the way.

A number of several bytes is written byte after byte (`upperHex_word`).
-/

namespace Chip8.Text

set_option autoImplicit false

/-- The number that the digits of a text denote in a base. -/
def valueIn (base : Nat) (text : List Char) : Nat := numberOf base (text.filterMap (digit? base))

variable {base : Nat}

/-- A digit in one base is a digit in base sixteen, with the same value. -/
theorem digit?_of_le (small : base ≤ 16) (c : Char) :
    digit? base c = (digit? 16 c).filter (· < base) := by
  rw [digit?, digit?, Option.filter_filter]
  congr 1
  funext k
  by_cases below : k < base
  · simp [below, Nat.lt_of_lt_of_le below small]
  · simp [below]

theorem digit?_digitChar_sixteen : ∀ k : Fin 16,
    digit? 16 (Nat.digitChar k) = some k.val ∧
      digit? 16 (Nat.digitChar k).toUpper = some k.val := by
  decide

/-- The digit of a number below the base denotes it, also as a capital. -/
theorem digit?_digitChar (small : base ≤ 16) {k : Nat} (below : k < base) :
    digit? base k.digitChar = some k ∧ digit? base k.digitChar.toUpper = some k := by
  obtain ⟨plain, capital⟩ := digit?_digitChar_sixteen ⟨k, Nat.lt_of_lt_of_le below small⟩
  rw [digit?_of_le small, digit?_of_le small, plain, capital]
  simp [below]

theorem numberOf_concat (digits : List Nat) (last : Nat) :
    numberOf base (digits ++ [last]) = numberOf base digits * base + last := by
  rw [numberOf, List.foldl_append]
  rfl

theorem valueIn_concat {text : List Char} {c : Char} {k : Nat} (digit : digit? base c = some k) :
    valueIn base (text ++ [c]) = valueIn base text * base + k := by
  rw [valueIn, List.filterMap_append, List.filterMap_cons_some digit]
  exact numberOf_concat _ _

theorem valueIn_zeros (positive : 0 < base) (small : base ≤ 16) (count : Nat) (text : List Char) :
    valueIn base (List.replicate count '0' ++ text) = valueIn base text := by
  have zero : digit? base '0' = some 0 := (digit?_digitChar small positive).1
  induction count with
  | zero => rfl
  | succ count ih =>
      rw [List.replicate_succ, List.cons_append, valueIn, List.filterMap_cons_some zero, numberOf,
        List.foldl_cons, Nat.zero_mul]
      exact ih

/-- **The digits of a number denote it**, in small letters and in capitals. -/
theorem valueIn_toDigits (large : 1 < base) (small : base ≤ 16) (n : Nat) :
    valueIn base (Nat.toDigits base n) = n ∧
      valueIn base ((Nat.toDigits base n).map Char.toUpper) = n := by
  induction n using Nat.strongRecOn with
  | ind n ih =>
      -- a number is its last digit after the digits of the quotient by the base, if there are any
      rw [Nat.toDigits_eq_if large]
      split
      next below =>
        obtain ⟨plain, capital⟩ := digit?_digitChar small below
        have alone {c : Char} (digit : digit? base c = some n) : valueIn base [c] = n := by
          rw [← List.nil_append [c], valueIn_concat digit]
          exact (congrArg (· + n) (Nat.zero_mul base)).trans (Nat.zero_add n)
        exact ⟨alone plain, alone capital⟩
      next several =>
        obtain ⟨plain, capital⟩ := digit?_digitChar small (Nat.mod_lt n (Nat.zero_lt_of_lt large))
        obtain ⟨front, front_capital⟩ := ih (n / base) (Nat.div_lt_self (by omega) large)
        rw [List.map_append, List.map_singleton, valueIn_concat plain, valueIn_concat capital,
          front, front_capital, Nat.div_add_mod']
        exact ⟨rfl, rfl⟩

/-- A number that is not negative is denoted by its digits in base sixteen, at any width. -/
theorem valueIn_upperHex (width : Nat) {n : Int} (nonneg : 0 ≤ n) :
    (valueIn 16 (upperHex width n).toList : Int) = n := by
  have no_sign : decide (n < 0) = false := decide_eq_false (by omega)
  rw [upperHex, padded, no_sign, String.toList_ofList, if_neg Bool.false_ne_true, List.append_nil,
    List.nil_append, valueIn_zeros (by decide) (by decide), upperHexDigits,
    (valueIn_toDigits (by decide) (by decide) _).2]
  omega

/-! ## Bytes of two digits -/

/-- The capital digit of a number below sixteen. -/
def capitalDigit (k : Nat) : Char := k.digitChar.toUpper

theorem upperHexDigits_eq (n : Nat) :
    upperHexDigits n =
      if n < 16 then [capitalDigit n] else upperHexDigits (n / 16) ++ [capitalDigit (n % 16)] := by
  rw [upperHexDigits, Nat.toDigits_eq_if (by decide)]
  split
  · rfl
  · rw [List.map_append, List.map_singleton]
    rfl

theorem toList_upperHex (width n : Nat) :
    (upperHex width n).toList =
      List.replicate (width - (upperHexDigits n).length) '0' ++ upperHexDigits n := by
  have no_sign : decide ((n : Int) < 0) = false := decide_eq_false (by omega)
  rw [upperHex, padded, no_sign, String.toList_ofList, if_neg Bool.false_ne_true, List.append_nil,
    List.length_nil, Nat.zero_add, List.nil_append, Int.natAbs_natCast]

/-- The last digit stands behind those of the quotient. -/
theorem toList_upperHex_succ {width : Nat} (wide : 0 < width) (n : Nat) :
    (upperHex (width + 1) n).toList =
      (upperHex width (n / 16 : Nat)).toList ++ [capitalDigit (n % 16)] := by
  rw [toList_upperHex, toList_upperHex, upperHexDigits_eq n]
  by_cases small : n < 16
  · have zeros : List.replicate width '0' = List.replicate (width - 1) '0' ++ ['0'] := by
      rw [← List.replicate_succ', Nat.sub_add_cancel wide]
    rw [if_pos small, Nat.div_eq_of_lt small, Nat.mod_eq_of_lt small]
    exact congrArg (· ++ [capitalDigit n]) zeros
  · rw [if_neg small, List.length_append, List.length_singleton, Nat.add_sub_add_right,
      List.append_assoc]

theorem toList_byteHex {n : Nat} (byte : n < 256) :
    (byteHex n).toList = [capitalDigit (n / 16), capitalDigit (n % 16)] := by
  have first : n / 16 < 16 := by omega
  rw [byteHex, toList_upperHex_succ (by decide), toList_upperHex, upperHexDigits_eq, if_pos first]
  rfl

/-- **A word is written byte after byte.** -/
theorem upperHex_word (word : Nat) :
    upperHex 4 word = byteHex (word / 256 : Nat) ++ byteHex (word % 256 : Nat) := by
  apply String.toList_injective
  have first : word / 16 / 16 = word / 256 := Nat.div_div_eq_div_mul _ _ _
  have third : word % 256 / 16 = word / 16 % 16 := by omega
  have fourth : word % 256 % 16 = word % 16 := by omega
  rw [String.toList_append, toList_byteHex (n := word % 256) (Nat.mod_lt _ (by decide)), third,
    fourth, toList_upperHex_succ (by decide), toList_upperHex_succ (by decide), first,
    List.append_assoc]
  rfl

end Chip8.Text
