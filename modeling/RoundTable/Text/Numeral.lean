/-!
# Decimal numerals

Reading and writing natural numbers as ASCII decimal digits. Two grammars share the digits: a bare
numeral, and a numeral that may carry a plus sign. Neither wraps: a numeral that names a number at
or above the given limit is refused.

## Main definitions

* `digits`: the shortest numeral of a number
* `ofDigits?`: reads a nonempty run of digits
* `below?`: reads a run of digits that names a number below a limit
* `plusBelow?`: the same with an optional plus sign in front
-/

namespace RoundTable.Text

/-- The decimal numeral of `n`, without leading zeros. -/
def digits (n : Nat) : List Char := Nat.toDigits 10 n

/-- The number that a nonempty run of decimal digits names; leading zeros are allowed. -/
def ofDigits? (text : List Char) : Option Nat :=
  if text ≠ [] ∧ text.all Char.isDigit then some (Nat.ofDigitChars 10 text 0) else none

/-- Reads a numeral of a number below `limit`. -/
def below? (limit : Nat) (text : List Char) : Option Nat :=
  (ofDigits? text).filter (· < limit)

/-- Reads a numeral of a number below `limit`, with or without one plus sign in front. -/
def plusBelow? (limit : Nat) : List Char → Option Nat
  | '+' :: text => below? limit text
  | text => below? limit text

/-- The digits of a number read back as that number. -/
theorem ofDigits?_digits (n : Nat) : ofDigits? (digits n) = some n := by
  have digit : (Nat.toDigits 10 n).all Char.isDigit := by
    simpa using fun c hc => Nat.isDigit_of_mem_toDigits (b := 10) (by decide) (by decide) hc
  have nonempty : Nat.toDigits 10 n ≠ [] := Nat.toDigits_ne_nil
  have value : Nat.ofDigitChars 10 (Nat.toDigits 10 n) 0 = n :=
    Nat.ofDigitChars_toDigits (by decide) (by decide)
  rw [ofDigits?, digits, if_pos ⟨nonempty, digit⟩, value]

/-- A number below the limit is read back from its numeral. -/
theorem below?_digits {limit n : Nat} (h : n < limit) : below? limit (digits n) = some n := by
  simp [below?, ofDigits?_digits, Option.filter, h]

end RoundTable.Text
