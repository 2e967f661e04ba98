/-!
Decimal numerals with an upper bound, read from the left. The first character
that is no digit, or that takes the value past the bound, decides the fault.
Numbers with a fraction or an exponent are only told from other texts.
-/

namespace Accounts

inductive NumeralFault where
  | empty
  | invalidDigit
  | tooLarge
  deriving DecidableEq, Repr

def NumeralFault.message : NumeralFault → String
  | .empty => "cannot parse integer from empty string"
  | .invalidDigit => "invalid digit found in string"
  | .tooLarge => "number too large to fit in target type"

def decimalDigit? (char : Char) : Option Nat :=
  if '0' ≤ char ∧ char ≤ '9' then some (char.toNat - 48) else none

/-- Reads on from a value; `limit` is the first value that is too large. -/
def readDigits (limit : Nat) : (value : Nat) → List Char → Except NumeralFault Nat
  | value, [] => .ok value
  | value, char :: chars =>
      match decimalDigit? char with
      | none => .error .invalidDigit
      | some digit =>
          if 10 * value + digit < limit then readDigits limit (10 * value + digit) chars
          else .error .tooLarge

/-- One plus sign may stand in front of the digits. -/
def readNumeral (limit : Nat) : List Char → Except NumeralFault Nat
  | [] => .error .empty
  | ['+'] => .error .invalidDigit
  | '+' :: chars => readDigits limit 0 chars
  | chars => readDigits limit 0 chars

def readWord32 (text : String) : Except NumeralFault UInt32 :=
  (readNumeral UInt32.size text.toList).map UInt32.ofNat

def isDigits (chars : List Char) : Bool := chars.all fun char => (decimalDigit? char).isSome

def unsigned : List Char → List Char
  | '+' :: chars => chars
  | '-' :: chars => chars
  | chars => chars

/-- Nothing, or an exponent with its letter. -/
def isExponent : List Char → Bool
  | [] => true
  | letter :: chars =>
      (letter == 'e' || letter == 'E') && !(unsigned chars).isEmpty && isDigits (unsigned chars)

/-- Digits with a point in front of, among or behind them, or without one. -/
def isFixed (chars : List Char) : Bool :=
  let (whole, rest) := chars.span (· ≠ '.')
  isDigits whole && isDigits rest.tail && !(whole.isEmpty && rest.tail.isEmpty)

def numberWords : List String := ["inf", "infinity", "nan"]

def isNumber (chars : List Char) : Bool :=
  let (fixed, exponent) := (unsigned chars).span fun char => char != 'e' && char != 'E'
  isFixed fixed && isExponent exponent ||
    numberWords.contains (String.ofList (unsigned chars)).toLower

end Accounts
