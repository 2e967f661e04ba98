import Accounts.Bytes

/-!
Values of a TOML document that hold no others, and the grammar of those that are
written without quotes.
-/

namespace Accounts.Toml

inductive Scalar where
  | text (content : String)
  | integer (value : Int)
  /-- The digits times a power of ten. -/
  | decimal (negative : Bool) (digits : Nat) (exponent : Int)
  | infinity (negative : Bool)
  | notANumber
  | boolean (value : Bool)
  /-- A date, a time of day or both, as it is written. -/
  | moment (text : String)
  deriving DecidableEq, Repr

def isDecimalDigit (char : Char) : Bool := '0' ≤ char && char ≤ '9'

def isDigitIn (base : Nat) (char : Char) : Bool :=
  match hexDigitValue? char with
  | some value => value < base
  | none => false

def digitsValue (base : Nat) (digits : List Char) : Nat :=
  digits.foldl (fun value digit => base * value + (hexDigitValue? digit).getD 0) 0

/-- Digits without the single underscores that may stand between them. -/
def ungrouped? (base : Nat) (chars : List Char) : Option (List Char) :=
  let groups := chars.splitOn '_'
  if groups.all fun group => !group.isEmpty && group.all (isDigitIn base) then some groups.flatten
  else none

def numeral? (base : Nat) (chars : List Char) : Option Nat :=
  (ungrouped? base chars).map (digitsValue base)

/-- A decimal numeral that has no zero in front of other digits. -/
def wholeNumeral? (chars : List Char) : Option Nat :=
  if chars.head? = some '0' ∧ chars.length ≠ 1 then none else numeral? 10 chars

def isMinus : List Char → Bool
  | '-' :: _ => true
  | _ => false

def withoutSign : List Char → List Char
  | '+' :: chars => chars
  | '-' :: chars => chars
  | chars => chars

def signed (negative : Bool) (value : Nat) : Int := if negative then -value else value

/-- Integers of any size that 128 bits can hold, with or without a sign bit. -/
def fitsInteger : Int → Bool
  | .ofNat value => value < Nat.pow 2 128
  | .negSucc value => value < Nat.pow 2 127

def integer? (chars : List Char) : Option Int :=
  let value := match chars with
    | '0' :: 'x' :: digits => (numeral? 16 digits).map Int.ofNat
    | '0' :: 'o' :: digits => (numeral? 8 digits).map Int.ofNat
    | '0' :: 'b' :: digits => (numeral? 2 digits).map Int.ofNat
    | chars => (wholeNumeral? (withoutSign chars)).map (signed (isMinus chars))
  value.filter fitsInteger

/-- The least number that is too far out for a double: half a step past the greatest one. -/
def decimalLimit : Nat := Nat.pow 2 1024 - Nat.pow 2 970

/-- Whether a number other than zero stays below the limit. The count of its digits settles all
but the cases next to the limit. -/
def isBelowLimit (digits : Nat) (exponent : Int) : Bool :=
  let size := (Nat.toDigits 10 digits).length + exponent
  if size ≤ 308 then true
  else if 310 ≤ size then false
  else
    match exponent with
    | .ofNat power => digits * Nat.pow 10 power < decimalLimit
    | .negSucc power => digits < decimalLimit * Nat.pow 10 (power + 1)

def exponent? : List Char → Option Int
  | [] => some 0
  | _ :: chars => (numeral? 10 (withoutSign chars)).map (signed (isMinus chars))

def fraction? : List Char → Option (List Char)
  | [] => some []
  | _ :: chars => ungrouped? 10 chars

def decimal? (chars : List Char) : Option Scalar :=
  let (front, power) := (withoutSign chars).span fun char => char != 'e' && char != 'E'
  let (whole, part) := front.span fun char => char != '.'
  if part.isEmpty && power.isEmpty then none
  else do
    let whole ← wholeNumeral? whole
    let part ← fraction? part
    let power ← exponent? power
    let digits := whole * Nat.pow 10 part.length + digitsValue 10 part
    let exponent := power - part.length
    if digits = 0 ∨ isBelowLimit digits exponent then
      some (.decimal (isMinus chars) digits exponent)
    else none

def twoDigits? : List Char → Option (Nat × List Char)
  | tens :: ones :: chars =>
      if isDecimalDigit tens && isDecimalDigit ones then some (digitsValue 10 [tens, ones], chars)
      else none
  | _ => none

def isLeapYear (year : Nat) : Bool := year % 4 == 0 && (year % 100 != 0 || year % 400 == 0)

def daysInMonth (year month : Nat) : Nat :=
  if month = 2 then if isLeapYear year then 29 else 28
  else if month = 4 ∨ month = 6 ∨ month = 9 ∨ month = 11 then 30
  else 31

def afterChar? (wanted : Char) : List Char → Option (List Char)
  | char :: chars => if char = wanted then some chars else none
  | [] => none

def afterDate? (chars : List Char) : Option (List Char) := do
  let (century, chars) ← twoDigits? chars
  let (year, chars) ← twoDigits? chars
  let (month, chars) ← twoDigits? (← afterChar? '-' chars)
  let (day, chars) ← twoDigits? (← afterChar? '-' chars)
  let days := daysInMonth (100 * century + year) month
  if 1 ≤ month ∧ month ≤ 12 ∧ 1 ≤ day ∧ day ≤ days then some chars else none

def afterMinutes? (chars : List Char) : Option (List Char) := do
  let (hour, chars) ← twoDigits? chars
  let (minute, chars) ← twoDigits? (← afterChar? ':' chars)
  if hour ≤ 23 ∧ minute ≤ 59 then some chars else none

/-- What follows seconds and their fraction; a minute can have a leap second. -/
def afterSeconds? (chars : List Char) : Option (List Char) := do
  let (second, chars) ← twoDigits? chars
  if second ≤ 60 then
    match chars with
    | '.' :: chars =>
        if (chars.takeWhile isDecimalDigit).isEmpty then none
        else some (chars.dropWhile isDecimalDigit)
    | chars => some chars
  else none

/-- What follows a time of day; seconds may be left out. -/
def afterTime? (chars : List Char) : Option (List Char) := do
  match ← afterMinutes? chars with
  | ':' :: chars => afterSeconds? chars
  | chars => some chars

/-- Whether a text is the distance from universal time, or empty for a local time. -/
def isOffset : List Char → Bool
  | [] => true
  | ['Z'] | ['z'] => true
  | '+' :: chars | '-' :: chars => afterMinutes? chars == some []
  | _ => false

def isMoment (chars : List Char) : Bool :=
  match afterDate? chars with
  | none => afterTime? chars == some []
  | some [] => true
  | some (gap :: chars) =>
      (gap == 'T' || gap == 't' || gap == ' ') &&
        match afterTime? chars with
        | some chars => isOffset chars
        | none => false

def keyword? (chars : List Char) : Option Scalar :=
  match String.ofList chars with
  | "true" => some (.boolean true)
  | "false" => some (.boolean false)
  | "inf" | "+inf" => some (.infinity false)
  | "-inf" => some (.infinity true)
  | "nan" | "+nan" | "-nan" => some .notANumber
  | _ => none

def plainScalar? (chars : List Char) : Option Scalar :=
  match keyword? chars with
  | some scalar => some scalar
  | none =>
      match integer? chars with
      | some value => some (.integer value)
      | none =>
          match decimal? chars with
          | some scalar => some scalar
          | none => if isMoment chars then some (.moment (String.ofList chars)) else none

end Accounts.Toml
