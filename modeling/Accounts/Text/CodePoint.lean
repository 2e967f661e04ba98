import Accounts.Bytes

/-!
Characters by their code in base sixteen.
-/

namespace Accounts

def hexValue? (digits : List Char) : Option Nat :=
  digits.foldlM (fun value digit => (hexDigitValue? digit).map (16 * value + ·)) 0

/-- The character with a code of exactly this many digits. A surrogate is none. -/
def codeChar? (width : Nat) (digits : List Char) : Option Char :=
  if digits.length = width then
    (hexValue? digits).bind fun value => if value.isValidChar then some (Char.ofNat value) else none
  else none

end Accounts
