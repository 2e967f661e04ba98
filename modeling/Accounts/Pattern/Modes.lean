import Accounts.Text.Blank

/-!
The modes that a pattern can switch on and off, and the space that one of them
leaves out of account.
-/

namespace Accounts.Pattern

structure Modes where
  ignoreCase : Bool
  /-- Characters count as a whole, not as the bytes they are written in. -/
  unicode : Bool
  spaced : Bool
  deriving DecidableEq, Repr

def Modes.start : Modes := ⟨false, true, false⟩

/-- The letters of the modes; four of them change nothing about which patterns there are. -/
def modeLetters : List Char := ['i', 'u', 'x', 'm', 's', 'R', 'U']

/-- Whether letters switch modes: those behind the minus sign switch off. Nothing comes twice, and
the sign does not come last. -/
def areFlags (flags : List Char) : Bool :=
  flags.all (fun flag => flag == '-' || modeLetters.contains flag) && flags.Nodup &&
    flags.getLast? != some '-'

def switched (flags : List Char) (letter : Char) (before : Bool) : Bool :=
  if (flags.takeWhile (· ≠ '-')).contains letter then true
  else if flags.contains letter then false
  else before

def Modes.switch (modes : Modes) (flags : List Char) : Modes where
  ignoreCase := switched flags 'i' modes.ignoreCase
  unicode := switched flags 'u' modes.unicode
  spaced := switched flags 'x' modes.spaced

/-- Drops white space and comments, which end with their line. -/
def dropSpace : (inComment : Bool) → List Char → List Char
  | _, [] => []
  | true, char :: chars => dropSpace (char != '\n') chars
  | false, char :: chars =>
      if isBlank char then dropSpace false chars
      else if char = '#' then dropSpace true chars
      else char :: chars

namespace Modes

def skip (modes : Modes) (chars : List Char) : List Char :=
  if modes.spaced then dropSpace false chars else chars

/-- A look behind space at the next character. A comment is looked into, and where there is nothing
but space, it is the space itself that is seen. -/
def peek? (modes : Modes) (chars : List Char) : Option Char :=
  if modes.spaced then
    match chars.dropWhile isBlank with
    | '#' :: comment => (comment.dropWhile isBlank).head?.or chars.head?
    | seen => seen.head?.or chars.head?
  else chars.head?

end Modes

end Accounts.Pattern
