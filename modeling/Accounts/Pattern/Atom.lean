import Accounts.Pattern.Modes
import Accounts.Text.CodePoint

/-!
The smallest parts of a pattern, and how a backslash writes them. Properties of
characters beyond ASCII are not known to patterns: named classes and the two
cases of a letter are there for bytes alone.
-/

namespace Accounts.Pattern

inductive Atom where
  /-- A character, which can be written as the value of a byte. -/
  | char (char : Char) (isByte : Bool)
  | edge
  | wordEdge
  /-- Digits, white space or the characters of words, or all others. -/
  | namedClass (negated : Bool)
  deriving DecidableEq, Repr

def Modes.allows (modes : Modes) : Atom → Bool
  | .char char isByte =>
      if modes.unicode then !modes.ignoreCase else !isByte || char.toNat < 0x80
  | .edge => true
  | .wordEdge => !modes.unicode
  | .namedClass negated => !modes.unicode && !negated

def Modes.allowsInSet (modes : Modes) : Atom → Bool
  | .char char _ => if modes.unicode then !modes.ignoreCase else char.toNat < 0x80
  | .namedClass negated => !modes.unicode && !negated
  | .edge | .wordEdge => false

/-- The digits of a code, between which there can be space. -/
def digits? (modes : Modes) : (count : Nat) → List Char → Option (List Char × List Char)
  | 0, chars => some ([], chars)
  | count + 1, chars =>
      match modes.skip chars with
      | [] => none
      | digit :: rest =>
          (digits? modes count rest).map fun (digits, rest) => (digit :: digits, rest)

/-- The character of a code. With two digits it is the value of a byte. -/
def code? (modes : Modes) (width : Nat) (chars : List Char) : Option (Atom × List Char) :=
  (digits? modes width chars).bind fun (digits, rest) =>
    (codeChar? width digits).map fun char => (.char char (width = 2), rest)

def letterAtom? : Char → Option Atom
  | 'a' => some (.char '\x07' false)
  | 'f' => some (.char '\x0c' false)
  | 't' => some (.char '\t' false)
  | 'n' => some (.char '\n' false)
  | 'r' => some (.char '\r' false)
  | 'v' => some (.char '\x0b' false)
  | 'A' | 'z' => some .edge
  | 'b' | 'B' | '<' | '>' => some .wordEdge
  | 'd' | 's' | 'w' => some (.namedClass false)
  | 'D' | 'S' | 'W' => some (.namedClass true)
  | _ => none

/-- An ASCII character that stands for itself behind a backslash. -/
def isMark (char : Char) : Bool := char.toNat < 0x80 && !char.isAlphanum

def escape? (modes : Modes) : List Char → Option (Atom × List Char)
  | [] => none
  | 'x' :: chars => code? modes 2 chars
  | 'u' :: chars => code? modes 4 chars
  | 'U' :: chars => code? modes 8 chars
  | letter :: chars =>
      match letterAtom? letter with
      | some atom => some (atom, chars)
      | none => if isMark letter then some (.char letter false, chars) else none

end Accounts.Pattern
