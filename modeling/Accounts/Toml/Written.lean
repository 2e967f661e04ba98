import Accounts.Toml.Quote

/-!
Text as it is quoted in a written TOML document: the plainest form that needs no
escapes, and where all forms need them, the basic ones.
-/

namespace Accounts.Toml

/-- The greatest number of times that a character follows itself. -/
def longestRun (wanted : Char) (chars : List Char) : Nat :=
  (chars.foldl
    (fun (current, longest) char =>
      let current := if char = wanted then current + 1 else 0
      (current, max longest current))
    (0, 0)).2

def hasBreak (chars : List Char) : Bool := chars.contains '\n'

/-- Control characters that cannot stand in any form. -/
def isHidden (char : Char) : Bool := char != '\n' && !isPlain char

def chooseQuote (chars : List Char) : Quote :=
  let hidden := chars.any isHidden
  let backslash := chars.contains '\\'
  let double := longestRun '"' chars
  let single := longestRun '\x27' chars
  if !hidden && !backslash && double == 0 && !hasBreak chars then .basic
  else if !hidden && single == 0 && !hasBreak chars then .literal
  else if !hidden && !backslash && double ≤ 2 then .basicBlock
  else if !hidden && single ≤ 2 then .literalBlock
  else if hasBreak chars then .basicBlock
  else .basic

def upperHexDigit (value : Nat) : Char := (hexDigit value).toUpper

def hexCode (code : Nat) : List Char :=
  [code / 4096 % 16, code / 256 % 16, code / 16 % 16, code % 16].map upperHexDigit

/-- A character behind double quotes, given how many of them were written right before it. In a
block, two may stand side by side. -/
def writtenChar (quote : Quote) (marks : Nat) (char : Char) : List Char :=
  match char with
  | '\x08' => ['\\', 'b']
  | '\t' => ['\\', 't']
  | '\n' => if quote.isBlock then ['\n'] else ['\\', 'n']
  | '\x0c' => ['\\', 'f']
  | '\r' => ['\\', 'r']
  | '\\' => ['\\', '\\']
  | '"' => if quote.isBlock ∧ marks < 2 then ['"'] else ['\\', '"']
  | char => if isPlain char then [char] else '\\' :: 'u' :: hexCode char.toNat

def escaped (quote : Quote) : (marks : Nat) → List Char → List Char
  | _, [] => []
  | marks, char :: chars =>
      let written := writtenChar quote marks char
      written ++ escaped quote (if written = ['"'] then marks + 1 else 0) chars

/-- A block whose text has a line break starts on a line of its own. -/
def writtenText (chars : List Char) : List Char :=
  let quote := chooseQuote chars
  let start := if quote.isBlock && hasBreak chars then ['\n'] else []
  let body := if quote.hasEscapes then escaped quote 0 chars else chars
  quote.delimiter ++ start ++ body ++ quote.delimiter

end Accounts.Toml
