import Accounts.Text.CodePoint

/-!
Quoted text in a TOML document. There are two marks, and one or three of them on
either side: behind double quotes a backslash starts an escape, between single
quotes every character stands for itself, and a block in triple quotes may span lines.
-/

namespace Accounts.Toml

inductive Quote where
  | basic
  | literal
  | basicBlock
  | literalBlock
  deriving DecidableEq, Repr

namespace Quote

def mark : Quote → Char
  | .basic | .basicBlock => '"'
  | .literal | .literalBlock => '\x27'

def isBlock : Quote → Bool
  | .basic | .literal => false
  | .basicBlock | .literalBlock => true

def hasEscapes : Quote → Bool
  | .basic | .basicBlock => true
  | .literal | .literalBlock => false

def delimiter (quote : Quote) : List Char :=
  if quote.isBlock then [quote.mark, quote.mark, quote.mark] else [quote.mark]

/-- The form whose first mark was read, given what follows the mark. -/
def opened (mark : Char) (chars : List Char) : Quote :=
  if chars.take 2 = [mark, mark] then
    if mark = '"' then .basicBlock else .literalBlock
  else if mark = '"' then .basic else .literal

end Quote

def isGap (char : Char) : Bool := char == ' ' || char == '\t'

/-- A character that may stand in comments and quoted text. -/
def isPlain (char : Char) : Bool := char == '\t' || (0x20 ≤ char.toNat && char.toNat != 0x7f)

def letterEscape? : Char → Option Char
  | 'b' => some '\x08'
  | 't' => some '\t'
  | 'n' => some '\n'
  | 'f' => some '\x0c'
  | 'r' => some '\r'
  | 'e' => some '\x1b'
  | '"' => some '"'
  | '\\' => some '\\'
  | _ => none

def codeWidth? : Char → Option Nat
  | 'x' => some 2
  | 'u' => some 4
  | 'U' => some 8
  | _ => none

/-- The character of an escape, and how many characters of it follow the backslash. -/
def escape? : List Char → Option (Char × Nat)
  | [] => none
  | letter :: chars =>
      match letterEscape? letter with
      | some char => some (char, 1)
      | none => do
          let width ← codeWidth? letter
          let char ← codeChar? width (chars.take width)
          some (char, width + 1)

def spaceWidth : List Char → Nat
  | [] => 0
  | '\r' :: '\n' :: chars => spaceWidth chars + 2
  | char :: chars => if isGap char || char == '\n' then spaceWidth chars + 1 else 0

/-- The space that a backslash before a line break takes away, on the lines that follow too. -/
def lineJoin? (chars : List Char) : Option Nat :=
  let width := spaceWidth chars
  if (chars.take width).contains '\n' then some width else none

/-- A piece of quoted text with its content; the width counts its characters after the first. -/
inductive Piece where
  | inside (content : List Char) (width : Nat)
  /-- The closing marks, with the marks in front of them that belong to the text. -/
  | close (content : List Char) (width : Nat)
  deriving DecidableEq, Repr

def escapePiece? (quote : Quote) (chars : List Char) : Option Piece :=
  match escape? chars with
  | some (char, width) => some (.inside [char] width)
  | none => if quote.isBlock then (lineJoin? chars).map (.inside [] ·) else none

/-- The piece that starts with a mark. Up to two more marks may stand right before the closing
three of a block. -/
def markPiece (quote : Quote) (chars : List Char) : Piece :=
  if quote.isBlock then
    if chars.take 2 = [quote.mark, quote.mark] then
      let inner := ((chars.drop 2).take 2).takeWhile (· == quote.mark)
      .close inner (2 + inner.length)
    else .inside [quote.mark] 0
  else .close [] 0

def piece? (quote : Quote) (char : Char) (chars : List Char) : Option Piece :=
  if char = quote.mark then some (markPiece quote chars)
  else if char = '\\' ∧ quote.hasEscapes then escapePiece? quote chars
  else if isPlain char ∨ (quote.isBlock ∧ char = '\n') then some (.inside [char] 0)
  else if quote.isBlock ∧ char = '\r' ∧ chars.head? = some '\n' then
    some (.inside ['\r', '\n'] 1)
  else none

/-- The content up to the closing marks, and how many characters that took. -/
def readPieces (quote : Quote) : List Char → Option (List Char × Nat)
  | [] => none
  | char :: chars =>
      match piece? quote char chars with
      | none => none
      | some (.close content width) => some (content, width + 1)
      | some (.inside content width) =>
          (readPieces quote (chars.drop width)).map fun (more, used) =>
            (content ++ more, used + width + 1)
termination_by chars => chars.length
decreasing_by
  simp only [List.length_drop, List.length_cons]
  omega

def breakWidth : List Char → Nat
  | '\n' :: _ => 1
  | '\r' :: '\n' :: _ => 2
  | _ => 0

/-- Reads quoted text behind its first mark. A line break right behind the opening marks of a block
is no part of the text. -/
def readQuoted (mark : Char) (chars : List Char) : Option (Quote × List Char × Nat) :=
  let quote := Quote.opened mark chars
  let start := if quote.isBlock then 2 + breakWidth (chars.drop 2) else 0
  (readPieces quote (chars.drop start)).map fun (content, used) => (quote, content, start + used)

end Accounts.Toml
