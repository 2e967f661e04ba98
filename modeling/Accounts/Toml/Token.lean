import Accounts.Toml.Quote

/-!
The tokens of a TOML document. Quoted text comes without its marks and escapes;
a word is a run of other characters, whatever they may mean.
-/

namespace Accounts.Toml

inductive Token where
  | blank (text : List Char)
  | newline
  | comment
  | dot
  | equals
  | comma
  | openBracket
  | closeBracket
  | openBrace
  | closeBrace
  | word (text : List Char)
  | quoted (quote : Quote) (text : List Char)
  deriving DecidableEq, Repr

def markToken? : Char → Option Token
  | '.' => some .dot
  | '=' => some .equals
  | ',' => some .comma
  | '[' => some .openBracket
  | ']' => some .closeBracket
  | '\x7b' => some .openBrace
  | '\x7d' => some .closeBrace
  | _ => none

def isWordChar (char : Char) : Bool :=
  !(isGap char || char == '\n' || char == '\r' || char == '#' || char == '"' || char == '\x27' ||
    (markToken? char).isSome)

/-- The token that starts with a character, and how many more characters it takes. A comment ends
at the first character that may not stand in one, which is for the next token to explain. -/
def token? (char : Char) (chars : List Char) : Option (Token × Nat) :=
  if isGap char then
    let more := chars.takeWhile isGap
    some (.blank (char :: more), more.length)
  else if char = '\n' then some (.newline, 0)
  else if char = '\r' then if chars.head? = some '\n' then some (.newline, 1) else none
  else if char = '#' then some (.comment, (chars.takeWhile isPlain).length)
  else if char = '"' ∨ char = '\x27' then
    (readQuoted char chars).map fun (quote, text, width) => (.quoted quote text, width)
  else
    match markToken? char with
    | some token => some (token, 0)
    | none =>
        let more := chars.takeWhile isWordChar
        some (.word (char :: more), more.length)

def tokens? : List Char → Option (List Token)
  | [] => some []
  | char :: chars =>
      match token? char chars with
      | none => none
      | some (token, width) => (tokens? (chars.drop width)).map (token :: ·)
termination_by chars => chars.length
decreasing_by
  simp only [List.length_drop, List.length_cons]
  omega

end Accounts.Toml
