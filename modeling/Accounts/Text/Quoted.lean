import Accounts.Text.Unseen

/-!
The diagnostic form of values: quoted text in which every character can be
seen, and records with named fields.
-/

namespace Accounts

def codeEscape (char : Char) : List Char :=
  ['\\', 'u', '\x7b'] ++ Nat.toDigits 16 char.toNat ++ ['\x7d']

def escapedChar (char : Char) : List Char :=
  match char with
  | '\x00' => ['\\', '0']
  | '\t' => ['\\', 't']
  | '\n' => ['\\', 'n']
  | '\r' => ['\\', 'r']
  | '"' => ['\\', '"']
  | '\\' => ['\\', '\\']
  | char => if isUnseen char then codeEscape char else [char]

def quotedChars (chars : List Char) : List Char := '"' :: (chars.flatMap escapedChar ++ ['"'])

def quoted (text : String) : String := String.ofList (quotedChars text.toList)

def fieldTexts (fields : List (String × String)) : List String :=
  fields.map fun field => field.1 ++ ": " ++ field.2

def shownRecord (name : String) (fields : List (String × String)) : String :=
  name ++ " \x7b " ++ String.intercalate ", " (fieldTexts fields) ++ " \x7d"

/-- A record that keeps some fields to itself; two dots stand for them. -/
def shownRecordWithout (name : String) (fields : List (String × String)) : String :=
  name ++ " \x7b " ++ String.intercalate ", " (fieldTexts fields ++ [".."]) ++ " \x7d"

end Accounts
