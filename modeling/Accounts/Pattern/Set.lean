import Accounts.Pattern.Atom

/-!
Sets of characters in square brackets. Members are characters, ranges, named
classes and sets; operators between groups of members take what these have in
common, what is in the first alone, or what is in one alone. How deep the parts
lie in one another is counted along the way.
-/

namespace Accounts.Pattern

/-- The depth of parts that stand side by side: one part needs nothing around it. -/
def sideBySide : List Nat → Nat
  | [] => 0
  | [depth] => depth
  | depths => depths.foldl max 0 + 1

structure OpenSet where
  isNew : Bool
  /-- The depth of what is in front of an operator. -/
  left : Option Nat
  members : List Nat
  deriving DecidableEq, Repr

namespace OpenSet

def depth (set : OpenSet) : Nat :=
  match set.left with
  | none => sideBySide set.members
  | some left => max left (sideBySide set.members) + 1

def withMember (set : OpenSet) (depth : Nat) : OpenSet :=
  { set with isNew := false, members := depth :: set.members }

/-- An operator makes everything before it its left side. -/
def operated (set : OpenSet) : OpenSet := ⟨false, some set.depth, []⟩

end OpenSet

def classNames : List String :=
  ["alnum", "alpha", "ascii", "blank", "cntrl", "digit", "graph", "lower", "print", "punct",
    "space", "upper", "word", "xdigit"]

/-- Whether a class is of all others, and what follows it, given what is behind its bracket. -/
def colonClass? : List Char → Option (Bool × List Char)
  | ':' :: chars =>
      let negated := chars.head? = some '^'
      let chars := if negated then chars.tail else chars
      let (name, rest) := chars.span (· ≠ ':')
      if classNames.contains (String.ofList name) && rest.take 2 = [':', ']'] then
        some (negated, rest.drop 2)
      else none
  | _ => none

def Modes.allowsClass (modes : Modes) (negated : Bool) : Bool :=
  if modes.unicode then !modes.ignoreCase else !negated

/-- A member of a set, or one end of a range. -/
def member? (modes : Modes) : List Char → Option (Atom × List Char)
  | [] => none
  | '\\' :: chars => escape? modes chars
  | char :: chars => some (.char char false, chars)

def isRange (modes : Modes) : Atom → Atom → Bool
  | .char first _, .char last _ =>
      modes.allowsInSet (.char first false) && modes.allowsInSet (.char last false) && first ≤ last
  | _, _ => false

/-- The rest behind a member or a range. A minus sign makes no range in front of a closing bracket
or of another minus sign. -/
def afterMember? (modes : Modes) (chars : List Char) : Option (List Char) :=
  (member? modes chars).bind fun (first, rest) =>
    match modes.skip rest with
    | '-' :: more =>
        if modes.peek? more = some ']' ∨ modes.peek? more = some '-' then
          if modes.allowsInSet first then some ('-' :: more) else none
        else (member? modes (modes.skip more)).bind fun (last, rest) =>
          if isRange modes first last then some rest else none
    | rest => if modes.allowsInSet first then some rest else none

/-- The start of a set, given what is behind its bracket. The complement of a set of bytes would
take characters apart. -/
def openSet? (modes : Modes) (chars : List Char) : Option (OpenSet × List Char) :=
  match modes.skip chars with
  | '^' :: rest => if modes.unicode then some (⟨true, none, []⟩, rest) else none
  | rest => some (⟨true, none, []⟩, rest)

def isOperator (char : Char) : Bool := char == '&' || char == '-' || char == '~'

/-- Reads on in the innermost of the open sets; an empty list is left when all are closed. -/
def stepSets (modes : Modes) (set : OpenSet) (outer : List OpenSet) (char : Char)
    (chars : List Char) : Option (List OpenSet × List Char) :=
  if set.isNew && (char == '-' || char == ']' && set.members.isEmpty) then
    if modes.allowsInSet (.char char false) then
      some ({ set.withMember 0 with isNew := char == '-' } :: outer, chars)
    else none
  else if char = ']' then
    match outer with
    | [] => some ([], chars)
    | around :: outer => some (around.withMember (set.depth + 1) :: outer, chars)
  else if isOperator char && chars.head? == some char then
    some (set.operated :: outer, chars.tail)
  else if char = '[' then
    match colonClass? chars with
    | some (negated, rest) =>
        if modes.allowsClass negated then some (set.withMember 0 :: outer, rest) else none
    | none => (openSet? modes chars).map fun (inner, rest) => (inner :: set :: outer, rest)
  else (afterMember? modes (char :: chars)).map fun rest => (set.withMember 0 :: outer, rest)

end Accounts.Pattern
