import Accounts.Pattern.Set
import Accounts.Text.Alphanumeric

/-!
Patterns: regular expressions for the values of fields. It is settled here which
texts are patterns, not what they match: groups and sets have to be closed, a
repetition needs something to repeat, a backslash has to mean something, and
parts may lie only so deep in one another.
-/

namespace Accounts.Pattern

def maxDepth : Nat := 250

structure Branches where
  /-- The depths of the alternatives that are complete. -/
  earlier : List Nat
  /-- The depths of the parts of the next one, the last part first; flags have none, and nothing can
  repeat them. -/
  parts : List (Option Nat)
  deriving DecidableEq, Repr

namespace Branches

def empty : Branches := ⟨[], []⟩

def withPart (branches : Branches) (depth : Option Nat) : Branches :=
  { branches with parts := depth :: branches.parts }

def branchDepth (branches : Branches) : Nat := sideBySide (branches.parts.map (·.getD 0))

def split (branches : Branches) : Branches := ⟨branches.branchDepth :: branches.earlier, []⟩

def depth (branches : Branches) : Nat := sideBySide (branches.branchDepth :: branches.earlier)

def repeated? (branches : Branches) : Option Branches :=
  match branches.parts with
  | some depth :: parts => some { branches with parts := some (depth + 1) :: parts }
  | _ => none

end Branches

structure Reading where
  modes : Modes
  /-- The names of groups, each of which is given once. -/
  names : List (List Char)
  branches : Branches
  /-- The open groups, the innermost first, as they and the modes were before. -/
  groups : List (Branches × Modes)
  sets : List OpenSet
  deriving DecidableEq, Repr

namespace Reading

def start : Reading := ⟨.start, [], .empty, [], []⟩

def withPart (reading : Reading) (depth : Option Nat) : Reading :=
  { reading with branches := reading.branches.withPart depth }

def openGroup (reading : Reading) (modes : Modes) : Reading :=
  { reading with
    modes
    branches := .empty
    groups := (reading.branches, reading.modes) :: reading.groups }

def closeGroup? (reading : Reading) : Option Reading :=
  match reading.groups with
  | [] => none
  | (outer, modes) :: groups =>
      some { reading with
        modes
        groups
        branches := outer.withPart (some (reading.branches.depth + 1)) }

/-- A name starts with a letter or a low line. -/
def isName : List Char → Bool
  | [] => false
  | first :: rest =>
      (first == '_' || isAlphabetic first) &&
        rest.all fun char => isAlphanumeric char || ['_', '.', '[', ']'].contains char

def openNamed? (reading : Reading) (chars : List Char) : Option (Reading × List Char) :=
  let (name, rest) := chars.span (· ≠ '>')
  if isName name && !reading.names.contains name && !rest.isEmpty then
    some ({ reading with names := name :: reading.names }.openGroup reading.modes, rest.tail)
  else none

/-- Switches modes for a group, or for what is left of the group they stand in. -/
def openFlags? (reading : Reading) (chars : List Char) : Option (Reading × List Char) :=
  let (flags, rest) := chars.span fun char => char != ':' && char != ')'
  if areFlags flags then
    let modes := reading.modes.switch flags
    match rest with
    | ':' :: rest => some (reading.openGroup modes, rest)
    | ')' :: rest =>
        if flags.isEmpty then none else some ({ reading with modes }.withPart none, rest)
    | _ => none
  else none

/-- What an opening parenthesis starts. Looking ahead or behind is not possible. -/
def openGroup? (reading : Reading) (chars : List Char) : Option (Reading × List Char) :=
  match reading.modes.skip chars with
  | '?' :: '=' :: _ | '?' :: '!' :: _ | '?' :: '<' :: '=' :: _ | '?' :: '<' :: '!' :: _ => none
  | '?' :: 'P' :: '<' :: rest => reading.openNamed? rest
  | '?' :: '<' :: rest => reading.openNamed? rest
  | '?' :: rest => reading.openFlags? rest
  | rest => some (reading.openGroup reading.modes, rest)

/-- A repetition takes as little as it can where a question mark follows. -/
def repeated? (reading : Reading) (chars : List Char) : Option (Reading × List Char) :=
  reading.branches.repeated?.map fun branches =>
    ({ reading with branches }, if chars.head? = some '?' then chars.tail else chars)

/-- Any character. A byte of its own could be half a character. -/
def anyChar? (reading : Reading) : Option Reading :=
  if reading.modes.unicode then some (reading.withPart (some 0)) else none

def atom? (reading : Reading) (atom : Atom) : Option Reading :=
  if reading.modes.allows atom then some (reading.withPart (some 0)) else none

/-- Goes on with a set; the set is a part once it is closed. -/
def inSets (reading : Reading) (set : OpenSet) (sets : List OpenSet) : Reading :=
  match sets with
  | [] => { reading with sets }.withPart (some (set.depth + 1))
  | _ => { reading with sets }

/-- Reads on outside of sets. An opening brace never stands alone: it would start a count. -/
def stepOutside (reading : Reading) (char : Char) (chars : List Char) :
    Option (Reading × List Char) :=
  match char with
  | '(' => reading.openGroup? chars
  | ')' => reading.closeGroup?.map fun reading => (reading, chars)
  | '|' => some ({ reading with branches := reading.branches.split }, chars)
  | '[' => (openSet? reading.modes chars).map fun (set, rest) =>
      ({ reading with sets := [set] }, rest)
  | '?' | '*' | '+' => reading.repeated? chars
  | '\x7b' => none
  | '.' => reading.anyChar?.map fun reading => (reading, chars)
  | '^' | '$' => (reading.atom? .edge).map fun reading => (reading, chars)
  | '\\' => (escape? reading.modes chars).bind fun (atom, rest) =>
      (reading.atom? atom).map fun reading => (reading, rest)
  | char => (reading.atom? (.char char false)).map fun reading => (reading, chars)

def step (reading : Reading) (char : Char) (chars : List Char) : Option (Reading × List Char) :=
  match reading.sets with
  | [] => reading.stepOutside char chars
  | set :: outer => (stepSets reading.modes set outer char chars).map fun (sets, rest) =>
      (reading.inSets set sets, rest)

/-- Reads to the end. Every step takes a character at least, so `fuel` need not exceed their
number. -/
def run : (fuel : Nat) → Reading → List Char → Option Reading
  | fuel, reading, chars =>
      match fuel, reading.modes.skip chars with
      | _, [] => some reading
      | 0, _ => none
      | fuel + 1, char :: rest =>
          (reading.step char rest).bind fun (reading, rest) => run fuel reading rest

/-- Everything is closed, and nothing lies too deep. -/
def isComplete (reading : Reading) : Bool :=
  reading.groups.isEmpty && reading.sets.isEmpty && reading.branches.depth ≤ maxDepth

end Reading

end Pattern

/-- Whether a text is a pattern. Counts of repetitions in braces are not among them. -/
def isPattern (chars : List Char) : Bool :=
  (Pattern.Reading.start.run chars.length chars).any Pattern.Reading.isComplete

end Accounts
