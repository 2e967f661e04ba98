import Accounts.Toml.Scalar

/-!
Tables of a TOML document, and the rules for putting them together: a key is
given a value once, a table has one header, and what is written in braces is
complete.
-/

namespace Accounts.Toml

inductive Origin where
  | inline
  /-- It was named on the way in the header of another table. -/
  | implied
  /-- It was named on the way in a dotted key. -/
  | dotted
  | explicit
  deriving DecidableEq, Repr

inductive Value where
  | scalar (scalar : Scalar)
  | array (items : List Value)
  | table (origin : Origin) (entries : List (String × Value))
  /-- Tables with a double header; the last of them can grow. -/
  | tables (earlier : List (List (String × Value))) (last : List (String × Value))
  deriving Repr

/-- Entries in the order in which their keys came. -/
abbrev Table := List (String × Value)

namespace Table

def get? (table : Table) (key : String) : Option Value := List.lookup key table

def put (table : Table) (key : String) (value : Value) : Table :=
  if (table.get? key).isSome then
    table.map fun entry => if entry.1 = key then (key, value) else entry
  else table ++ [(key, value)]

/-- Changes the table that a path leads to. The way goes through tables, which can have another
origin afterwards or bar it, and through the last of several tables; those that are missing are
made. -/
def within (through : Origin → Option Origin) (made : Origin)
    (change : Origin → Table → Option Table) : List String → Origin → Table → Option Table
  | [], origin, table => change origin table
  | key :: path, _, table =>
      match table.get? key with
      | none => (within through made change path made []).map fun inner =>
          table.put key (.table made inner)
      | some (.table origin inner) =>
          match through origin with
          | none => none
          | some origin => (within through made change path origin inner).map fun inner =>
              table.put key (.table origin inner)
      | some (.tables earlier last) =>
          (within through made change path .explicit last).map fun last =>
            table.put key (.tables earlier last)
      | some _ => none

def define (key : String) (value : Value) (table : Table) : Option Table :=
  if (table.get? key).isSome then none else some (table ++ [(key, value)])

/-- Dotted keys lead through tables without a header, which are theirs from then on. -/
def throughDotted : Origin → Option Origin
  | .implied | .dotted => some .dotted
  | .inline | .explicit => none

/-- Gives a dotted key a value, which goes into a table of dotted keys. -/
def defineAt (path : List String) (key : String) (value : Value) (table : Table) : Option Table :=
  within throughDotted .dotted
    (fun origin table => if path = [] ∨ origin = .dotted then table.define key value else none)
    path .explicit table

/-- Headers lead through all tables but those in braces. -/
def throughHeader : Origin → Option Origin
  | .inline => none
  | origin => some origin

/-- Changes the table that a header is for. -/
def atHeader (change : Table → Option Table) (path : List String) (root : Table) : Option Table :=
  within throughHeader .implied (fun _ table => change table) path .explicit root

/-- Makes the table of a header, which may have been named on the way to others before. -/
def openTable (path : List String) (key : String) (root : Table) : Option Table :=
  atHeader
    (fun table =>
      match table.get? key with
      | none => some (table.put key (.table .explicit []))
      | some (.table .implied inner) => some (table.put key (.table .explicit inner))
      | some _ => none)
    path root

def openNext (path : List String) (key : String) (root : Table) : Option Table :=
  atHeader
    (fun table =>
      match table.get? key with
      | none => some (table.put key (.tables [] []))
      | some (.tables earlier last) => some (table.put key (.tables (earlier ++ [last]) []))
      | some _ => none)
    path root

end Table

end Accounts.Toml
