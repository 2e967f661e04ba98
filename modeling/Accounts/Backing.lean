import Accounts.Bytes
import Accounts.Failure

/-!
The place that keeps the records of a table. It is read as a whole and written
only at its end; either can fail. An append that fails can leave a part of its
bytes behind, and even all of them.
-/

namespace Accounts

structure Backing where
  location : String
  /-- The bytes kept so far; none before the first append. -/
  content : Option Bytes
  readFault : Option Fault
  appendFault : Option Fault
  /-- How many of its bytes an append that fails leaves behind, if it gets as far as to write. -/
  leftover : Option Nat
  /-- Whether an append was tried: one that fails can leave directories behind. -/
  tried : Bool
  deriving DecidableEq, Repr

namespace Backing

def sound (location : String) (content : Option Bytes) : Backing :=
  ⟨location, content, none, none, none, false⟩

def read (backing : Backing) : Except Fault (Option Bytes) :=
  match backing.readFault with
  | some fault => .error fault
  | none => .ok backing.content

def withBytes (backing : Backing) (bytes : Bytes) : Backing :=
  { backing with content := some (backing.content.getD [] ++ bytes), tried := true }

def append (backing : Backing) (bytes : Bytes) : Except Fault Unit × Backing :=
  match backing.appendFault with
  | none => (.ok (), backing.withBytes bytes)
  | some fault =>
      match backing.leftover with
      | none => (.error fault, { backing with tried := true })
      | some count => (.error fault, backing.withBytes (bytes.take count))

end Backing

end Accounts
