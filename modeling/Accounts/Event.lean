import Accounts.Failure

/-!
What the table and the sign-in service report while they work. An event has a
level, the part of the program that it comes from, a message and named values;
`line` is its text in a log.
-/

namespace Accounts

inductive Level where
  | error
  | warn
  | info
  | debug
  deriving DecidableEq, Repr

namespace Level

def name : Level → String
  | .error => "ERROR"
  | .warn => "WARN"
  | .info => "INFO"
  | .debug => "DEBUG"

/-- Greater for events that matter less. -/
def rank : Level → Nat
  | .error => 1
  | .warn => 2
  | .info => 3
  | .debug => 4

end Level

inductive Event where
  | tableMissing (path : String)
  | tableOverflow (path : String) (rows capacity : Nat)
  | recordUnreadable (path : String) (row : Nat)
  | recordDuplicate (path : String) (row : Nat) (username : String)
  | tableLoaded (path : String) (rows : Nat)
  | tableFailed (path : String) (failure : Failure)
  | tableFull (capacity : Nat)
  | appendFailed (path : String) (fault : Fault)
  | recordAppended (rows : Nat)
  | sessionTooLong (length max : Nat)
  | keyDerived (iterations : UInt32)
  | usernameTaken (username : String)
  | registered (username : String) (iterations : UInt32)
  | unknownAccount (username : String)
  | wrongPassword (username : String)
  | signedIn (username : String)
  | signedOut (username : String)
  deriving DecidableEq, Repr

namespace Event

def level : Event → Level
  | .tableFailed .. | .appendFailed .. => .error
  | .tableMissing .. | .tableOverflow .. | .recordUnreadable .. | .recordDuplicate ..
  | .tableFull .. | .sessionTooLong .. => .warn
  | .tableLoaded .. | .usernameTaken .. | .registered .. | .unknownAccount .. | .wrongPassword ..
  | .signedIn .. | .signedOut .. => .info
  | .recordAppended .. | .keyDerived .. => .debug

/-- The part of the program an event comes from, as log filters name it. -/
def target : Event → String
  | .keyDerived .. | .usernameTaken .. | .registered .. | .unknownAccount .. | .wrongPassword ..
  | .signedIn .. | .signedOut .. => "credential_core::auth"
  | _ => "credential_core::store"

def message : Event → String
  | .tableMissing .. => "User table file not found, starting with an empty table"
  | .tableOverflow .. => "User table file holds more rows than capacity, extra rows not loaded"
  | .recordUnreadable .. => "Skipping user record with a non UTF-8 username"
  | .recordDuplicate .. => "Skipping duplicate user record"
  | .tableLoaded .. => "User table loaded"
  | .tableFailed _ failure =>
      String.join ["User table failed to load, continuing with ZERO users: ", failure.message]
  | .tableFull .. => "User table full, insert rejected"
  | .appendFailed _ fault => String.join ["Failed to append user record: ", fault.message]
  | .recordAppended .. => "User record appended"
  | .sessionTooLong .. => "Session id does not fit the record, update refused"
  | .keyDerived .. => "Password key derivation finished"
  | .usernameTaken .. => "Registration rejected: username taken"
  | .registered .. => "User registered"
  | .unknownAccount .. => "Login failed: unknown account"
  | .wrongPassword .. => "Login failed: wrong password"
  | .signedIn .. => "Login succeeded"
  | .signedOut .. => "Logged out"

/-- The values of an event in the order they are written. How long a derivation took is no part of
the answer, so a mark stands for it. -/
def fields : Event → List (String × String)
  | .tableMissing path => [("path", path)]
  | .tableOverflow path rows capacity =>
      [("path", path), ("rows", toString rows), ("capacity", toString capacity)]
  | .recordUnreadable path row => [("path", path), ("row", toString row)]
  | .recordDuplicate path row username =>
      [("path", path), ("row", toString row), ("username", username)]
  | .tableLoaded path rows => [("path", path), ("rows", toString rows)]
  | .tableFailed path failure => [("path", path), ("code", quoted failure.code)]
  | .tableFull capacity => [("capacity", toString capacity)]
  | .appendFailed path _ => [("path", path)]
  | .recordAppended rows => [("rows", toString rows)]
  | .sessionTooLong length max => [("len", toString length), ("max", toString max)]
  | .keyDerived iterations => [("iterations", toString iterations), ("elapsed_ms", "<n>")]
  | .usernameTaken username => [("username", quoted username)]
  | .registered username iterations =>
      [("username", quoted username), ("iterations", toString iterations)]
  | .unknownAccount username => [("username", quoted username)]
  | .wrongPassword username => [("username", quoted username)]
  | .signedIn username => [("username", quoted username)]
  | .signedOut username => [("username", username)]

/-- The names of what an event carries, its message among them. -/
def fieldNames (event : Event) : List String := "message" :: event.fields.map Prod.fst

/-- A character that could steer a terminal is written as its code. -/
def safeChar (char : Char) : List Char :=
  if char = '\x07' then "\\x07".toList
  else if char = '\x08' then "\\x08".toList
  else if char = '\x0c' then "\\x0c".toList
  else if char = '\x1b' then "\\x1b".toList
  else if char = '\x7f' then "\\x7f".toList
  else if 0x80 ≤ char.toNat ∧ char.toNat ≤ 0x9f then codeEscape char
  else [char]

def safeText (text : String) : String := String.ofList (text.toList.flatMap safeChar)

def line (event : Event) : String :=
  String.intercalate " "
    (event.level.name :: safeText event.message ::
      event.fields.map fun field => field.1 ++ "=" ++ field.2)

end Event

end Accounts
