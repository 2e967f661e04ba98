import Accounts.Failure
import Accounts.Text.Utf8

/-!
An account: its name, what is kept of its password, and the session it is signed
in with. An empty session text means that there is none.
-/

namespace Accounts

def saltWidth : Nat := 16

def hashWidth : Nat := 32

abbrev Salt := Vector Byte 16

abbrev PasswordHash := Vector Byte 32

structure Account where
  username : String
  salt : Salt
  passwordHash : PasswordHash
  iterations : UInt32
  session : String
  deriving DecidableEq, Repr

namespace Account

def new (username : String) (salt : Salt) (passwordHash : PasswordHash) (iterations : UInt32) :
    Account :=
  ⟨username, salt, passwordHash, iterations, ""⟩

def hasSession (account : Account) : Bool := !account.session.isEmpty

def diagnostic (account : Account) : String :=
  shownRecordWithout "UserAccount" [("username", quoted account.username),
    ("iteration_count", toString account.iterations), ("has_session", toString account.hasSession)]

end Account

def maxUsernameBytes : Nat := 31

def maxPasswordBytes : Nat := 512

/-- The general category Cc. -/
def isControl (char : Char) : Bool :=
  char.toNat < 0x20 || (0x7f ≤ char.toNat && char.toNat < 0xa0)

/-- A name has at least one byte, fits the record, and has no control character. -/
def checkUsername (username : String) : Except Failure Unit :=
  if username.isEmpty then .error .emptyUsername
  else if username.utf8ByteSize > maxUsernameBytes then
    .error (.usernameTooLong username.utf8ByteSize maxUsernameBytes)
  else if username.toList.any isControl then .error .invalidUsername
  else .ok ()

end Accounts
