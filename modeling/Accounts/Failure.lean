import Accounts.Text.Quoted

/-!
What can go wrong with an account, and with the place where accounts are kept.
A failure has a code for programs, a message for people and a diagnostic form.
-/

namespace Accounts

inductive Fault where
  | missing
  | exists
  | notDirectory
  | directory
  | nameTooLong
  | zeroByteInPath
  | other (reason : String)
  deriving DecidableEq, Repr

namespace Fault

def description : Fault → String
  | .missing => "No such file or directory"
  | .exists => "File exists"
  | .notDirectory => "Not a directory"
  | .directory => "Is a directory"
  | .nameTooLong => "File name too long"
  | .zeroByteInPath => "file name contained an unexpected NUL byte"
  | .other reason => reason

def kind : Fault → String
  | .missing => "NotFound"
  | .exists => "AlreadyExists"
  | .notDirectory => "NotADirectory"
  | .directory => "IsADirectory"
  | .nameTooLong => "InvalidFilename"
  | .zeroByteInPath => "InvalidInput"
  | .other _ => "Other"

/-- The number that the operating system gives to the fault, if it is one of its own. -/
def systemNumber? : Fault → Option Nat
  | .missing => some 2
  | .exists => some 17
  | .notDirectory => some 20
  | .directory => some 21
  | .nameTooLong => some 36
  | .zeroByteInPath => none
  | .other _ => none

def message (fault : Fault) : String :=
  match fault.systemNumber? with
  | some number => fault.description ++ " (os error " ++ toString number ++ ")"
  | none => fault.description

def diagnostic (fault : Fault) : String :=
  match fault, fault.systemNumber? with
  | _, some number =>
      shownRecord "Os" [("code", toString number), ("kind", fault.kind),
        ("message", quoted fault.description)]
  | .other reason, none => shownRecord "Custom" [("kind", fault.kind), ("error", quoted reason)]
  | _, none =>
      shownRecord "Error" [("kind", fault.kind), ("message", quoted fault.description)]

end Fault

inductive Failure where
  /-- Neither a username nor a password was given. -/
  | missingCredentials
  | emptyUsername
  | emptyPassword
  /-- Lengths are counted in bytes. -/
  | usernameTooLong (length max : Nat)
  | passwordTooLong (length max : Nat)
  | invalidUsername
  | accountNotFound
  | accountExists
  | wrongPassword
  | tableFull (capacity : Nat)
  /-- The size in bytes is not a whole number of records. -/
  | corruptTable (path : String) (size : Nat)
  | storage (fault : Fault)
  | entropy (reason : String)
  deriving DecidableEq, Repr

namespace Failure

def code : Failure → String
  | .missingCredentials => "missing_credentials"
  | .emptyUsername => "empty_username"
  | .emptyPassword => "empty_password"
  | .usernameTooLong .. => "username_too_long"
  | .passwordTooLong .. => "password_too_long"
  | .invalidUsername => "invalid_username"
  | .accountNotFound => "account_not_found"
  | .accountExists => "account_exists"
  | .wrongPassword => "wrong_password"
  | .tableFull .. => "table_full"
  | .corruptTable .. => "corrupt_database"
  | .storage .. => "storage_error"
  | .entropy .. => "entropy_error"

def message : Failure → String
  | .missingCredentials => "username and password are required"
  | .emptyUsername => "username cannot be empty"
  | .emptyPassword => "password cannot be empty"
  | .usernameTooLong length max =>
      String.join ["username too long (", toString length, " bytes, max ", toString max, ")"]
  | .passwordTooLong length max =>
      String.join ["password too long (", toString length, " bytes, max ", toString max, ")"]
  | .invalidUsername => "username contains unprintable characters"
  | .accountNotFound => "no account exists with that username"
  | .accountExists => "username is already taken"
  | .wrongPassword => "password does not match"
  | .tableFull capacity => String.join ["user table is full (", toString capacity, " rows)"]
  | .corruptTable path size =>
      String.join ["user table ", path, " is corrupt: ", toString size,
        " bytes is not a multiple of the record size"]
  | .storage fault => String.join ["user table I/O failed: ", fault.message]
  | .entropy reason => String.join ["random byte source failed: ", reason]

/-- Whether the person at the form can mend it by typing something else. -/
def isValidation : Failure → Bool
  | .missingCredentials | .emptyUsername | .emptyPassword | .usernameTooLong ..
  | .passwordTooLong .. | .invalidUsername => true
  | _ => false

/-- The failure and, after colons, what caused it. -/
def chain : Failure → List String
  | .storage fault => [(Failure.storage fault).message, fault.message]
  | failure => [failure.message]

def diagnostic : Failure → String
  | .missingCredentials => "MissingCredentials"
  | .emptyUsername => "EmptyUsername"
  | .emptyPassword => "EmptyPassword"
  | .usernameTooLong length max =>
      shownRecord "UsernameTooLong" [("len", toString length), ("max", toString max)]
  | .passwordTooLong length max =>
      shownRecord "PasswordTooLong" [("len", toString length), ("max", toString max)]
  | .invalidUsername => "InvalidUsername"
  | .accountNotFound => "AccountNotFound"
  | .accountExists => "AccountExists"
  | .wrongPassword => "WrongPassword"
  | .tableFull capacity => shownRecord "TableFull" [("capacity", toString capacity)]
  | .corruptTable path size =>
      shownRecord "CorruptDatabase" [("path", quoted path), ("size", toString size)]
  | .storage fault => "Io(" ++ fault.diagnostic ++ ")"
  | .entropy reason => "Entropy(" ++ quoted reason ++ ")"

end Failure

end Accounts
