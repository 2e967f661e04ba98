import Accounts.Account

/-!
An account as a record of 149 bytes: 32 for the name, 16 for the salt, 32 for
the hash, 4 for the iterations and 65 for the session. A text is cut to one byte
less than its field, so a zero always follows it.
-/

namespace Accounts

def usernameWidth : Nat := 32

def sessionWidth : Nat := 65

def maxSessionBytes : Nat := 64

def recordWidth : Nat := 149

def padField (width : Nat) (text : Bytes) : Bytes :=
  let kept := text.take (width - 1)
  kept ++ List.replicate (width - kept.length) 0

/-- The text in front of the first zero, if it is UTF-8. -/
def unpadField (field : Bytes) : Option String := ofUtf8? (field.takeWhile (· != 0))

namespace Account

/-- The iterations stand in the byte order of the machine, which is assumed here, and by `decode?`,
to put the least byte first. -/
def encode (account : Account) : Bytes :=
  padField usernameWidth (utf8 account.username) ++ account.salt.toList ++
    account.passwordHash.toList ++ littleEndian32 account.iterations ++
    padField sessionWidth (utf8 account.session)

/-- A name that is not UTF-8 makes the record unreadable; a session that is not is no session. -/
def decode? (bytes : Bytes) : Option Account :=
  if sized : bytes.length = 149 then
    (unpadField (bytes.take usernameWidth)).map fun username =>
      { username
        salt := sliceBytes bytes 32 16 (by omega)
        passwordHash := sliceBytes bytes 48 32 (by omega)
        iterations := ofLittleEndian32 (sliceBytes bytes 80 4 (by omega))
        session := (unpadField (bytes.drop 84)).getD "" }
  else none

end Account

def splitRecords : (count : Nat) → Bytes → List Bytes
  | 0, _ => []
  | count + 1, bytes => bytes.take recordWidth :: splitRecords count (bytes.drop recordWidth)

end Accounts
