import Accounts.Account.Record
import Accounts.Entropy
import Accounts.Hash.Sha256

/-!
Session ids, the cookies that carry them, and the visitor that a cookie stands for.
-/

namespace Accounts

def defaultSessionEntropy : Nat := 4096

/-- The digest of fresh random bytes, in hexadecimal. The size is any number: the limit on what can
be allocated, above which there would be no answer at all, is left out. -/
def issueSession (source : Entropy) (size : Nat) : Except Failure String × Entropy :=
  match source.draw size with
  | (.error failure, source) => (.error failure, source)
  | (.ok bytes, source) =>
      (.ok (String.ofList ((hexChars (sha256 bytes.toList).toList).take maxSessionBytes)), source)

inductive Cookie where
  | set (name value : String)
  | clear (name : String)
  deriving DecidableEq, Repr

namespace Cookie

def headerValue : Cookie → String
  | .set name value => name ++ "=" ++ value ++ "; Path=/; HttpOnly; SameSite=Strict"
  | .clear name => name ++ "=; Path=/; HttpOnly; SameSite=Strict; Max-Age=0"

def diagnostic : Cookie → String
  | .set name value => shownRecord "Set" [("name", quoted name), ("value", quoted value)]
  | .clear name => shownRecord "Clear" [("name", quoted name)]

end Cookie

structure Login where
  username : String
  session : String
  cookieName : String
  deriving DecidableEq, Repr

namespace Login

def cookie (login : Login) : Cookie := .set login.cookieName login.session

def diagnostic (login : Login) : String :=
  shownRecordWithout "LoginSuccess"
    [("username", quoted login.username), ("cookie_name", quoted login.cookieName)]

end Login

/-- Who asks: the name of an account, or nobody known. -/
structure Visitor where
  username : Option String
  deriving DecidableEq, Repr

namespace Visitor

def anonymous : Visitor := ⟨none⟩

def isAuthenticated (visitor : Visitor) : Bool := visitor.username.isSome

def diagnostic (visitor : Visitor) : String :=
  let shown := match visitor.username with
    | some username => "Some(" ++ quoted username ++ ")"
    | none => "None"
  shownRecord "Visitor" [("username", shown)]

end Visitor

end Accounts
