import Accounts.Config

/-!
The commands of the program, and what each of them is given.
-/

namespace Accounts

inductive Command where
  | register (username : String) (password : Option String)
  /-- With `logout`, the session is ended again. -/
  | login (username : String) (password : Option String) (logout : Bool)
  | inspect (username : String)
  | list
  | hash (text : String)
  | hmac (key message : String)
  | pbkdf2 (salt : String) (iterations : UInt32) (length : Nat) (password : String)
  deriving DecidableEq, Repr

namespace Command

def usesTable : Command → Bool
  | .register .. | .login .. | .inspect .. | .list => true
  | .hash .. | .hmac .. | .pbkdf2 .. => false

/-- The sizes of the random draws that a command makes unless it fails before. -/
def draws (settings : Settings) : Command → List Nat
  | .register .. => [saltWidth, settings.sessionEntropy]
  | .login .. => [settings.sessionEntropy]
  | _ => []

end Command

structure Request where
  config : Option Bytes
  command : Command
  deriving DecidableEq, Repr

inductive Stop where
  | help
  | version
  | usage
  deriving DecidableEq, Repr

end Accounts
