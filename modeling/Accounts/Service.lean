import Accounts.Hash.Pbkdf2
import Accounts.Session
import Accounts.Store

/-!
Registration, sign-in and sign-out over a table of accounts. A password is kept
as a derived key with a salt and an iteration count of its own account, so
accounts keep working when the settings change.
-/

namespace Accounts

def defaultIterations : UInt32 := 100000

def defaultCookieName : String := "session"

structure Settings where
  iterations : UInt32
  /-- Random bytes behind each session. -/
  sessionEntropy : Nat
  cookieName : String
  deriving DecidableEq, Repr

def Settings.default : Settings := ⟨defaultIterations, defaultSessionEntropy, defaultCookieName⟩

structure Service where
  settings : Settings
  store : Store
  entropy : Entropy

namespace Service

def note (service : Service) (event : Event) : Service :=
  { service with store := service.store.note event }

/-- The key of a password, and the service that reports the derivation. -/
def derive (service : Service) (password : String) (salt : Salt) (iterations : UInt32) :
    PasswordHash × Service :=
  (Pbkdf2.passwordHash (utf8 password) salt.toList iterations,
    service.note (.keyDerived iterations))

/-- The salt of the derivation that is made for a name without an account, and thrown away. -/
def zeroSalt : Salt := Vector.replicate 16 0

/-- Gives an account that has proved its password a new session. -/
def startSession (service : Service) (account : Account) (username : String) :
    Except Failure Login × Service :=
  match issueSession service.entropy service.settings.sessionEntropy with
  | (.error failure, entropy) => (.error failure, { service with entropy })
  | (.ok session, entropy) =>
      match service.store.setSession username session with
      | (false, store) => (.error .accountNotFound, { service with store, entropy })
      | (true, store) =>
          (.ok ⟨account.username, session, service.settings.cookieName⟩,
            { service with store, entropy }.note (.signedIn username))

/-- Checks a password and starts a session. A name without an account costs a derivation too. -/
def login (service : Service) (username password : String) : Except Failure Login × Service :=
  if username.isEmpty || password.isEmpty then (.error .missingCredentials, service)
  else
    match service.store.findByUsername username with
    | none =>
        let (_, service) := service.derive password zeroSalt service.settings.iterations
        (.error .accountNotFound, service.note (.unknownAccount username))
    | some account =>
        let (candidate, service) := service.derive password account.salt account.iterations
        if sameBytes candidate.toList account.passwordHash.toList then
          service.startSession account username
        else (.error .wrongPassword, service.note (.wrongPassword username))

def checkForm (username password : String) : Except Failure Unit :=
  if username.isEmpty && password.isEmpty then .error .missingCredentials
  else
    match checkUsername username with
    | .error failure => .error failure
    | .ok () =>
        if password.isEmpty then .error .emptyPassword
        else if maxPasswordBytes < password.utf8ByteSize then
          .error (.passwordTooLong password.utf8ByteSize maxPasswordBytes)
        else .ok ()

def register (service : Service) (username password : String) : Except Failure Login × Service :=
  match checkForm username password with
  | .error failure => (.error failure, service)
  | .ok () =>
      if (service.store.findByUsername username).isSome then
        (.error .accountExists, service.note (.usernameTaken username))
      else
        match service.entropy.draw 16 with
        | (.error failure, entropy) => (.error failure, { service with entropy })
        | (.ok salt, entropy) =>
            let (passwordHash, service) :=
              { service with entropy }.derive password salt service.settings.iterations
            match service.store.insert username salt passwordHash service.settings.iterations with
            | (.error failure, store) => (.error failure, { service with store })
            | (.ok (), store) =>
                ({ service with store }.note
                  (.registered username service.settings.iterations)).login username password

def resolve (service : Service) (cookie : Option String) : Visitor :=
  match cookie.bind service.store.findBySession with
  | some account => ⟨some account.username⟩
  | none => .anonymous

/-- Ends the visitor's session, in the table and in the browser. -/
def logout (service : Service) (visitor : Visitor) : Cookie × Visitor × Service :=
  let service := match visitor.username with
    | none => service
    | some username =>
        match service.store.setSession username "" with
        | (true, store) => { service with store }.note (.signedOut username)
        | (false, store) => { service with store }
  (.clear service.settings.cookieName, .anonymous, service)

end Service

end Accounts
