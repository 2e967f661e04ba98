import Accounts.Command.Arguments
import Accounts.Event.Filter

/-!
Running a command: what it prints, how it ends, and what becomes of the table.
Nothing is done before the configuration has been read, overridden and checked.
A password that is not among the arguments is asked for at a prompt, which is no
part of this: whatever it gives is taken.
-/

namespace Accounts

inductive Complaint where
  | config (fault : ConfigFault)
  | failure (failure : Failure)
  /-- No password could be read at the prompt. -/
  | unread (reason : String)
  | unresolved (username : String)
  | stillResolved (username : String)
  deriving DecidableEq, Repr

def Complaint.line : Complaint → String
  | .config fault => String.join ["error: ", fault.message]
  | .failure reason =>
      String.join ["error[", reason.code, "]: ", String.intercalate ": " reason.chain]
  | .unread reason => "error: read password input: " ++ reason
  | .unresolved username =>
      String.join ["error: session for ", username, " did not resolve after login"]
  | .stillResolved username =>
      String.join ["error: session for ", username, " still resolves after logout"]

structure Reply where
  lines : List String
  /-- A remark that is no part of the answer. -/
  remark : Option String
  complaint : Option Complaint
  deriving DecidableEq, Repr

namespace Reply

def answer (lines : List String) : Reply := ⟨lines, none, none⟩

def refusal (complaint : Complaint) : Reply := ⟨[], none, some complaint⟩

end Reply

/-- What becomes of asking for a password, which has to be typed twice where it is `confirmed`: what
was typed, or why nothing could be read. -/
structure Prompt where
  ask : (confirmed : Bool) → Except String String

namespace Prompt

/-- The prompt of a program that runs without a terminal. -/
def unattended : Prompt := ⟨fun _ => .error "IO error: not a terminal"⟩

/-- The password of a command: nobody is asked for one that was given. -/
def password (prompt : Prompt) (confirmed : Bool) (given : Option String) :
    Except String String :=
  match given with
  | some password => .ok password
  | none => prompt.ask confirmed

end Prompt

def cookieLine (cookie : Cookie) : String := "Set-Cookie: " ++ cookie.headerValue

namespace Service

def registerReply (service : Service) (username : String) :
    (password : Except String String) → Reply × Service
  | .error reason => (.refusal (.unread reason), service)
  | .ok password =>
      match service.register username password with
      | (.error failure, service) => (.refusal (.failure failure), service)
      | (.ok login, service) =>
          (.answer ["registered " ++ login.username, cookieLine login.cookie], service)

/-- Ends a session that was just made, and looks whether it is gone. -/
def logoutReply (service : Service) (username : String) (login : Login) (visitor : Visitor)
    (lines : List String) : Reply × Service :=
  let (cookie, _, service) := service.logout visitor
  let lines := lines ++ [cookieLine cookie]
  if (service.resolve (some login.session)).isAuthenticated then
    (⟨lines, none, some (.stillResolved username)⟩, service)
  else (.answer (lines ++ ["session invalidated"]), service)

/-- Shows the new session after looking whether it leads to anybody. -/
def sessionReply (service : Service) (username : String) (login : Login) (logout : Bool) :
    Reply × Service :=
  let visitor := service.resolve (some login.session)
  let lines := [cookieLine login.cookie]
  if visitor.isAuthenticated then
    let lines := lines ++ ["session resolves to " ++ login.username]
    if logout then service.logoutReply username login visitor lines
    else (.answer lines, service)
  else (⟨lines, none, some (.unresolved username)⟩, service)

def loginReply (service : Service) (username : String) (password : Except String String)
    (logout : Bool) : Reply × Service :=
  match password with
  | .error reason => (.refusal (.unread reason), service)
  | .ok password =>
      match service.login username password with
      | (.error failure, service) => (.refusal (.failure failure), service)
      | (.ok login, service) => service.sessionReply username login logout

end Service

namespace Store

def inspectReply (store : Store) (username : String) : Reply :=
  match store.findByUsername username with
  | none => .refusal (.failure .accountNotFound)
  | some account =>
      .answer ["username:   " ++ account.username,
        "iterations: " ++ toString account.iterations,
        "session:    " ++ if account.hasSession then "active" else "none"]

def listReply (store : Store) : Reply where
  lines := store.usernames
  remark := some (toString store.rows.length ++ " of " ++ toString store.capacity ++ " rows (" ++
    store.status.diagnostic ++ ")")
  complaint := none

end Store

/-- What a command came to: its reply, what was reported on the way, and where the table is kept. -/
structure Outcome where
  reply : Reply
  events : List Event
  backing : Backing

/-- The table is opened before a password is asked for. -/
def Command.run (config : Config) (backing : Backing) (entropy : Entropy) (prompt : Prompt) :
    Command → Outcome
  | .register username given =>
      withService fun service => service.registerReply username (prompt.password true given)
  | .login username given logout =>
      withService fun service => service.loginReply username (prompt.password false given) logout
  | .inspect username => withStore fun store => store.inspectReply username
  | .list => withStore Store.listReply
  | .hash text => line (sha256 (utf8 text)).text
  | .hmac key message => line (hmacSha256 (utf8 key) (utf8 message)).text
  | .pbkdf2 salt iterations length password =>
      line (hexText (Pbkdf2.derive (utf8 password) (utf8 salt) iterations length))
where
  line (text : String) : Outcome := ⟨.answer [text], [], backing⟩
  withStore (ask : Store → Reply) : Outcome :=
    let store := Store.load backing config.capacity.toNat
    ⟨ask store, store.journal, store.backing⟩
  withService (ask : Service → Reply × Service) : Outcome :=
    let store := Store.load backing config.capacity.toNat
    let (reply, service) := ask ⟨config.settings, store, entropy⟩
    ⟨reply, service.store.journal, service.store.backing⟩

/-- The variables of the environment that count; one that is not UTF-8 counts as not set. -/
structure Environment where
  databasePath : Option String
  iterations : Option String
  logFilter : Option String
  deriving DecidableEq, Repr

def prepare (environment : Environment) (config : Config) : Except ConfigFault Config := do
  let (outcome, config) := config.override environment.databasePath environment.iterations
  outcome
  config.check
  .ok config

/-- A line for people who watch the program: an event of the log, or a remark. -/
inductive Notice where
  | event (event : Event)
  | remark (text : String)
  deriving DecidableEq, Repr

def Notice.text : Notice → String
  | .event reported => reported.line
  | .remark text => text

structure Report where
  exit : Nat
  output : List String
  notices : List Notice
  deriving DecidableEq, Repr

namespace Report

def ofReply (reply : Reply) (notices : List Notice) : Report where
  exit := if reply.complaint.isSome then 1 else 0
  output := reply.lines
  notices := notices ++ (reply.remark.map Notice.remark).toList ++
    (reply.complaint.map fun complaint => Notice.remark complaint.line).toList

def ofOutcome (environment : Environment) (config : Config) (outcome : Outcome) : Report :=
  let filter := Filter.choose environment.logFilter config.logLevel
  ofReply outcome.reply ((outcome.events.filter filter.passes).map .event)

def ofFault (fault : ConfigFault) : Report := ofReply (.refusal (.config fault)) []

def versionLine : String := "credctl 0.1.0"

def helpLines : List String := [
  "Manage a credential table and its hashing primitives",
  "",
  "Usage: credctl [--config <PATH>] <COMMAND>",
  "",
  "Commands:",
  "  register  Create an account and log it in",
  "  login     Verify a password and issue a session",
  "  inspect   Show non-secret account details",
  "  list      List all usernames",
  "  hash      SHA-256 of a string, as hex",
  "  hmac      HMAC-SHA256 of a message, as hex",
  "  pbkdf2    PBKDF2-HMAC-SHA256 of a password, as hex"]

def ofStop : Stop → Report
  | .help => ⟨0, helpLines, []⟩
  | .version => ⟨0, [versionLine], []⟩
  | .usage => ⟨2, [], [.remark "error: the arguments are not understood; try credctl --help"]⟩

end Report

def Request.run (request : Request) (files : Files) (environment : Environment)
    (entropy : Entropy) (prompt : Prompt) : Report × Files :=
  match Config.loadOrDefault files request.config >>= prepare environment with
  | .error fault => (.ofFault fault, files)
  | .ok config =>
      let backing := files.backing config.databasePath
      let outcome := request.command.run config backing entropy prompt
      (.ofOutcome environment config outcome, files.save backing outcome.backing)

/-- The program where nobody can type a password. -/
def runProgram (files : Files) (environment : Environment) (entropy : Entropy)
    (arguments : List Bytes) : Report × Files :=
  match Request.ofArguments arguments with
  | .error stop => (.ofStop stop, files)
  | .ok request => request.run files environment entropy .unattended

end Accounts
