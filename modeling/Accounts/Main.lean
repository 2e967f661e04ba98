import Accounts.Command.Run

/-!
The program itself: it carries out on the system's files what `Request.run` says
about a tree of them.
-/

namespace Accounts.Program

/-- Some calls give the negative of the system's number. -/
def faultOf : IO.Error → Fault
  | .noFileOrDirectory .. => .missing
  | .alreadyExists .. => .exists
  | .permissionDenied .. => .other "Permission denied (os error 13)"
  | .inappropriateType _ code _ => if code = 21 ∨ code = 0 - 21 then .directory else .notDirectory
  | error => .other (toString error)

def readFile (path : String) : IO (Except Fault Bytes) := do
  try
    return .ok (← IO.FS.readBinFile path).data.toList
  catch error => return .error (faultOf error)

def outerPath (path : String) : Option String :=
  let outer := (path.toList.reverse.dropWhile (· ≠ '/')).tail.reverse
  if outer.isEmpty then none else some (String.ofList outer)

def appendFile (path : String) (bytes : Bytes) (isNew : Bool) : IO (Option Fault) := do
  try
    if let some outer := outerPath path then IO.FS.createDirAll outer
    let handle ← IO.FS.Handle.mk path .append
    if isNew then IO.setAccessRights path ⟨⟨true, true, false⟩, {}, {}⟩
    handle.write ⟨bytes.toArray⟩
    handle.flush
    return none
  catch error => return some (faultOf error)

def backingAt (path : String) : IO Backing := do
  match ← readFile path with
  | .ok content => return .sound path (some content)
  | .error .missing => return .sound path none
  | .error fault => return { Backing.sound path none with readFault := some fault }

def drawBytes (size : Nat) : IO (Except String Bytes) := do
  try
    return .ok (← IO.getRandomBytes (USize.ofNat size)).data.toList
  catch error => return .error (toString error)

/-- A line from the terminal, where it can be seen while it is typed. -/
def typedLine (label : String) : IO String := do
  IO.eprint (label ++ ": ")
  let line ← (← IO.getStdin).getLine
  return String.ofList (line.toList.takeWhile (· ≠ '\n'))

def askPassword (confirmed : Bool) : IO (Except String String) := do
  unless ← (← IO.getStdin).isTty do return Prompt.unattended.ask confirmed
  try
    let mut password ← typedLine "Password"
    if confirmed then
      while (← typedLine "Confirm password") ≠ password do
        IO.eprintln "Passwords do not match"
        password ← typedLine "Password"
    return .ok password
  catch error => return .error ("IO error: " ++ toString error)

/-- Asks before the command is run, if it has to ask at all. -/
def promptFor : Command → IO Prompt
  | .register _ none => do
      let answer ← askPassword true
      return ⟨fun _ => answer⟩
  | .login _ none _ => do
      let answer ← askPassword false
      return ⟨fun _ => answer⟩
  | _ => return .unattended

/-- What a command comes to. Where its record cannot be written, it is told so from the start. -/
def perform (config : Config) (command : Command) : IO Outcome := do
  let path := config.databasePath
  let backing ← if command.usesTable then backingAt path else pure (.sound path none)
  let prompt ← promptFor command
  let entropy := Entropy.ofScript (← (command.draws config.settings).mapM drawBytes)
  let outcome := command.run config backing entropy prompt
  if outcome.backing.tried then
    let known := (backing.content.getD []).length
    let added := (outcome.backing.content.getD []).drop known
    match ← appendFile path added backing.content.isNone with
    | none => return outcome
    | some fault =>
        return command.run config { backing with appendFault := some fault } entropy prompt
  else return outcome

def loadConfig : Option Bytes → IO (Except ConfigFault Config)
  | none => return .ok .default
  | some path => do return Config.ofContent (lossyUtf8 path) (← readFile (lossyUtf8 path))

def reportOf (environment : Environment) (request : Request) : IO Report := do
  match (← loadConfig request.config) >>= prepare environment with
  | .error fault => return .ofFault fault
  | .ok config => return .ofOutcome environment config (← perform config request.command)

def environment : IO Environment := do
  return {
    databasePath := ← IO.getEnv databaseVariable
    iterations := ← IO.getEnv iterationsVariable
    logFilter := ← IO.getEnv filterVariable }

end Accounts.Program

def main (arguments : List String) : IO UInt32 := do
  let report ← match Accounts.Request.ofArguments (arguments.map Accounts.utf8) with
    | .error stop => pure (Accounts.Report.ofStop stop)
    | .ok request => Accounts.Program.reportOf (← Accounts.Program.environment) request
  for notice in report.notices do
    IO.eprintln notice.text
  for line in report.output do
    IO.println line
  return UInt32.ofNat report.exit
