import Accounts.Files
import Accounts.Service
import Accounts.Text.Numeral
import Accounts.Toml.Document
import Accounts.Toml.Written

/-!
The settings of a program that keeps accounts: their defaults, the TOML file they
are read from and written to, the environment variables that take precedence, and
what makes them usable.
-/

namespace Accounts

structure Config where
  databasePath : String
  capacity : UInt64
  iterations : UInt32
  sessionEntropy : UInt64
  cookieName : String
  /-- What is logged where the environment does not say. -/
  logLevel : String
  deriving DecidableEq, Repr

def databaseVariable : String := "CREDENTIAL_DB_PATH"

def iterationsVariable : String := "CREDENTIAL_ITERATIONS"

inductive ConfigFault where
  | unreadable (path : String) (fault : Fault)
  | notText (path : String)
  /-- The file is no TOML document, or a key has a value of another type. -/
  | malformed (path : String)
  | badIterations (given : String) (fault : NumeralFault)
  | zero (key : String)
  | blankCookieName
  deriving DecidableEq, Repr

namespace ConfigFault

/-- The fault and, after colons, what caused it. -/
def chain : ConfigFault → List String
  | .unreadable path fault => ["Failed to read config " ++ path, fault.message]
  | .notText path => ["Failed to read config " ++ path, "stream did not contain valid UTF-8"]
  | .malformed path => ["Failed to parse config " ++ path]
  | .badIterations given fault =>
      [iterationsVariable ++ " must be a positive integer, got " ++ quoted given, fault.message]
  | .zero key => [key ++ " must be greater than zero"]
  | .blankCookieName => ["cookie_name cannot be empty"]

def message (fault : ConfigFault) : String := String.intercalate ": " fault.chain

end ConfigFault

inductive ConfigKey where
  | databasePath
  | capacity
  | iterations
  | sessionEntropy
  | cookieName
  | logLevel
  deriving DecidableEq, Repr

namespace ConfigKey

def name : ConfigKey → String
  | .databasePath => "database_path"
  | .capacity => "capacity"
  | .iterations => "iterations"
  | .sessionEntropy => "session_entropy_bytes"
  | .cookieName => "cookie_name"
  | .logLevel => "log_level"

def all : List ConfigKey :=
  [.databasePath, .capacity, .iterations, .sessionEntropy, .cookieName, .logLevel]

end ConfigKey

namespace Config

def default : Config where
  databasePath := "users.dbsp"
  capacity := UInt64.ofNat defaultCapacity
  iterations := defaultIterations
  sessionEntropy := UInt64.ofNat defaultSessionEntropy
  cookieName := defaultCookieName
  logLevel := "info"

/-- The text of a key; a key that is missing keeps the text given for it. -/
def textOf? (table : Toml.Table) (key : ConfigKey) (otherwise : String) : Option String :=
  match table.get? key.name with
  | none => some otherwise
  | some (.scalar (.text content)) => some content
  | some _ => none

/-- The number of a key, which has to be below the limit. -/
def numberOf? (table : Toml.Table) (key : ConfigKey) (limit otherwise : Nat) : Option Nat :=
  match table.get? key.name with
  | none => some otherwise
  | some (.scalar (.integer (.ofNat value))) => if value < limit then some value else none
  | some _ => none

/-- Keys of other names say nothing. -/
def ofTable? (table : Toml.Table) : Option Config := do
  let databasePath ← textOf? table .databasePath default.databasePath
  let capacity ← numberOf? table .capacity UInt64.size default.capacity.toNat
  let iterations ← numberOf? table .iterations UInt32.size default.iterations.toNat
  let sessionEntropy ← numberOf? table .sessionEntropy UInt64.size default.sessionEntropy.toNat
  let cookieName ← textOf? table .cookieName default.cookieName
  let logLevel ← textOf? table .logLevel default.logLevel
  some {
    databasePath
    capacity := UInt64.ofNat capacity
    iterations := UInt32.ofNat iterations
    sessionEntropy := UInt64.ofNat sessionEntropy
    cookieName
    logLevel }

def ofText? (text : String) : Option Config := (Toml.document? text).bind ofTable?

def valueText (config : Config) : ConfigKey → List Char
  | .databasePath => Toml.writtenText config.databasePath.toList
  | .capacity => Nat.toDigits 10 config.capacity.toNat
  | .iterations => Nat.toDigits 10 config.iterations.toNat
  | .sessionEntropy => Nat.toDigits 10 config.sessionEntropy.toNat
  | .cookieName => Toml.writtenText config.cookieName.toList
  | .logLevel => Toml.writtenText config.logLevel.toList

def line (config : Config) (key : ConfigKey) : List Char :=
  key.name.toList ++ [' ', '=', ' '] ++ config.valueText key ++ ['\n']

def textWith (config : Config) (keys : List ConfigKey) : String :=
  String.ofList (keys.flatMap config.line)

def text (config : Config) : String := config.textWith ConfigKey.all

def ofContent (path : String) (content : Except Fault Bytes) : Except ConfigFault Config :=
  match content with
  | .error fault => .error (.unreadable path fault)
  | .ok bytes =>
      match ofUtf8? bytes with
      | none => .error (.notText path)
      | some text =>
          match ofText? text with
          | none => .error (.malformed path)
          | some config => .ok config

def load (files : Files) (path : Bytes) : Except ConfigFault Config :=
  ofContent (lossyUtf8 path) (files.read path)

def loadOrDefault (files : Files) : Option Bytes → Except ConfigFault Config
  | none => .ok default
  | some path => load files path

/-- Blank text names no table. -/
def overridePath (config : Config) (given : Option String) : Config :=
  match given with
  | none => config
  | some path =>
      if (trimBlank path).isEmpty then config else { config with databasePath := trimBlank path }

def overrideIterations (config : Config) (given : Option String) :
    Except ConfigFault Unit × Config :=
  match given with
  | none => (.ok (), config)
  | some text =>
      match readWord32 (trimBlank text) with
      | .ok iterations => (.ok (), { config with iterations })
      | .error fault => (.error (.badIterations text fault), config)

/-- Takes in the variables of the environment. The path is kept even where the iterations fail. -/
def override (config : Config) (path iterations : Option String) :
    Except ConfigFault Unit × Config :=
  (config.overridePath path).overrideIterations iterations

def check (config : Config) : Except ConfigFault Unit :=
  if config.capacity = 0 then .error (.zero ConfigKey.capacity.name)
  else if config.iterations = 0 then .error (.zero ConfigKey.iterations.name)
  else if config.sessionEntropy = 0 then .error (.zero ConfigKey.sessionEntropy.name)
  else if (trimBlank config.cookieName).isEmpty then .error .blankCookieName
  else .ok ()

def settings (config : Config) : Settings :=
  ⟨config.iterations, config.sessionEntropy.toNat, config.cookieName⟩

def diagnostic (config : Config) : String :=
  shownRecord "AuthConfig" [
    (ConfigKey.databasePath.name, quoted config.databasePath),
    (ConfigKey.capacity.name, toString config.capacity),
    (ConfigKey.iterations.name, toString config.iterations),
    (ConfigKey.sessionEntropy.name, toString config.sessionEntropy),
    (ConfigKey.cookieName.name, quoted config.cookieName),
    (ConfigKey.logLevel.name, quoted config.logLevel)]

end Config

end Accounts
