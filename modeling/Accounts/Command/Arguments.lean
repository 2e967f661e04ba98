import Accounts.Command

/-!
Reading a command line. Options start with two dashes and can stand before or
after texts; a value is the next argument or follows an equals sign. Behind two
dashes alone, every argument is a text. The first fault ends the reading.
-/

namespace Accounts

namespace Arguments

def dash : Byte := 0x2d

def equalsSign : Byte := 0x3d

inductive Argument where
  | escape
  | long (name : String) (attached : Option Bytes)
  | short (letter : Byte)
  | plain (bytes : Bytes)
  deriving DecidableEq, Repr

def splitOption (bytes : Bytes) : Argument :=
  let (name, rest) := bytes.span fun byte => byte != equalsSign
  .long (lossyUtf8 name) rest.tail?

def Argument.ofBytes (bytes : Bytes) : Argument :=
  match bytes with
  | first :: second :: rest =>
      if first ≠ dash then .plain bytes
      else if second ≠ dash then .short second
      else if rest = [] then .escape
      else splitOption rest
  | _ => .plain bytes

def helpLetter : Byte := 0x68

def versionLetter : Byte := 0x56

inductive ValueKind where
  | path
  | text
  | iterations
  | length
  deriving DecidableEq, Repr

/-- A count of iterations. Zero may have a minus sign. -/
def iterationsOf? (bytes : Bytes) : Option UInt32 :=
  (ofUtf8? bytes).bind fun text =>
    match text.toList with
    | '-' :: digit :: digits =>
        if (digit :: digits).all (· == '0') then some 0 else none
    | chars => (readNumeral UInt32.size chars).toOption.map UInt32.ofNat

def lengthOf? (bytes : Bytes) : Option Nat :=
  (ofUtf8? bytes).bind fun text => (readNumeral UInt64.size text.toList).toOption

def ValueKind.accepts (bytes : Bytes) : ValueKind → Bool
  | .path => !bytes.isEmpty
  | .text => (ofUtf8? bytes).isSome
  | .iterations => (iterationsOf? bytes).isSome
  | .length => (lengthOf? bytes).isSome

def configOption : String × ValueKind := ("config", .path)

inductive CommandName where
  | register
  | login
  | inspect
  | list
  | hash
  | hmac
  | pbkdf2
  deriving DecidableEq, Repr

namespace CommandName

def all : List (String × CommandName) :=
  [("register", .register), ("login", .login), ("inspect", .inspect), ("list", .list),
    ("hash", .hash), ("hmac", .hmac), ("pbkdf2", .pbkdf2)]

def ofText? (text : String) : Option CommandName := all.lookup text

/-- The options of a command besides the one for the configuration. -/
def options : CommandName → List (String × ValueKind)
  | .register | .login => [("password", .text)]
  | .inspect | .list | .hash => []
  | .hmac => [("key", .text)]
  | .pbkdf2 => [("salt", .text), ("iterations", .iterations), ("length", .length)]

def switches : CommandName → List String
  | .login => ["logout"]
  | _ => []

/-- The number of texts that a command takes, all of them needed. -/
def textCount : CommandName → Nat
  | .list => 0
  | _ => 1

end CommandName

structure Given where
  texts : List String
  values : List (String × Bytes)
  switches : List String
  deriving DecidableEq, Repr

namespace Given

def empty : Given := ⟨[], [], []⟩

def addText (given : Given) (name : CommandName) (bytes : Bytes) : Except Stop Given :=
  match ofUtf8? bytes with
  | none => .error .usage
  | some text =>
      if given.texts.length < name.textCount then .ok { given with texts := given.texts ++ [text] }
      else .error .usage

/-- An option can be given once. -/
def addValue (given : Given) (option : String) (kind : ValueKind) (value : Bytes) :
    Except Stop Given :=
  if (given.values.lookup option).isSome || !kind.accepts value then .error .usage
  else .ok { given with values := (option, value) :: given.values }

def addSwitch (given : Given) (switch : String) : Except Stop Given :=
  if given.switches.contains switch then .error .usage
  else .ok { given with switches := switch :: given.switches }

def text? (given : Given) (option : String) : Option String :=
  (given.values.lookup option).bind ofUtf8?

end Given

inductive Meaning where
  | text (bytes : Bytes)
  | texts
  | switch (name : String)
  | value (option : String) (kind : ValueKind) (attached : Option Bytes)
  | stop (stop : Stop)
  deriving DecidableEq, Repr

def meaning (name : CommandName) : Argument → Meaning
  | .plain bytes => .text bytes
  | .escape => .texts
  | .short letter => .stop (if letter = helpLetter then .help else .usage)
  | .long option attached =>
      if option = "help" ∧ attached = none then .stop .help
      else if option ∈ name.switches ∧ attached = none then .switch option
      else
        match (configOption :: name.options).lookup option with
        | some kind => .value option kind attached
        | none => .stop .usage

def readGiven (name : CommandName) (given : Given) : List Bytes → Except Stop Given
  | [] => .ok given
  | argument :: rest =>
      match meaning name (.ofBytes argument) with
      | .stop stop => .error stop
      | .text bytes => do readGiven name (← given.addText name bytes) rest
      | .texts => rest.foldlM (fun given bytes => given.addText name bytes) given
      | .switch switch => do readGiven name (← given.addSwitch switch) rest
      | .value option kind (some value) => do
          readGiven name (← given.addValue option kind value) rest
      | .value option kind none =>
          match rest with
          | [] => .error .usage
          | value :: rest =>
              match Argument.ofBytes value with
              | .plain value => do readGiven name (← given.addValue option kind value) rest
              | _ => .error .usage

/-- The command, if nothing that it needs is missing. -/
def Given.command? (given : Given) : CommandName → Option Command
  | .register => do some (.register (← given.texts.head?) (given.text? "password"))
  | .login => do
      some (.login (← given.texts.head?) (given.text? "password")
        (given.switches.contains "logout"))
  | .inspect => do some (.inspect (← given.texts.head?))
  | .list => some .list
  | .hash => do some (.hash (← given.texts.head?))
  | .hmac => do some (.hmac (← given.text? "key") (← given.texts.head?))
  | .pbkdf2 => do
      let iterations := ((given.values.lookup "iterations").bind iterationsOf?).getD 100000
      let length := ((given.values.lookup "length").bind lengthOf?).getD 32
      some (.pbkdf2 (← given.text? "salt") iterations length (← given.texts.head?))

/-- The configuration named behind the command goes before the one named in front of it. -/
def readCommand (config : Option Bytes) (name : CommandName) (arguments : List Bytes) :
    Except Stop Request := do
  let given ← readGiven name .empty arguments
  match given.command? name with
  | none => .error .usage
  | some command => .ok ⟨(given.values.lookup configOption.1) <|> config, command⟩

def isTopic (bytes : Bytes) : Bool :=
  match ofUtf8? bytes with
  | none => false
  | some text => text == "help" || (CommandName.ofText? text).isSome

/-- Help can be asked for about one command. -/
def readHelp : List Bytes → Stop
  | [] => .help
  | [topic] => if isTopic topic then .help else .usage
  | _ => .usage

def addConfig (config : Option Bytes) (path : Bytes) : Except Stop (Option Bytes) :=
  if config.isSome || !ValueKind.path.accepts path then .error .usage else .ok (some path)

/-- Reads on, with the configuration that was named so far. -/
def readFrom (config : Option Bytes) : List Bytes → Except Stop Request
  | [] => .error .usage
  | argument :: rest =>
      match Argument.ofBytes argument with
      | .escape => .error .usage
      | .short letter =>
          .error (if letter = helpLetter then .help
            else if letter = versionLetter then .version else .usage)
      | .long "help" none => .error .help
      | .long "version" none => .error .version
      | .long "config" (some path) => do readFrom (← addConfig config path) rest
      | .long "config" none =>
          match rest with
          | [] => .error .usage
          | path :: rest =>
              match Argument.ofBytes path with
              | .plain path => do readFrom (← addConfig config path) rest
              | _ => .error .usage
      | .long .. => .error .usage
      | .plain bytes =>
          match ofUtf8? bytes with
          | none => .error .usage
          | some "help" => .error (readHelp rest)
          | some text =>
              match CommandName.ofText? text with
              | none => .error .usage
              | some name => readCommand config name rest

end Arguments

def Request.ofArguments (arguments : List Bytes) : Except Stop Request :=
  Arguments.readFrom none arguments

end Accounts
