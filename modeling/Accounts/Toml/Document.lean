import Accounts.Toml.Table
import Accounts.Toml.Token

/-!
Reading a whole TOML document: the tokens are taken in one by one, and arrays
and tables in braces that are still open wait on a stack. The text is refused as
soon as a token cannot follow.
-/

namespace Accounts.Toml

/-- Where a value goes. The inner arrays and tables hold what came before it. -/
inductive Pending where
  | statement (path : List String) (key : String)
  | item (earlier : List Value) (outer : Pending)
  | member (entries : Table) (path : List String) (key : String) (outer : Pending)
  deriving Repr

def Pending.depth : Pending → Nat
  | .statement .. => 0
  | .item _ outer => outer.depth + 1
  | .member _ _ _ outer => outer.depth + 1

inductive KeyUse where
  | header
  | doubleHeader
  | statement
  | member (entries : Table) (outer : Pending)
  deriving Repr

inductive Phase where
  | lineStart
  /-- Nothing more than a comment can stand on the line. -/
  | lineEnd
  | bracket
  | name (use : KeyUse) (path : List String)
  | named (use : KeyUse) (path : List String) (key : String)
  /-- A line has ended behind a name in braces: its equals sign has to come. -/
  | equals (entries : Table) (path : List String) (key : String) (outer : Pending)
  /-- Right behind the first closing bracket of a double header. -/
  | doubleEnd (path : List String) (key : String)
  | value (pending : Pending)
  | plain (text : List Char) (pending : Pending)
  | itemStart (earlier : List Value) (outer : Pending)
  | itemEnd (earlier : List Value) (outer : Pending)
  | memberStart (entries : Table) (outer : Pending)
  | memberEnd (entries : Table) (outer : Pending)
  deriving Repr

structure Reading where
  root : Table
  /-- The header that the line is under. -/
  current : List String
  phase : Phase
  deriving Repr

def maxDepth : Nat := 80

def maxNames : Nat := 80

def isKeyChar (char : Char) : Bool := char.isAlphanum || char == '_' || char == '-'

/-- The name that a token gives. Blocks are no names. -/
def Token.name? : Token → Option String
  | .word text => if text.all isKeyChar then some (String.ofList text) else none
  | .quoted quote text => if quote.isBlock then none else some (String.ofList text)
  | _ => none

/-- The characters of a token that can be part of a value without quotes. -/
def Token.plain? : Token → Option (List Char)
  | .word text => some text
  | .blank text => some text
  | .dot => some ['.']
  | _ => none

def trimGap (text : List Char) : List Char := (text.reverse.dropWhile isGap).reverse

namespace Reading

def start : Reading := ⟨[], [], .lineStart⟩

def goTo (reading : Reading) (phase : Phase) : Option Reading := some { reading with phase }

def complete (reading : Reading) (value : Value) : Pending → Option Reading
  | .statement path key =>
      (Table.atHeader (Table.defineAt path key value) reading.current reading.root).bind fun root =>
        { reading with root }.goTo .lineEnd
  | .item earlier outer => reading.goTo (.itemEnd (earlier ++ [value]) outer)
  | .member entries path key outer =>
      (Table.defineAt path key value entries).bind fun entries =>
        reading.goTo (.memberEnd entries outer)

/-- The line of a header has put its table in place. -/
def underHeader (root : Option Table) (path : List String) (key : String) : Option Reading :=
  root.map fun root => ⟨root, path ++ [key], .lineEnd⟩

def beginValue (reading : Reading) (pending : Pending) : Token → Option Reading
  | .word text => reading.goTo (.plain text pending)
  | .quoted _ text => reading.complete (.scalar (.text (String.ofList text))) pending
  | .openBracket =>
      if pending.depth < maxDepth then reading.goTo (.itemStart [] pending) else none
  | .openBrace =>
      if pending.depth < maxDepth then reading.goTo (.memberStart [] pending) else none
  | _ => none

def beginName (reading : Reading) (use : KeyUse) (path : List String) (token : Token) :
    Option Reading :=
  token.name?.bind fun key => reading.goTo (.named use path key)

/-- Line breaks and comments count as space inside brackets and braces. -/
def isSpace : Token → Bool
  | .blank _ | .newline | .comment => true
  | _ => false

/-- What follows a name in braces: once its line has ended, no dot can come. -/
def stepEquals (reading : Reading) (entries : Table) (path : List String) (key : String)
    (outer : Pending) (token : Token) : Option Reading :=
  if isSpace token then reading.goTo (.equals entries path key outer)
  else if token = .equals then reading.goTo (.value (.member entries path key outer))
  else none

/-- What follows a name and is no dot. -/
def endName (reading : Reading) (use : KeyUse) (path : List String) (key : String)
    (token : Token) : Option Reading :=
  match use, token with
  | .header, .closeBracket => underHeader (reading.root.openTable path key) path key
  | .doubleHeader, .closeBracket => reading.goTo (.doubleEnd path key)
  | .statement, .equals => reading.goTo (.value (.statement path key))
  | .member entries outer, token => reading.stepEquals entries path key outer token
  | _, _ => none

def stepLineStart (reading : Reading) : Token → Option Reading
  | .blank _ => some reading
  | .newline => some reading
  | .comment => reading.goTo .lineEnd
  | .openBracket => reading.goTo .bracket
  | token => reading.beginName .statement [] token

def stepLineEnd (reading : Reading) : Token → Option Reading
  | .blank _ => some reading
  | .comment => some reading
  | .newline => reading.goTo .lineStart
  | _ => none

def stepBracket (reading : Reading) : Token → Option Reading
  | .openBracket => reading.goTo (.name .doubleHeader [])
  | .blank _ => reading.goTo (.name .header [])
  | token => reading.beginName .header [] token

def stepName (reading : Reading) (use : KeyUse) (path : List String) : Token → Option Reading
  | .blank _ => some reading
  | token => reading.beginName use path token

def stepNamed (reading : Reading) (use : KeyUse) (path : List String) (key : String) :
    Token → Option Reading
  | .blank _ => some reading
  | .dot =>
      if path.length + 1 < maxNames then reading.goTo (.name use (path ++ [key])) else none
  | token => reading.endName use path key token

def stepDoubleEnd (reading : Reading) (path : List String) (key : String) :
    Token → Option Reading
  | .closeBracket => underHeader (reading.root.openNext path key) path key
  | _ => none

/-- What can stand between an equals sign and its value. -/
def isSpaceBefore : Pending → Token → Bool
  | .member .., token => isSpace token
  | _, .blank _ => true
  | _, _ => false

def stepValue (reading : Reading) (pending : Pending) (token : Token) : Option Reading :=
  if isSpaceBefore pending token then some reading else reading.beginValue pending token

def stepItemStart (reading : Reading) (earlier : List Value) (outer : Pending) (token : Token) :
    Option Reading :=
  if isSpace token then some reading
  else if token = .closeBracket then reading.complete (.array earlier) outer
  else reading.beginValue (.item earlier outer) token

def stepItemEnd (reading : Reading) (earlier : List Value) (outer : Pending) (token : Token) :
    Option Reading :=
  if isSpace token then some reading
  else if token = .closeBracket then reading.complete (.array earlier) outer
  else if token = .comma then reading.goTo (.itemStart earlier outer)
  else none

def stepMemberStart (reading : Reading) (entries : Table) (outer : Pending) (token : Token) :
    Option Reading :=
  if isSpace token then some reading
  else if token = .closeBrace then reading.complete (.table .inline entries) outer
  else reading.beginName (.member entries outer) [] token

def stepMemberEnd (reading : Reading) (entries : Table) (outer : Pending) (token : Token) :
    Option Reading :=
  if isSpace token then some reading
  else if token = .closeBrace then reading.complete (.table .inline entries) outer
  else if token = .comma then reading.goTo (.memberStart entries outer)
  else none

def stepAfterValue (reading : Reading) (token : Token) : Option Reading :=
  match reading.phase with
  | .lineEnd => reading.stepLineEnd token
  | .itemEnd earlier outer => reading.stepItemEnd earlier outer token
  | .memberEnd entries outer => reading.stepMemberEnd entries outer token
  | _ => none

/-- A token that does not belong to a value without quotes ends it. -/
def stepPlain (reading : Reading) (text : List Char) (pending : Pending) (token : Token) :
    Option Reading :=
  match token.plain? with
  | some more => reading.goTo (.plain (text ++ more) pending)
  | none => do
      let scalar ← plainScalar? (trimGap text)
      let reading ← reading.complete (.scalar scalar) pending
      reading.stepAfterValue token

def step (reading : Reading) (token : Token) : Option Reading :=
  match reading.phase with
  | .lineStart => reading.stepLineStart token
  | .lineEnd => reading.stepLineEnd token
  | .bracket => reading.stepBracket token
  | .name use path => reading.stepName use path token
  | .named use path key => reading.stepNamed use path key token
  | .equals entries path key outer => reading.stepEquals entries path key outer token
  | .doubleEnd path key => reading.stepDoubleEnd path key token
  | .value pending => reading.stepValue pending token
  | .plain text pending => reading.stepPlain text pending token
  | .itemStart earlier outer => reading.stepItemStart earlier outer token
  | .itemEnd earlier outer => reading.stepItemEnd earlier outer token
  | .memberStart entries outer => reading.stepMemberStart entries outer token
  | .memberEnd entries outer => reading.stepMemberEnd entries outer token

end Reading

/-- A mark in front of the text that says nothing. -/
def withoutOrderMark : List Char → List Char
  | '\uFEFF' :: chars => chars
  | chars => chars

/-- The table of a document, if its text is well formed. The last line need not have an end. -/
def document? (text : String) : Option Table := do
  let tokens ← tokens? (withoutOrderMark text.toList)
  let reading ← (tokens ++ [Token.newline]).foldlM Reading.step Reading.start
  match reading.phase with
  | .lineStart => some reading.root
  | _ => none

end Accounts.Toml
