import Accounts.Event
import Accounts.Pattern
import Accounts.Text.Numeral
import Accounts.Text.Utf8

/-!
Which events are logged. A filter is a list of directives with commas between
them: a level for everything, a target that is logged in full, or a level for a
target. Square brackets behind the target hold a span or, in braces, a value
that an event has to carry. The most exact directive for an event decides.
-/

namespace Accounts

def filterVariable : String := "RUST_LOG"

structure Directive where
  /-- How the targets start that the directive is for. -/
  target : String
  /-- The name of a value without which an event is none of its business. -/
  field : Option String
  /-- The rank of the least important events that pass; at zero none do. -/
  limit : Nat
  deriving DecidableEq, Repr

/-- The rank that every event has at most. -/
def everything : Nat := 5

/-- Letters of either case are the same here. -/
def levelWord? (word : String) : Option Nat :=
  match word.toLower with
  | "off" => some 0
  | "error" => some Level.error.rank
  | "warn" => some Level.warn.rank
  | "info" => some Level.info.rank
  | "debug" => some Level.debug.rank
  | "trace" => some everything
  | _ => none

def levelLimit? (chars : List Char) : Option Nat :=
  match readNumeral (everything + 1) chars with
  | .ok rank => some rank
  | .error _ => levelWord? (String.ofList chars)

structure DirectiveText where
  target : List Char
  span : Option (List Char)
  field : Option (List Char)
  level : Option (List Char)
  deriving DecidableEq, Repr

namespace DirectiveText

def isStart (char : Char) : Bool :=
  isAlphanumeric char || char == '-' || char == ':' || char == '_' || char == '['

def withLevel? (text : DirectiveText) : List Char → Option DirectiveText
  | '=' :: level => some { text with level := some level }
  | rest => if rest.all isBlank then some text else none

/-- What stands in braces behind the name of a span, which may be missing. -/
def withField? (target name : List Char) (chars : List Char) : Option DirectiveText :=
  let (field, rest) := chars.span (· ≠ '\x7d')
  let span := if name = [] then none else some name
  match rest with
  | _ :: ']' :: rest => withLevel? ⟨target, span, some field, none⟩ rest
  | _ => none

def withSpan? (target : List Char) (chars : List Char) : Option DirectiveText :=
  let (name, rest) := chars.span fun char => char != ']' && char != '\x7b'
  match rest with
  | [] => none
  | ']' :: rest => withLevel? ⟨target, some name, none, none⟩ rest
  | _ :: rest => withField? target name rest

def ofChars? (chars : List Char) : Option DirectiveText :=
  if chars.head?.any isStart then
    let (target, rest) := chars.span fun char => char != '=' && char != '['
    match rest with
    | [] => some ⟨target, none, none, none⟩
    | '=' :: level => some ⟨target, none, none, some level⟩
    | _ :: rest => withSpan? target rest
  else none

/-- Without a level everything passes. -/
def limit? (text : DirectiveText) : Option Nat :=
  match text.level with
  | none | some [] => some everything
  | some level => levelLimit? level

/-- Whether a text in braces is a field: a name, or a name and a value that is a number or a
pattern. A second equals sign ends the value. -/
def isField (field : List Char) : Bool :=
  !field.isEmpty &&
    match field.dropWhile (· ≠ '=') with
    | [] => true
    | _ :: value =>
        let value := value.takeWhile (· ≠ '=')
        isNumber value || isPattern value

/-- Directives about spans and about what a value is are about no event here. -/
def isForEvents (text : DirectiveText) : Bool :=
  text.span.isNone && !text.field.any (·.contains '=')

/-- A target alone can be a level. -/
def isBare (text : DirectiveText) : Bool := text.field.isNone && text.level.isNone

def directive? (text : DirectiveText) : Option (Option Directive) :=
  let target := String.ofList text.target
  if text.isForEvents then
    match text.isBare, levelLimit? text.target with
    | true, some limit => some (some ⟨"", none, limit⟩)
    | _, _ => text.limit?.map fun limit => some ⟨target, text.field.map String.ofList, limit⟩
  else text.limit?.map fun _ => none

def fieldStart (text : DirectiveText) : Nat :=
  (utf8 (String.ofList text.target)).length + (utf8 (String.ofList (text.span.getD []))).length + 2

/-- What counts as the field where a text in front of the directive was left out: the place of the
field is kept, but taken in the whole text. -/
def fieldIn? (text : DirectiveText) (whole field : List Char) : Option (List Char) :=
  let behind := (utf8 (String.ofList whole)).drop text.fieldStart
  (ofUtf8? (behind.take (utf8 (String.ofList field)).length)).map String.toList

def hasField (text : DirectiveText) (whole : List Char) : Bool :=
  match text.field with
  | none => true
  | some field => (text.fieldIn? whole field).any isField

end DirectiveText

namespace Directive

/-- A directive behind white space is about no event, and has to do without a level. -/
def ofChars? (chars : List Char) : Option (Option Directive) :=
  (DirectiveText.ofChars? (chars.dropWhile isBlank)).bind fun text =>
    if text.hasField chars then
      if chars.head?.any isBlank then if text.level.isNone then some none else none
      else text.directive?
    else none

def covers (directive : Directive) (event : Event) : Bool :=
  event.target.startsWith directive.target && directive.field.all event.fieldNames.contains

/-- Whether another directive for the same event is at least as exact: it has a longer target, or
else it alone asks for a value, or else the name of that value is not smaller. -/
def yieldsTo (first second : Directive) : Bool :=
  if first.target.length = second.target.length then
    match first.field, second.field with
    | none, _ => true
    | some _, none => false
    | some firstField, some secondField => !decide (secondField < firstField)
  else first.target.length < second.target.length

end Directive

structure Filter where
  directives : List Directive
  deriving DecidableEq, Repr

namespace Filter

def upTo (level : Level) : Filter := ⟨[⟨"", none, level.rank⟩]⟩

/-- The filter of a text, if all its directives are well formed. Without any directive, errors
are logged. -/
def ofText? (text : String) : Option Filter :=
  let pieces := (text.toList.splitOn ',').filter (· ≠ [])
  if pieces = [] then some (upTo .error)
  else (pieces.mapM Directive.ofChars?).map fun directives => ⟨directives.filterMap id⟩

/-- Of two directives the more exact one, or else the later one. -/
def finer (first : Option Directive) (second : Directive) : Option Directive :=
  match first with
  | none => some second
  | some first => if first.yieldsTo second then some second else some first

def directiveFor (filter : Filter) (event : Event) : Option Directive :=
  (filter.directives.filter fun directive => directive.covers event).foldl finer none

def passes (filter : Filter) (event : Event) : Bool :=
  match filter.directiveFor event with
  | none => false
  | some directive => event.level.rank ≤ directive.limit

/-- The filter of the environment goes before the one in the settings; a text that is no filter
counts as missing. -/
def choose (environment : Option String) (configured : String) : Filter :=
  match environment.bind ofText? with
  | some filter => filter
  | none => (ofText? configured).getD (upTo .info)

end Filter

end Accounts
