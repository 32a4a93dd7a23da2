import LoxLexer.Log.Event
import LoxLexer.Text.Classes

/-! # Directives

A directive sets the level for the targets that start with its own, or for those of their events
that have a certain field. It is written `target[span{field}]=level`, and every part may be left
out: without a target it is about all of them, without a level about all levels.

* `Directive.covers`: whether an event is one that a directive is about.
* `Directive.parse?`: the directive that a text stands for.
-/

set_option autoImplicit false

namespace LoxLexer

namespace Log

/-- Show events of the targets that start with `target`, up to `level`, or none at all. -/
structure Directive where
  target : List Char := []
  /-- A field that an event must have. -/
  field : Option String := none
  /-- Whether the directive is about what happens within certain spans. No event does. -/
  inSpan : Bool := false
  level : Option Level := some .trace
deriving DecidableEq

def Directive.covers (d : Directive) (e : Event) : Bool :=
  !d.inSpan && d.target.isPrefixOf e.target.toList && d.field.all (e.fieldNames.contains ·)

/-! ## Levels -/

/-- A level by its rank, which is 0 for no level. -/
def Level.ofRank? : Nat → Option (Option Level)
  | 0 => some none
  | 1 => some (some error)
  | 2 => some (some warn)
  | 3 => some (some info)
  | 4 => some (some debug)
  | 5 => some (some trace)
  | _ => none

def Level.ofName? (name : List Char) : Option (Option Level) :=
  match name with
  | ['o', 'f', 'f'] => some none
  | ['e', 'r', 'r', 'o', 'r'] => some (some error)
  | ['w', 'a', 'r', 'n'] => some (some warn)
  | ['i', 'n', 'f', 'o'] => some (some info)
  | ['d', 'e', 'b', 'u', 'g'] => some (some debug)
  | ['t', 'r', 'a', 'c', 'e'] => some (some trace)
  | _ => none

/-- A decimal number, which may have leading zeros. -/
def number? (digits : List Char) : Option Nat :=
  if digits = [] then none
  else digits.foldlM (fun n c => if c.isDigit then some (10 * n + (c.toNat - 48)) else none) 0

/-- A level by name, in any case, or by number, with or without a plus. -/
def Level.parse? (text : List Char) : Option (Option Level) :=
  let digits := match text with
    | '+' :: more => more
    | _ => text
  match number? digits with
  | some rank => ofRank? rank
  | none => ofName? (text.map Char.toLower)

/-! ## Reading -/

namespace Directive

def startsTarget (c : Char) : Bool := Text.isAlphanumeric c || c == '-' || c == ':' || c == '_'

def endsTarget (c : Char) : Bool := c == '=' || c == '['

def endsSpan (c : Char) : Bool := c == ']' || c == '\x7b'

/-- Read what stands in brackets, the name of a span or a field, and leave what is behind them. A
value for the field can only be met by a span. -/
def withBrackets? (d : Directive) (text : List Char) : Option (Directive × List Char) :=
  let span := text.takeWhile (!endsSpan ·)
  match text.dropWhile (!endsSpan ·) with
  | '\x7b' :: more =>
    let field := more.takeWhile (· != '\x7d')
    match more.dropWhile (· != '\x7d') with
    | '\x7d' :: ']' :: rest =>
      if field = [] then none
      else some ({ d with
        field := some (String.ofList field), inSpan := span != [] || field.contains '=' }, rest)
    | _ => none
  | ']' :: rest => some ({ d with inSpan := true }, rest)
  | _ => none

/-- Read a level, which may be empty or missing. -/
def withLevel? (d : Directive) (text : List Char) : Option Directive :=
  match text with
  | '=' :: [] => some d
  | '=' :: level => (Level.parse? level).map (fun l => { d with level := l })
  | _ => if text.all Text.isBlank then some d else none

/-- The directive that a text stands for. A text without brackets and without an equals sign is a
level if it can be read as one, and else a target. Blanks before it belong to the target, and then
no level can be given. -/
def parse? (text : List Char) : Option Directive :=
  let body := text.dropWhile Text.isBlank
  let target := text.takeWhile (!endsTarget ·)
  if body.head?.any (fun c => c == '[' || startsTarget c) then
    match text.dropWhile (!endsTarget ·) with
    | [] =>
      match Level.parse? text with
      | some level => some { level }
      | none => some { target }
    | '[' :: more =>
      match withBrackets? { target } more with
      | some (d, rest) =>
        if body.length < text.length ∧ rest.contains '=' then none else d.withLevel? rest
      | none => none
    | rest => if body.length < text.length then none else withLevel? { target } rest
  else none

end Directive

end Log

end LoxLexer
