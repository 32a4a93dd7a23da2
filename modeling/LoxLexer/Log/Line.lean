import LoxLexer.Log.Event
import LoxLexer.Text.Quoted

/-! # Log lines

How an event is written: its level, its target, what happened, and its fields.
-/

set_option autoImplicit false

namespace LoxLexer

namespace Log

/-- The name of a level, set to five characters. -/
def Level.label : Level → String
  | error => "ERROR"
  | warn => " WARN"
  | info => " INFO"
  | debug => "DEBUG"
  | trace => "TRACE"

/-- A character of a message. Those that steer a terminal are written by their numbers. -/
def messageChar (c : Char) : List Char :=
  match c with
  | '\x07' => ['\\', 'x', '0', '7']
  | '\x08' => ['\\', 'x', '0', '8']
  | '\x0c' => ['\\', 'x', '0', 'c']
  | '\x1b' => ['\\', 'x', '1', 'b']
  | '\x7f' => ['\\', 'x', '7', 'f']
  | _ => if 0x80 ≤ c.toNat ∧ c.toNat ≤ 0x9f then Text.byNumber c else [c]

def messageText (message : String) : String :=
  String.ofList (message.toList.flatMap messageChar)

/-- A field with a number. -/
def countField (name : String) (value : Nat) : String := " " ++ name ++ "=" ++ value.repr

namespace Event

/-- What happened, and the fields of the event. -/
def text : Event → String
  | scanningFile path => "scanning file path=" ++ path
  | accepted t =>
    "kind=" ++ Text.quoted t.kind.name ++ " lexeme=" ++ Text.quoted t.lexeme ++
      countField "line" t.line
  | rejected e => messageText e.message ++ countField "line" e.line
  | finished tokens errors line =>
    "finished scanning" ++ countField "tokens" tokens ++ countField "errors" errors ++
      countField "line" line
  | quitRequested => "quit requested"

def line (e : Event) : String := e.level.label ++ " " ++ e.target ++ ": " ++ e.text ++ "\n"

end Event

end Log

end LoxLexer
