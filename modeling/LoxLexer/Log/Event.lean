import LoxLexer.LexError
import LoxLexer.Token.Basic

/-! # Log events

What a scanner and a session tell a log. Each event has a level, which says how much it matters,
and a target, which says who sends it.
-/

set_option autoImplicit false

namespace LoxLexer

namespace Log

inductive Level where
  | error | warn | info | debug | trace
deriving DecidableEq

/-- How verbose a log must be to show events of a level. -/
def Level.rank : Level → Nat
  | error => 1
  | warn => 2
  | info => 3
  | debug => 4
  | trace => 5

inductive Event where
  /-- A script is about to be read. -/
  | scanningFile (path : String)
  /-- A token other than the last one was found. -/
  | accepted (token : Token)
  /-- A lexical error was found. -/
  | rejected (error : LexError)
  /-- A text came to its end, on this line, after so many tokens and errors. -/
  | finished (tokens errors line : Nat)
  /-- The user asked the prompt to stop. -/
  | quitRequested
deriving DecidableEq

namespace Event

def level : Event → Level
  | scanningFile _ => .info
  | accepted _ => .trace
  | rejected _ => .debug
  | finished _ _ _ => .debug
  | quitRequested => .debug

def target : Event → String
  | scanningFile _ | quitRequested => "lox_scan::lox"
  | accepted _ | rejected _ | finished _ _ _ => "lox_scan::scanner"

/-- The names of what an event carries. What it says in words is its message. -/
def fieldNames : Event → List String
  | scanningFile _ => ["message", "path"]
  | accepted _ => ["kind", "lexeme", "line"]
  | rejected _ => ["message", "line"]
  | finished _ _ _ => ["message", "tokens", "errors", "line"]
  | quitRequested => ["message"]

end Event

end Log

end LoxLexer
