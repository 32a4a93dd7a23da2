import LoxLexer.Stream.Failure

/-! # Lexical errors

What can be wrong with a text, and on which line. No lexical error ends a scan.
-/

set_option autoImplicit false

namespace LoxLexer

namespace LexError

inductive Cause where
  /-- A character that starts no token. -/
  | unexpectedCharacter (c : Char)
  /-- A string that is never closed. -/
  | unterminatedString
  /-- A number too large to be represented, by its digits. -/
  | numberOutOfRange (text : String)
deriving DecidableEq

def Cause.message : Cause → String
  | unexpectedCharacter c => "Unexpected character '" ++ c.toString ++ "'"
  | unterminatedString => "Unterminated string"
  | numberOutOfRange text => "Failed parsing numeric value '" ++ text ++ "'"

end LexError

structure LexError where
  cause : LexError.Cause
  line : Nat
deriving DecidableEq

/-- A problem on a line, as it is shown to the user. -/
def reportText (line : Nat) (message : String) : String :=
  "[line " ++ line.repr ++ "] Error: " ++ message

namespace LexError

def message (e : LexError) : String := e.cause.message

def render (e : LexError) : String := reportText e.line e.message

/-- A lexical error as a failure to read a stream. -/
def toFailure (e : LexError) : Failure := ⟨.invalidData, e.render⟩

end LexError

end LoxLexer
