import LoxLexer.Stream.Failure

/-! # How a run ends

The status that a process exits with, and what can keep a script from being run.
-/

set_option autoImplicit false

namespace LoxLexer

inductive ExitStatus where
  | success
  /-- The command line was wrong. -/
  | usage
  /-- The script has lexical errors. -/
  | dataError
  /-- The script could not be read. -/
  | noInput
  /-- Reading the prompt or writing failed. -/
  | streamError
deriving DecidableEq

def ExitStatus.code : ExitStatus → Nat
  | success => 0
  | usage => 64
  | dataError => 65
  | noInput => 66
  | streamError => 74

inductive RunError where
  | unreadable (path : String) (cause : Failure)
  | stream (cause : Failure)
deriving DecidableEq

namespace RunError

def cause : RunError → Failure
  | unreadable _ cause => cause
  | stream cause => cause

def kind (e : RunError) : Failure.Kind := e.cause.kind

/-- A script that could not be read is named. -/
def message : RunError → String
  | unreadable path cause => path ++ ": " ++ cause.message
  | stream cause => cause.message

def status : RunError → ExitStatus
  | unreadable _ _ => .noInput
  | stream _ => .streamError

def toFailure (e : RunError) : Failure := ⟨e.kind, e.message⟩

end RunError

end LoxLexer
