import LoxLexer.Scanner
import LoxLexer.Stream.Writer

/-! # Reporting errors

A reporter writes one line for each problem and remembers that there was one. A line that cannot
be written does not stop it: the first failure is kept until somebody takes it, and later lines
are still tried.
-/

set_option autoImplicit false

namespace LoxLexer

structure Reporter where
  writer : Writer := {}
  /-- Whether anything was reported since the last reset. -/
  hadError : Bool := false
  /-- The first failure to write since the last one was taken. -/
  failure : Option Failure := none

namespace Reporter

/-- The line written for a problem. -/
def line (line : Nat) (message : String) : String := reportText line message ++ "\n"

def report (r : Reporter) (line : Nat) (message : String) : Reporter :=
  let bytes := (Reporter.line line message).toUTF8
  let failure := r.failure.or (r.writer.writeFailure? bytes)
  { writer := r.writer.write bytes, hadError := true, failure }

def reportAll (r : Reporter) (errors : List LexError) : Reporter :=
  errors.foldl (fun r e => r.report e.line e.message) r

/-- Forget that anything was reported. A failure is still kept. -/
def reset (r : Reporter) : Reporter := { r with hadError := false }

/-- The reporter after its failure was taken. -/
def clearFailure (r : Reporter) : Reporter := { r with failure := none }

def configure (r : Reporter) (settings : Writer.Settings) : Reporter :=
  { r with writer := r.writer.configure settings }

@[simp] theorem hadError_report (r : Reporter) (line : Nat) (message : String) :
    (r.report line message).hadError = true :=
  rfl

end Reporter

end LoxLexer
