import LoxLexer.ExitStatus
import LoxLexer.Reporter
import LoxLexer.Stream.Input

/-! # Sessions

A session runs texts. It reports the lexical errors of a text, and if none of these reports
failed it prints the tokens, one to a line. Beside the two streams it keeps a journal of what it
logged, reported and printed, in that order, so that streams which share a screen can be laid out
as they were written.

* `Session.run`: one text.
* `Session.runFile`: the text in a file.
-/

set_option autoImplicit false

namespace LoxLexer

namespace Journal

inductive Entry where
  | logged (event : Log.Event)
  | reported (text : String)
  | printed (text : String)
deriving DecidableEq

end Journal

abbrev Journal := Array Journal.Entry

structure Session where
  out : Writer := {}
  reporter : Reporter := {}
  journal : Journal := #[]

namespace Session

/-- The session after an action, and the failure that ended the action early. -/
structure Outcome where
  session : Session
  failure : Option Failure

/-- Go on unless there was a failure. -/
@[inline] def Outcome.andThen (o : Outcome) (next : Session → Outcome) : Outcome :=
  match o.failure with
  | none => next o.session
  | some _ => o

def hadError (s : Session) : Bool := s.reporter.hadError

def configureOut (s : Session) (settings : Writer.Settings) : Session :=
  { s with out := s.out.configure settings }

def configureErr (s : Session) (settings : Writer.Settings) : Session :=
  { s with reporter := s.reporter.configure settings }

/-! ## Parts of a run -/

def log (s : Session) (event : Log.Event) : Session :=
  { s with journal := s.journal.push (.logged event) }

def report (s : Session) (e : LexError) : Session :=
  { s with
    reporter := s.reporter.report e.line e.message
    journal := s.journal.push (.reported (Reporter.line e.line e.message)) }

def print (s : Session) (text : String) : Outcome :=
  let bytes := text.toUTF8
  let failure := s.out.writeFailure? bytes
  let session := { s with
    out := s.out.write bytes
    journal := s.journal.push (.printed text) }
  ⟨session, failure⟩

def flush (s : Session) : Outcome := ⟨s, s.out.flushFailure?⟩

def reset (s : Session) : Session := { s with reporter := s.reporter.reset }

/-! ## Runs -/

/-- The lines that show some tokens. -/
def tokenLines (tokens : List Token) : String :=
  String.join (tokens.map (fun t => t.render ++ "\n"))

/-- Log what a scan finds, then report all errors. -/
def announce (s : Session) (steps : List Scanner.Step) : Session :=
  let s := steps.foldl (fun s step => s.log step.event) s
  (Scan.ofItems (steps.map Scanner.Step.item)).errors.foldl report s

/-- Scan a text, report its errors and print its tokens. Nothing is printed when a report could
not be written. -/
def run (s : Session) (source : String) : Outcome :=
  let steps := (Scanner.ofString source).steps
  let s := s.announce steps
  match s.reporter.failure with
  | some failure => ⟨{ s with reporter := s.reporter.clearFailure }, some failure⟩
  | none =>
    (s.print (tokenLines (Scan.ofItems (steps.map Scanner.Step.item)).tokens)).andThen flush

/-! ## Files -/

/-- The session after a script was run, and how that went. -/
structure FileOutcome where
  session : Session
  result : Except RunError ExitStatus

/-- The text of a file, given its bytes. -/
def fileText (content : Except Failure ByteArray) : Except Failure String :=
  match content with
  | .error failure => .error failure
  | .ok bytes =>
    match String.fromUTF8? bytes with
    | some text => .ok text
    | none => .error .notText

/-- Run the script at a path, `read` being the files there are. The status counts every error
since the last reset, also those of earlier texts. -/
def runFile (s : Session) (read : String → Except Failure ByteArray) (path : String) :
    FileOutcome :=
  let s := s.log (.scanningFile path)
  match fileText (read path) with
  | .error cause => ⟨s, .error (.unreadable path cause)⟩
  | .ok source =>
    let o := s.run source
    match o.failure with
    | some cause => ⟨o.session, .error (.stream cause)⟩
    | none => ⟨o.session, .ok (if o.session.hadError then .dataError else .success)⟩

end Session

end LoxLexer
