import LoxLexer.CommandLine.Arguments
import LoxLexer.Log.Filter
import LoxLexer.Log.Line
import LoxLexer.Session.Prompt

/-! # The program

What a process does with its arguments, its files and its input: the code it exits with and what
it writes to its two output streams. Log lines share the error stream with the reports, in the
order of the session's journal.

* `Program.run`: a whole process.
-/

set_option autoImplicit false

namespace LoxLexer

/-! ## Logging -/

/-- The level that the flags ask for. -/
def Options.level (o : Options) : Log.Level :=
  if o.quiet then .error
  else match o.verbosity with
    | 0 => .warn
    | 1 => .debug
    | _ => .trace

/-- A setting of the environment that holds a filter decides before the flags do. -/
def Options.filter (o : Options) (setting : Option String) : Log.Filter :=
  (setting.bind Log.Filter.parse?).getD (.ofLevel (some o.level))

namespace Journal.Entry

/-- Whether an entry is an event that a filter shows. -/
def isShown (filter : Log.Filter) : Journal.Entry → Bool
  | logged event => filter.shows event
  | reported _ | printed _ => false

/-- What an entry puts on the error stream. -/
def errorText (filter : Log.Filter) : Journal.Entry → String
  | logged event => if filter.shows event then event.line else ""
  | reported text => text
  | printed _ => ""

/-- What an entry puts on the output stream. -/
def outputText : Journal.Entry → String
  | printed text => text
  | logged _ | reported _ => ""

end Journal.Entry

namespace Journal

def errorText (filter : Log.Filter) (entries : List Entry) : String :=
  String.join (entries.map (Entry.errorText filter))

def outputText (entries : List Entry) : String := String.join (entries.map Entry.outputText)

end Journal

/-! ## Processes -/

/-- What a process is given. A full output stream refuses every byte. -/
structure Invocation where
  arguments : List String
  read : String → Except Failure ByteArray
  stdin : ByteArray := .empty
  logSetting : Option String := none
  stdoutFull : Bool := false
  stderrFull : Bool := false

/-- What a process leaves. -/
structure Completion where
  code : Nat
  stdout : ByteArray := .empty
  stderr : String := ""

namespace Program

def helpText : String :=
  "Prints the tokens of a Lox script\n" ++
  "\n" ++
  "Usage: lox-scan [OPTIONS] [SCRIPT]\n" ++
  "\n" ++
  "Arguments:\n" ++
  "  [SCRIPT]  Script to scan. Starts an interactive prompt when omitted\n" ++
  "\n" ++
  "Options:\n" ++
  "  -v, --verbose...  Log more (-v for debug, -vv for trace). RUST_LOG takes precedence\n" ++
  "  -q, --quiet       Only log errors\n" ++
  "  -h, --help        Print help\n"

def usageText (e : UsageError) : String := "error: " ++ e.message ++ "\n"

def streamSettings (full : Bool) : Writer.Settings :=
  if full then { room := some 0, fault := .noSpace } else {}

/-- The code of a process that could not log an event: it stops at once. -/
def lostLogCode : Nat := 101

/-- Run the script, or the prompt if there is none. -/
def runSession (inv : Invocation) (options : Options) : Session.FileOutcome :=
  let s : Session := {
    out := { settings := streamSettings inv.stdoutFull }
    reporter := { writer := { settings := streamSettings inv.stderrFull } } }
  match options.script with
  | some path => s.runFile inv.read path
  | none =>
    let o := s.runPrompt { bytes := inv.stdin }
    ⟨o.session, match o.failure with
      | none => .ok .success
      | some cause => .error (.stream cause)⟩

def exitStatus (result : Except RunError ExitStatus) : ExitStatus :=
  match result with
  | .ok status => status
  | .error e => e.status

/-- The last line on the error stream, for a run that failed. -/
def failureText (result : Except RunError ExitStatus) : String :=
  match result with
  | .ok _ => ""
  | .error e => e.message ++ "\n"

/-- Run a session and lay out its journal. If the error stream is full, the first event to be
shown there stops the process, and only what was printed before is on the output stream. -/
def complete (inv : Invocation) (options : Options) : Completion :=
  let filter := options.filter inv.logSetting
  let o := runSession inv options
  let entries := o.session.journal.toList
  if inv.stderrFull && entries.any (·.isShown filter) then
    let before := entries.takeWhile (fun e => !e.isShown filter)
    { code := lostLogCode
      stdout := if inv.stdoutFull then .empty else (Journal.outputText before).toUTF8 }
  else
    { code := (exitStatus o.result).code
      stdout := o.session.out.accepted
      stderr := if inv.stderrFull then ""
        else Journal.errorText filter entries ++ failureText o.result }

/-- What a process leaves. -/
def run (inv : Invocation) : Completion :=
  match Request.parse inv.arguments with
  | .error e =>
    { code := ExitStatus.usage.code, stderr := if inv.stderrFull then "" else usageText e }
  | .ok .help =>
    { code := ExitStatus.success.code
      stdout := if inv.stdoutFull then .empty else helpText.toUTF8 }
  | .ok (.run options) => complete inv options

end Program

end LoxLexer
