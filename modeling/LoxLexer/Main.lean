import LoxLexer.CommandLine.Program

/-! # The command

The process itself: it fetches what a session asks for and writes down what its journal holds.
-/

set_option autoImplicit false

namespace LoxLexer

namespace Command

/-- The number of a system error, which some calls give negated. -/
def systemNumber (code : UInt32) : Nat :=
  if 0x80000000 ≤ code.toNat then 0x100000000 - code.toNat else code.toNat

/-- A failure reported by the system. -/
def failureOf (e : IO.Error) : Failure :=
  match e with
  | .noFileOrDirectory .. => .noSuchFile
  | .inappropriateType _ code details =>
    match systemNumber code with
    | 20 => .fileAsDirectory
    | 21 => .directoryAsFile
    | n => ⟨.other, shown n details⟩
  | .invalidArgument _ code details =>
    match systemNumber code with
    | 36 => .nameTooLong
    | n => ⟨.invalidInput, shown n details⟩
  | .permissionDenied _ code details => ⟨.permissionDenied, shown (systemNumber code) details⟩
  | .resourceVanished code details => ⟨.brokenPipe, shown (systemNumber code) details⟩
  | .resourceExhausted _ code details => ⟨.storageFull, shown (systemNumber code) details⟩
  | e => ⟨.other, e.toString⟩
where
  shown (number : Nat) (details : String) : String :=
    details ++ " (os error " ++ number.repr ++ ")"

def readFile (path : String) : IO (Except Failure ByteArray) := do
  try
    return .ok (← IO.FS.readBinFile path)
  catch e =>
    return .error (failureOf e)

/-- Write down the journal, which is then empty. -/
def emit (filter : Log.Filter) (s : Session) : IO Session := do
  let out ← IO.getStdout
  let err ← IO.getStderr
  for entry in s.journal do
    err.putStr (entry.errorText filter)
    out.putStr entry.outputText
  out.flush
  return { s with journal := #[] }

partial def readLine (input : IO.FS.Stream) (line : ByteArray) : IO ByteArray := do
  let next ← input.read 1
  if next.isEmpty then return line
  let line := line ++ next
  if next.data.toList = [Input.newline] then return line
  readLine input line

/-- Ask for lines and answer them until there are no more or one says to quit. -/
partial def converse (filter : Log.Filter) (s : Session) : IO (Option Failure) := do
  let s ← emit filter s.ask.session
  let line ← readLine (← IO.getStdin) .empty
  if line.isEmpty then return none
  let turn := s.answer line.data.toList
  let s ← emit filter turn.outcome.session
  if turn.quit || turn.outcome.failure.isSome then return turn.outcome.failure
  converse filter s

def runOptions (options : Options) : IO (Except RunError ExitStatus) := do
  let filter := options.filter (← IO.getEnv "RUST_LOG")
  match options.script with
  | some path =>
    let content ← readFile path
    let o := ({} : Session).runFile (fun _ => content) path
    let _ ← emit filter o.session
    return o.result
  | none =>
    match ← converse filter (({} : Session).print Session.greeting).session with
    | some cause => return .error (.stream cause)
    | none => return .ok .success

end Command

end LoxLexer

open LoxLexer in
def main (arguments : List String) : IO UInt32 := do
  match Request.parse arguments with
  | .error e =>
    (← IO.getStderr).putStr (Program.usageText e)
    return UInt32.ofNat ExitStatus.usage.code
  | .ok .help =>
    (← IO.getStdout).putStr Program.helpText
    return UInt32.ofNat ExitStatus.success.code
  | .ok (.run options) =>
    let result ← try Command.runOptions options
      catch e => pure (.error (.stream (Command.failureOf e)))
    (← IO.getStderr).putStr (Program.failureText result)
    return UInt32.ofNat (Program.exitStatus result).code
