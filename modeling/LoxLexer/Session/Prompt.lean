import LoxLexer.Session.Basic

/-! # The prompt

A prompt greets, then asks for lines and runs each as a text of its own, until its input ends or
a line says to quit. Errors of one line do not count against the next.
-/

set_option autoImplicit false

namespace LoxLexer

namespace Session

def greeting : String := "Welcome to lox-scan\nEnter command or 'quit' to exit\n"

def promptMark : String := "> "

def quitCommand : String := "quit"

/-- Show that a line is awaited. -/
def ask (s : Session) : Outcome := (s.print promptMark).andThen flush

def isLineEnd (c : Char) : Bool := c == '\r' || c == '\n'

/-- A line without the characters that end it, however many there are. -/
def stripLineEnd (line : String) : String :=
  String.ofList (line.toList.reverse.dropWhile isLineEnd).reverse

/-- What a prompt does with a line. -/
structure Turn where
  outcome : Outcome
  quit : Bool := false

def answer (s : Session) (line : List UInt8) : Turn :=
  match Input.text? line with
  | none => { outcome := ⟨s, some .notText⟩ }
  | some text =>
    let command := stripLineEnd text
    if command = quitCommand then { outcome := ⟨s.log .quitRequested, none⟩, quit := true }
    else { outcome := s.reset.run command }

/-- Ask for each line and answer it. `ending` is what the input fails with behind the lines. -/
def promptLines (ending : Option Failure) : List (List UInt8) → Session → Outcome
  | [], s => s.ask.andThen (fun s => ⟨s, ending⟩)
  | line :: more, s => s.ask.andThen (fun s =>
      let turn := s.answer line
      if turn.quit then turn.outcome
      else turn.outcome.andThen (promptLines ending more))

/-- Greet, then read and run lines until the input ends or says to quit. -/
def runPrompt (s : Session) (input : Input) : Outcome :=
  (s.print greeting).andThen (promptLines input.fault input.lines)

end Session

end LoxLexer
