import LoxLexer.Text.ControlSequence

/-! # Arguments

The command line takes one script and the flags `-v`, `-q` and `-h`, which may stand anywhere
before `--`, be written long, and, if short, be joined. It is read from left to right, and the
first thing wrong, or a wish for help, ends the reading. Only what concerns the command line as a
whole, a script without a name and flags that exclude each other, is settled at its end.

* `Request.parse`: what a command line asks for, or what is wrong with it.
-/

set_option autoImplicit false

namespace LoxLexer

inductive Flag where
  | verbose | quiet | help
deriving DecidableEq

namespace Flag

def ofChar? (c : Char) : Option Flag :=
  match c with
  | 'v' => some verbose
  | 'q' => some quiet
  | 'h' => some help
  | _ => none

def ofName? (name : List Char) : Option Flag :=
  match name with
  | ['v', 'e', 'r', 'b', 'o', 's', 'e'] => some verbose
  | ['q', 'u', 'i', 'e', 't'] => some quiet
  | ['h', 'e', 'l', 'p'] => some help
  | _ => none

/-- A flag as messages show it. Dots follow the one that may be repeated. -/
def shown : Flag → String
  | verbose => "--verbose..."
  | quiet => "--quiet"
  | help => "--help"

end Flag

/-! ## What can be wrong -/

inductive UsageError where
  | unexpectedArgument (text : String)
  /-- A flag was given a value. -/
  | unexpectedValue (value : String) (flag : Flag)
  | repeatedFlag (flag : Flag)
  /-- The script has an empty name. -/
  | missingScript
  | conflict (first second : Flag)
deriving DecidableEq

/-- What came from the command line is shown without the commands to a terminal in it. -/
def UsageError.message : UsageError → String
  | unexpectedArgument text => "unexpected argument '" ++ Text.withoutCommands text ++ "' found"
  | unexpectedValue value flag =>
    "unexpected value '" ++ Text.withoutCommands value ++ "' for '" ++ flag.shown ++
      "' found; no more were expected"
  | repeatedFlag flag => "the argument '" ++ flag.shown ++ "' cannot be used multiple times"
  | missingScript => "a value is required for '[SCRIPT]' but none was supplied"
  | conflict first second =>
    "the argument '" ++ first.shown ++ "' cannot be used with '" ++ second.shown ++ "'"

/-! ## What is asked for -/

/-- How to run: the script, or a prompt without one, and how much to log. -/
structure Options where
  script : Option String := none
  verbosity : Nat := 0
  quiet : Bool := false
deriving DecidableEq

inductive Request where
  | help
  | run (options : Options)
deriving DecidableEq

namespace Arguments

/-- The highest count of `-v`; from there on it stays. -/
def verbosityLimit : Nat := 255

/-- The options read so far. -/
structure Seen where
  options : Options := {}
  /-- Whether the verbose flag was given when the quiet flag had been. -/
  quietFirst : Bool := false
deriving DecidableEq

/-- What ends the reading early. -/
inductive Stop where
  | help
  | wrong (e : UsageError)
deriving DecidableEq

abbrev Reading := Except Stop Seen

namespace Seen

/-- A flag. It also ends the wait for the value of a script that was given as an empty text. -/
def flag (s : Seen) (f : Flag) : Reading :=
  if s.options.script = some "" then .error (.wrong .missingScript)
  else match f with
    | .help => .error .help
    | .quiet =>
      if s.options.quiet then .error (.wrong (.repeatedFlag .quiet))
      else .ok { s with options := { s.options with quiet := true } }
    | .verbose => .ok {
        options := { s.options with verbosity := min verbosityLimit (s.options.verbosity + 1) }
        quietFirst := s.quietFirst || s.options.quiet }

def positional (s : Seen) (text : String) : Reading :=
  match s.options.script with
  | none => .ok { s with options := { s.options with script := some text } }
  | some _ => .error (.wrong (.unexpectedArgument text))

/-- A short flag, alone or joined with others. -/
def short (s : Seen) (c : Char) : Reading :=
  match Flag.ofChar? c with
  | some f => s.flag f
  | none => .error (.wrong (.unexpectedArgument (String.ofList ['-', c])))

/-- What follows two dashes: a name, or a name and a value. -/
def long (s : Seen) (body : List Char) : Reading :=
  let name := body.takeWhile (· != '=')
  match Flag.ofName? name, body.dropWhile (· != '=') with
  | none, _ => .error (.wrong (.unexpectedArgument (String.ofList ('-' :: '-' :: name))))
  | some f, [] => s.flag f
  | some f, _ :: value => .error (.wrong (.unexpectedValue (String.ofList value) f))

/-- An argument before `--`. A single dash is a script. -/
def argument (s : Seen) (text : String) : Reading :=
  match text.toList with
  | '-' :: '-' :: body => s.long body
  | '-' :: c :: more => (c :: more).foldlM short s
  | _ => s.positional text

end Seen

/-- Read arguments one by one. All that follows `--` is positional. -/
def read : List String → Seen → Reading
  | [], s => .ok s
  | text :: more, s =>
    if text = "--" then more.foldlM Seen.positional s
    else match s.argument text with
      | .ok s => read more s
      | .error stop => .error stop

/-- Settle what concerns the command line as a whole. A conflict names the flag that was given
last as the second. -/
def settle (s : Seen) : Except UsageError Options :=
  if s.options.script = some "" then .error .missingScript
  else if s.options.quiet = true ∧ 0 < s.options.verbosity then
    if s.quietFirst then .error (.conflict .quiet .verbose)
    else .error (.conflict .verbose .quiet)
  else .ok s.options

end Arguments

/-- What a command line asks for. -/
def Request.parse (arguments : List String) : Except UsageError Request :=
  match Arguments.read arguments {} with
  | .error .help => .ok .help
  | .error (.wrong e) => .error e
  | .ok seen => (Arguments.settle seen).map Request.run

end LoxLexer
