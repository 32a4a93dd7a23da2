import LoxLexer.Log.Event
import LoxLexer.Piece

/-! # Scanning

A `Scanner` walks through a text. Each step drops blanks and comments and gives one item, a token
or a lexical error, with the event it sends to the log. The last item is the end-of-file token,
and there are no steps after it. Nothing but the remaining text, the position and the counts of
what was found is kept between steps.

* `Scanner.next?`: one step.
* `Scanner.steps`: all remaining steps, characterised by `steps_eq`.
* `scan`: the tokens and the errors of a whole text.
-/

set_option autoImplicit false

namespace LoxLexer

/-- What a scanner finds in a text. -/
inductive Item where
  | token (t : Token)
  | error (e : LexError)
deriving DecidableEq

namespace Item

def token? : Item → Option Token
  | token t => some t
  | error _ => none

def error? : Item → Option LexError
  | token _ => none
  | error e => some e

/-- What is logged when an item other than the end of the text is found. -/
def event : Item → Log.Event
  | token t => .accepted t
  | error e => .rejected e

end Item

/-! ## The item of a piece -/

namespace Piece

/-- The item of a number, whose value is missing if it is too large to be represented. -/
def numberItem (text : String) (line : Nat) : Option Binary64 → Item
  | some x => .token ⟨.number x, text, line⟩
  | none => .error ⟨.numberOutOfRange text, line⟩

/-- The item of a piece that starts on line `first` and ends on line `last`, if it is not skipped.
Only a string left open is placed at its end. -/
def item? (p : Piece) (first last : Nat) : Option Item :=
  match p with
  | blank _ | comment _ => none
  | operator op => some (.token ⟨.operator op, String.ofList p.text, first⟩)
  | word letters => some (.token ⟨.ofWord letters, String.ofList p.text, first⟩)
  | number whole fraction =>
    some (numberItem (String.ofList p.text) first (Decimal.read whole fraction).nearest?)
  | string body => some (.token ⟨.string (String.ofList body), String.ofList p.text, first⟩)
  | openString _ => some (.error ⟨.unterminatedString, last⟩)
  | stray c => some (.error ⟨.unexpectedCharacter c, first⟩)

/-- How many lines end inside a piece. -/
def newlines (p : Piece) : Nat := p.text.count '\n'

/-- The length of a piece in bytes. -/
def byteLength (p : Piece) : Nat := (String.ofList p.text).utf8ByteSize

end Piece

/-! ## Scanners -/

/-- A position in a text: what remains of it, how many bytes were passed, and the current line.
`finished` holds once the end of the text was given as an item. -/
structure Scanner where
  rest : List Char
  offset : Nat := 0
  line : Nat := 1
  finished : Bool := false
  tokens : Nat := 0
  errors : Nat := 0

namespace Scanner

/-- One item, its log event and the scanner after it. -/
structure Step where
  item : Item
  event : Log.Event
  scanner : Scanner

def ofString (source : String) : Scanner := { rest := source.toList }

/-- The scanner behind a piece. -/
def pass (s : Scanner) (p : Piece) (rest : List Char) : Scanner :=
  { s with rest := rest, offset := s.offset + p.byteLength, line := s.line + p.newlines }

/-- Count an item. -/
def record (s : Scanner) : Item → Scanner
  | .token _ => { s with tokens := s.tokens + 1 }
  | .error _ => { s with errors := s.errors + 1 }

/-- The end of the text, as the last step. -/
def finish (s : Scanner) : Step where
  item := .token (Token.endOfFile s.line)
  event := .finished s.tokens s.errors s.line
  scanner := { s with finished := true }

/-- The next item, blanks and comments being skipped, or nothing after the end of the text. -/
def next? (s : Scanner) : Option Step :=
  if s.finished then none
  else match _h : s.rest with
    | [] => some s.finish
    | c :: cs =>
      let first := Piece.cut c cs
      let behind := s.pass first.1 first.2
      match first.1.item? s.line behind.line with
      | none => behind.next?
      | some item => some ⟨item, item.event, behind.record item⟩
termination_by s.rest.length
decreasing_by
  simp only [pass, _h]
  exact Piece.length_cut_lt c cs

/-! ## All steps -/

/-- A bound on the number of steps left. -/
def remaining (s : Scanner) : Nat := if s.finished then 0 else s.rest.length + 1

theorem remaining_next? {s : Scanner} {step : Step} (h : s.next? = some step) :
    step.scanner.remaining < s.remaining := by
  fun_induction next? s with
  | case1 => simp at h
  | case2 s hf => cases h; simp [remaining, finish, hf]
  | case3 s hf c cs hr first behind hi ih =>
    have := ih h
    have hl := Piece.length_cut_lt c cs
    simp only [remaining, hf, hr] at this ⊢
    simp only [behind, pass, hf, first] at this
    simp at this hl ⊢
    omega
  | case4 s hf c cs hr first behind item hi =>
    cases h
    have hl := Piece.length_cut_lt c cs
    cases item <;> simp [remaining, record, behind, pass, hf, hr, first] at hl ⊢ <;> omega

/-- The remaining steps, added to those already made. -/
def collect (s : Scanner) (made : Array Step) : Array Step :=
  match _h : s.next? with
  | none => made
  | some step => step.scanner.collect (made.push step)
termination_by s.remaining
decreasing_by exact remaining_next? _h

/-- All steps up to the end of the text. -/
def steps (s : Scanner) : List Step := (s.collect #[]).toList

theorem collect_toList (s : Scanner) (made : Array Step) :
    (s.collect made).toList = made.toList ++ s.steps := by
  suffices ∀ made' : Array Step, (s.collect (made ++ made')).toList =
      made.toList ++ (s.collect made').toList by
    simpa [steps] using this #[]
  intro made'
  fun_induction collect s made' generalizing made with
  | case1 s made' h => rw [collect]; split <;> simp_all
  | case2 s made' step h ih =>
    rw [collect]
    split
    · simp_all
    · next step' h' =>
      rw [h] at h'
      cases h'
      rw [Array.push_append, ← ih, Array.append_push]

/-- The steps are the next one and those after it. -/
theorem steps_eq (s : Scanner) :
    s.steps = match s.next? with
      | none => []
      | some step => step :: step.scanner.steps := by
  rw [steps, collect]
  split
  · next h => simp [h]
  · next step h => simp [h, collect_toList]

def items (s : Scanner) : List Item := s.steps.map Step.item

def events (s : Scanner) : List Log.Event := s.steps.map Step.event

end Scanner

/-! ## Scans -/

/-- The tokens and the errors found in a text, each in order. -/
structure Scan where
  tokens : List Token
  errors : List LexError
deriving DecidableEq

namespace Scan

def ofItems (items : List Item) : Scan where
  tokens := items.filterMap Item.token?
  errors := items.filterMap Item.error?

def hadError (s : Scan) : Bool := !s.errors.isEmpty

def sameTokens (a b : Scan) : Bool := a.tokens.isEqv b.tokens Token.same

def sameErrors (a b : Scan) : Bool := a.errors == b.errors

/-- Scans are the same when their tokens, numbers compared as numbers, and their errors are. -/
def same (a b : Scan) : Bool := a.sameTokens b && a.sameErrors b

end Scan

/-- What remains of a text, scanned to its end. -/
def Scanner.drain (s : Scanner) : Scan := Scan.ofItems s.items

/-- The tokens and the errors of a text. -/
def scan (source : String) : Scan := (Scanner.ofString source).drain

end LoxLexer
