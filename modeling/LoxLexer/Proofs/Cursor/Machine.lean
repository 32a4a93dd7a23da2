import LoxLexer.Proofs.Cursor.Lookahead
import LoxLexer.Scanner

/-! # A cursor over a text

The scanner once more, character by character: a `Cursor` keeps the text, byte offsets into it and
an iterator that looks ahead, and takes the text of a lexeme by its offsets, which stops the program
where they do not fit (`slice?`). `Cursor.step` goes from one point of the program to the next. A
point is passed between any two operations on the iterator, also inside of the loops over a string,
a number, a word or a comment.
-/

set_option autoImplicit false

namespace LoxLexer

/-- The part of a text between two byte offsets. There is none if an offset is beyond the end or
within a character, or if they are in the wrong order. -/
def slice? (s : String) (first last : Nat) : Option String :=
  if (⟨first⟩ : String.Pos.Raw).IsValid s ∧ (⟨last⟩ : String.Pos.Raw).IsValid s ∧ first ≤ last then
    some (String.Pos.Raw.extract s ⟨first⟩ ⟨last⟩)
  else none

/-! ## Points of the program -/

/-- A loop that takes characters as long as they are of one kind. -/
inductive Loop where
  | comment | word | whole | fraction

def Loop.goesOn : Loop → Char → Bool
  | comment, c => c != '\n'
  | word, c => Piece.continuesWord c
  | whole, c | fraction, c => c.isDigit

/-- What stands between the two offsets. -/
inductive Found where
  | operator (op : Operator)
  | word
  | number
  | string (firstLine : Nat)

inductive Point where
  /-- Before a round of the loop over what is skipped. Every call starts here. -/
  | start
  | first
  | dispatch (c : Char)
  /-- Take the next character, which was seen before. -/
  | take (behind : Point)
  /-- Take the next character if it is `c`. -/
  | takeIf (c : Char) (taken other : Point)
  | loop (l : Loop)
  | fractionPoint
  | digitBehindPoint
  | string (firstLine : Nat)
  | closing (firstLine : Nat)
  | found (what : Found)

def Loop.behind : Loop → Point
  | comment => .start
  | word => .found .word
  | whole => .fractionPoint
  | fraction => .found .number

/-- The operator, or the one that a following `=` turns it into. -/
def Operator.point (op : Operator) : Point :=
  match op.withEqual? with
  | some joined => .takeIf '=' (.found (.operator joined)) (.found (.operator op))
  | none => .found (.operator op)

/-! ## The item of a lexeme -/

/-- The number that a numeral stands for, if it is finite. -/
def parseNumber (text : String) : Option Binary64 :=
  (Decimal.read (text.toList.takeWhile Char.isDigit)
    ((text.toList.dropWhile Char.isDigit).drop 1)).nearest?

/-- The item with the text `text`. The value of a string is cut out of it. -/
def Found.item? (text : String) (line : Nat) : Found → Option Item
  | operator op => some (.token ⟨.operator op, text, line⟩)
  | word => some (.token ⟨.ofWord text.toList, text, line⟩)
  | number => some (Piece.numberItem text line (parseNumber text))
  | string firstLine => (slice? text 1 (text.utf8ByteSize - 1)).map fun value =>
      .token ⟨.string value, text, firstLine⟩

/-! ## Cursors -/

structure Cursor (L : Lookahead) where
  source : String
  chars : L.State
  start : Nat := 0
  current : Nat := 0
  line : Nat := 1
  finished : Bool := false
  tokens : Nat := 0
  errors : Nat := 0

/-- A cursor at a point of the program. -/
structure Config (L : Lookahead) where
  cursor : Cursor L
  point : Point

inductive Outcome (L : Lookahead) where
  | on (c : Config L)
  /-- A call ends with this result. -/
  | gives (result : Option Item) (c : Cursor L)
  /-- The program stops. -/
  | panics

namespace Cursor

variable {L : Lookahead}

def ofString (L : Lookahead) (source : String) : Cursor L where
  source := source
  chars := L.ofList (charIndices 0 source.toList)

def advance (c : Cursor L) : Option Char × Cursor L :=
  match L.next c.chars with
  | (none, chars) => (none, { c with chars := chars })
  | (some (offset, char), chars) =>
    (some char, { c with chars := chars, current := offset + char.utf8Size })

def peek (c : Cursor L) : Option Char × Cursor L :=
  ((L.peek c.chars).1.map Prod.snd, { c with chars := (L.peek c.chars).2 })

def peekSecond (c : Cursor L) : Option Char × Cursor L :=
  ((L.peekSecond c.chars).1.map Prod.snd, { c with chars := (L.peekSecond c.chars).2 })

/-- Count the line that a character ends. -/
def newLine (c : Cursor L) (char : Char) : Cursor L :=
  { c with line := c.line + if char = '\n' then 1 else 0 }

/-- Count an item. -/
def record (c : Cursor L) : Item → Cursor L
  | .token _ => { c with tokens := c.tokens + 1 }
  | .error _ => { c with errors := c.errors + 1 }

def give (c : Cursor L) (item : Item) : Outcome L := .gives (some item) (c.record item)

/-- What the first character of a lexeme leads to. -/
def dispatch (c : Cursor L) (char : Char) : Outcome L :=
  if Piece.isBlank char then .on ⟨c.newLine char, .start⟩
  else if char = '"' then .on ⟨c, .string c.line⟩
  else if char.isDigit then .on ⟨c, .loop .whole⟩
  else if Piece.startsWord char then .on ⟨c, .loop .word⟩
  else if char = '/' then .on ⟨c, .takeIf '/' (.loop .comment) (.found (.operator .slash))⟩
  else match Operator.ofChar? char with
    | some op => .on ⟨c, op.point⟩
    | none => c.give (.error ⟨.unexpectedCharacter char, c.line⟩)

/-- From one point to the next. -/
def step (c : Cursor L) : Point → Outcome L
  | .start => if c.finished then .gives none c else .on ⟨{ c with start := c.current }, .first⟩
  | .first =>
    match c.advance.1 with
    | none =>
      .gives (some (.token (Token.endOfFile c.line))) { c.advance.2 with finished := true }
    | some char => .on ⟨c.advance.2, .dispatch char⟩
  | .dispatch char => c.dispatch char
  | .take behind => .on ⟨c.advance.2, behind⟩
  | .takeIf char taken other =>
    .on ⟨c.peek.2, if c.peek.1 = some char then .take taken else other⟩
  | .loop l => .on ⟨c.peek.2, if c.peek.1.any l.goesOn then .take (.loop l) else l.behind⟩
  | .fractionPoint =>
    .on ⟨c.peek.2, if c.peek.1 = some '.' then .digitBehindPoint else .found .number⟩
  | .digitBehindPoint =>
    .on ⟨c.peekSecond.2,
      if c.peekSecond.1.any Char.isDigit then .take (.loop .fraction) else .found .number⟩
  | .string firstLine =>
    match c.peek.1 with
    | none => .on ⟨c.peek.2, .closing firstLine⟩
    | some char =>
      if char = '"' then .on ⟨c.peek.2, .closing firstLine⟩
      else .on ⟨c.peek.2.newLine char, .take (.string firstLine)⟩
  | .closing firstLine =>
    match c.advance.1 with
    | none => c.advance.2.give (.error ⟨.unterminatedString, c.line⟩)
    | some _ => .on ⟨c.advance.2, .found (.string firstLine)⟩
  | .found what =>
    match (slice? c.source c.start c.current).bind fun text => what.item? text c.line with
    | none => .panics
    | some item => c.give item

/-! ## The steps, point by point -/

section
variable (c : Cursor L)

theorem step_start_eq : c.step .start =
    if c.finished then .gives none c else .on ⟨{ c with start := c.current }, .first⟩ := rfl

theorem step_first_eq : c.step .first =
    match c.advance.1 with
    | none =>
      .gives (some (.token (Token.endOfFile c.line))) { c.advance.2 with finished := true }
    | some char => .on ⟨c.advance.2, .dispatch char⟩ := rfl

theorem step_takeIf_eq (char : Char) (taken other : Point) : c.step (.takeIf char taken other) =
    .on ⟨c.peek.2, if c.peek.1 = some char then .take taken else other⟩ := rfl

theorem step_loop_eq (l : Loop) : c.step (.loop l) =
    .on ⟨c.peek.2, if c.peek.1.any l.goesOn then .take (.loop l) else l.behind⟩ := rfl

theorem step_fractionPoint_eq : c.step .fractionPoint =
    .on ⟨c.peek.2, if c.peek.1 = some '.' then .digitBehindPoint else .found .number⟩ := rfl

theorem step_digitBehindPoint_eq : c.step .digitBehindPoint =
    .on ⟨c.peekSecond.2,
      if c.peekSecond.1.any Char.isDigit then .take (.loop .fraction) else .found .number⟩ := rfl

theorem step_string_eq (firstLine : Nat) : c.step (.string firstLine) =
    match c.peek.1 with
    | none => .on ⟨c.peek.2, .closing firstLine⟩
    | some char =>
      if char = '"' then .on ⟨c.peek.2, .closing firstLine⟩
      else .on ⟨c.peek.2.newLine char, .take (.string firstLine)⟩ := rfl

theorem step_closing_eq (firstLine : Nat) : c.step (.closing firstLine) =
    match c.advance.1 with
    | none => c.advance.2.give (.error ⟨.unterminatedString, c.line⟩)
    | some _ => .on ⟨c.advance.2, .found (.string firstLine)⟩ := rfl

theorem step_found_eq (what : Found) : c.step (.found what) =
    match (slice? c.source c.start c.current).bind fun text => what.item? text c.line with
    | none => .panics
    | some item => c.give item := rfl

end

end Cursor

def Config.step {L : Lookahead} (c : Config L) : Outcome L := c.cursor.step c.point

end LoxLexer
