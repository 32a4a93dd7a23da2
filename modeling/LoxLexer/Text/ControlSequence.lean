/-! # Control sequences

A terminal takes some characters of a text as commands to itself. A command begins with an escape
and has one of three forms: an escape sequence ends at its final character, and so does a control
sequence, which sets styles and moves the cursor; a control string ends at a terminator, or at the
escape of the next command. The blanks that lay text out are obeyed at once within the first two
forms, and from there on text is read as text until a character that is none.

* `Text.withoutCommands`: what a text shows to one who obeys no command.
* `withoutCommands_eq_self`: a text in which nothing is a command shows all of itself.
-/

set_option autoImplicit false

namespace LoxLexer

namespace Text

/-! ## Kinds of characters -/

/-- The blanks, other than the space, that lay text out. -/
def isLayout (c : Char) : Bool := c == '\t' || c == '\n' || c == '\x0c' || c == '\r'

/-- Whether a character stands for itself where no command is open. -/
def isText (c : Char) : Bool := isLayout c || (decide (' ' ≤ c) && c != '\x7f')

/-- The characters that come between an escape and what it is about. -/
def isIntermediate (c : Char) : Bool := decide (' ' ≤ c ∧ c ≤ '/')

def isParameter (c : Char) : Bool := decide ('0' ≤ c ∧ c ≤ '?')

/-- The characters that end a control sequence. -/
def isFinal (c : Char) : Bool := decide ('@' ≤ c ∧ c ≤ '~')

/-- The terminator of control strings is a byte, which counts within a longer character too. -/
def holdsTerminator (c : Char) : Bool := (String.utf8EncodeChar c).contains 0x9c

/-! ## Commands -/

/-- How far a command has come. -/
inductive Command where
  | closed
  | escape
  /-- An escape sequence with its first intermediate. -/
  | escapeSequence
  | controlSequence
  /-- A string for the system around the terminal, which a bell may end. -/
  | systemString
  /-- A string for a device. It opens like a control sequence. -/
  | deviceString
  | deviceParameters
  | deviceIntermediates
  /-- The content of a control string. -/
  | controlString
deriving DecidableEq

namespace Command

/-- Behind an escape, a character says which form the command has. -/
def afterEscape (c : Char) : Command :=
  if c = '[' then controlSequence
  else if c = ']' then systemString
  else if c = 'P' then deviceString
  else if c = 'X' ∨ c = '^' ∨ c = '_' then controlString
  else if isIntermediate c then escapeSequence
  else if isParameter c || isFinal c then closed
  else escape

/-- Two controls call off any command, and an escape begins another. -/
def next (command : Command) (c : Char) : Command :=
  if c = '\x18' ∨ c = '\x1a' then closed
  else if c = '\x1b' then escape
  else match command with
    | closed => closed
    | escape => afterEscape c
    | escapeSequence => if isParameter c || isFinal c then closed else escapeSequence
    | controlSequence => if isFinal c then closed else controlSequence
    | systemString => if c = '\x07' then closed else systemString
    | deviceString =>
      if isParameter c then deviceParameters
      else if isIntermediate c then deviceIntermediates
      else if isFinal c then controlString
      else deviceString
    | deviceParameters =>
      if isIntermediate c then deviceIntermediates
      else if '<' ≤ c ∧ c ≤ '~' then controlString
      else deviceParameters
    | deviceIntermediates =>
      if isParameter c || isFinal c then controlString else deviceIntermediates
    | controlString => if holdsTerminator c then closed else controlString

/-- Whether a character gets through a command. -/
def shows (command : Command) (c : Char) : Bool :=
  match command with
  | closed => isText c
  | escape | escapeSequence | controlSequence => isLayout c
  | systemString | deviceString | deviceParameters | deviceIntermediates | controlString => false

end Command

/-! ## Texts -/

/-- What the next character meets. -/
structure Terminal where
  command : Command := .closed
  /-- Whether the last character was shown. -/
  inText : Bool := false
deriving DecidableEq

namespace Terminal

def shows (t : Terminal) (c : Char) : Bool := (t.inText && isText c) || t.command.shows c

/-- A character beyond ASCII that is read as text closes the command. -/
def next (t : Terminal) (c : Char) : Terminal where
  command :=
    if t.inText && isText c then (if c ≤ '\x7f' then t.command else .closed)
    else t.command.next c
  inText := t.shows c

def shown : Terminal → List Char → List Char
  | _, [] => []
  | t, c :: more => if t.shows c then c :: shown (t.next c) more else shown (t.next c) more

end Terminal

/-- What a text shows to one who obeys no command. -/
def withoutCommands (s : String) : String := String.ofList (Terminal.shown {} s.toList)

/-! ## Texts without commands -/

theorem Command.next_closed {c : Char} (h : isText c = true) :
    Command.next .closed c = .closed := by
  simp only [Command.next]
  split
  · rfl
  · split
    · next h1 => subst h1; simp [isText, isLayout] at h
    · rfl

theorem Terminal.shown_eq_self (inText : Bool) (cs : List Char)
    (h : ∀ c ∈ cs, isText c = true) : Terminal.shown ⟨.closed, inText⟩ cs = cs := by
  induction cs generalizing inText with
  | nil => rfl
  | cons c more ih =>
    have hc := h c (by simp)
    have hshow : Terminal.shows ⟨.closed, inText⟩ c = true := by
      simp [Terminal.shows, Command.shows, hc]
    have hnext : Terminal.next ⟨.closed, inText⟩ c = ⟨.closed, true⟩ := by
      simp [Terminal.next, hshow, Command.next_closed hc]
    rw [Terminal.shown, hshow, hnext, ih true (fun d hd => h d (by simp [hd]))]
    rfl

theorem withoutCommands_eq_self (s : String) (h : ∀ c ∈ s.toList, isText c = true) :
    withoutCommands s = s := by
  rw [withoutCommands, Terminal.shown_eq_self false s.toList h, String.ofList_toList]

end Text

end LoxLexer
