import LoxLexer.LexError
import LoxLexer.Token.Basic

/-! # Pieces of a text

A text is cut into pieces: blanks, comments, the lexemes of tokens and what is wrong. `Piece.text`
writes a piece down and `Piece.cut` takes the first one off a text, as long as it can be.

* `Piece.text_append_cut`: cutting loses nothing.
* `Piece.length_cut_lt`: what remains is shorter.
-/

set_option autoImplicit false

namespace LoxLexer

inductive Piece where
  /-- A space, a tab, or the end of a line. -/
  | blank (c : Char)
  /-- Two slashes and the rest of their line. -/
  | comment (body : List Char)
  | operator (op : Operator)
  | word (letters : List Char)
  /-- Digits, and the digits after a point if there are any. -/
  | number (whole fraction : List Char)
  | string (body : List Char)
  /-- A string that the end of the text leaves open. -/
  | openString (body : List Char)
  /-- A character that starts no other piece. -/
  | stray (c : Char)
deriving DecidableEq

namespace Piece

def text : Piece → List Char
  | blank c => [c]
  | comment body => '/' :: '/' :: body
  | operator op => op.chars
  | word letters => letters
  | number whole [] => whole
  | number whole (d :: ds) => whole ++ '.' :: d :: ds
  | string body => '"' :: body ++ ['"']
  | openString body => '"' :: body
  | stray c => [c]

/-! ## Character classes -/

def isBlank (c : Char) : Bool := c == ' ' || c == '\r' || c == '\t' || c == '\n'

/-- Words start with a letter of the Latin alphabet or an underscore. -/
def startsWord (c : Char) : Bool := c.isAlpha || c == '_'

def continuesWord (c : Char) : Bool := startsWord c || c.isDigit

/-! ## The first piece -/

/-- The rest of a string after its opening quote. -/
def cutString (cs : List Char) : Piece × List Char :=
  match cs.dropWhile (· != '"') with
  | [] => (openString cs, [])
  | _ :: rest => (string (cs.takeWhile (· != '"')), rest)

/-- A point belongs to a number only if a digit follows it. -/
def cutNumber (cs : List Char) : Piece × List Char :=
  let whole := cs.takeWhile Char.isDigit
  match cs.dropWhile Char.isDigit with
  | '.' :: d :: rest =>
    if d.isDigit then
      (number whole (d :: rest.takeWhile Char.isDigit), rest.dropWhile Char.isDigit)
    else (number whole [], '.' :: d :: rest)
  | rest => (number whole [], rest)

/-- The operator `op`, or the one that a following `=` turns it into. -/
def cutOperator (op : Operator) (cs : List Char) : Piece × List Char :=
  match op.withEqual?, cs with
  | some joined, '=' :: rest => (operator joined, rest)
  | _, _ => (operator op, cs)

/-- A slash, or a comment if another slash follows. -/
def cutSlash (cs : List Char) : Piece × List Char :=
  match cs with
  | '/' :: rest => (comment (rest.takeWhile (· != '\n')), rest.dropWhile (· != '\n'))
  | _ => (operator .slash, cs)

/-- The first piece of the text `c :: cs`, and what follows it. -/
def cut (c : Char) (cs : List Char) : Piece × List Char :=
  if isBlank c then (blank c, cs)
  else if c = '"' then cutString cs
  else if c.isDigit then cutNumber (c :: cs)
  else if startsWord c then (word (c :: cs.takeWhile continuesWord), cs.dropWhile continuesWord)
  else if c = '/' then cutSlash cs
  else match Operator.ofChar? c with
    | some op => cutOperator op cs
    | none => (stray c, cs)

/-! ## Nothing is lost -/

theorem text_append_cutString (cs : List Char) :
    (cutString cs).1.text ++ (cutString cs).2 = '"' :: cs := by
  have h := List.takeWhile_append_dropWhile (p := (· != '"')) (l := cs)
  unfold cutString
  split
  · simp [text]
  · next d rest hd =>
    have hq : d = '"' := by
      have := List.head?_dropWhile_not (· != '"') cs
      rw [hd] at this
      simpa using this
    rw [hd] at h
    subst hq
    simp [text, h]

theorem text_append_cutNumber (cs : List Char) :
    (cutNumber cs).1.text ++ (cutNumber cs).2 = cs := by
  have h := List.takeWhile_append_dropWhile (p := Char.isDigit) (l := cs)
  unfold cutNumber
  split
  · next d rest hd =>
    rw [hd] at h
    have hr := List.takeWhile_append_dropWhile (p := Char.isDigit) (l := rest)
    split
    · simp [text, hr, h]
    · simp [text, h]
  · simp [text, h]

theorem text_append_cutOperator {op : Operator} {c : Char} (h : op.chars = [c])
    (cs : List Char) : (cutOperator op cs).1.text ++ (cutOperator op cs).2 = c :: cs := by
  unfold cutOperator
  split
  · next joined rest hj => simp [text, Operator.chars_of_withEqual? hj, h]
  · simp [text, h]

theorem text_append_cutSlash (cs : List Char) :
    (cutSlash cs).1.text ++ (cutSlash cs).2 = '/' :: cs := by
  unfold cutSlash
  split
  · simp [text, List.takeWhile_append_dropWhile]
  · simp [text, Operator.chars]

/-- **A piece and what follows it are the text that was cut.** -/
theorem text_append_cut (c : Char) (cs : List Char) :
    (cut c cs).1.text ++ (cut c cs).2 = c :: cs := by
  unfold cut
  split
  · simp [text]
  split
  · next h => rw [h]; exact text_append_cutString cs
  split
  · exact text_append_cutNumber _
  split
  · simp [text, List.takeWhile_append_dropWhile]
  split
  · next h => rw [h]; exact text_append_cutSlash cs
  split
  · next op hop => exact text_append_cutOperator (Operator.chars_of_ofChar? hop) cs
  · simp [text]

/-! ## What remains is shorter -/

theorem length_cutString_le (cs : List Char) : (cutString cs).2.length ≤ cs.length := by
  have h := congrArg List.length (text_append_cutString cs)
  rw [List.length_append] at h
  have hpos : 0 < (cutString cs).1.text.length := by
    unfold cutString
    split <;> simp [text]
  simp only [List.length_cons] at h
  omega

theorem length_cutNumber_lt {c : Char} (h : c.isDigit = true) (cs : List Char) :
    (cutNumber (c :: cs)).2.length < (c :: cs).length := by
  have hl := congrArg List.length (text_append_cutNumber (c :: cs))
  have hpos : 0 < (cutNumber (c :: cs)).1.text.length := by
    unfold cutNumber
    split
    · split <;> simp [text, h]
    · simp [text, h]
  rw [List.length_append] at hl
  omega

theorem length_cutOperator_le (op : Operator) (cs : List Char) :
    (cutOperator op cs).2.length ≤ cs.length := by
  unfold cutOperator
  split <;> simp

theorem length_cutSlash_le (cs : List Char) : (cutSlash cs).2.length ≤ cs.length := by
  unfold cutSlash
  split
  · have := List.dropWhile_sublist (l := ‹List Char›) (· != '\n')
    have := this.length_le
    simp only [List.length_cons]
    omega
  · exact Nat.le_refl _

/-- **Every piece takes at least one character.** -/
theorem length_cut_lt (c : Char) (cs : List Char) : (cut c cs).2.length < (c :: cs).length := by
  unfold cut
  split
  · simp
  split
  · have := length_cutString_le cs
    simp only [List.length_cons]
    omega
  split
  · next h => exact length_cutNumber_lt h cs
  split
  · have := (List.dropWhile_sublist (l := cs) continuesWord).length_le
    simp only [List.length_cons]
    omega
  split
  · have := length_cutSlash_le cs
    simp only [List.length_cons]
    omega
  split
  · have := length_cutOperator_le ‹_› cs
    simp only [List.length_cons]
    omega
  · simp

end Piece

end LoxLexer
