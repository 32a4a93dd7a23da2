import LoxLexer.Proofs.Covering.Layout

/-! # Line numbers

Lines are counted by the ends of lines in front of a place. `line_eq_of_covers` says that every item
carries the line on which its span starts, and a string left open the line on which the text ends:
no end of a line is counted twice or missed, whether it is a blank, follows a comment or stands in a
string.
-/

set_option autoImplicit false

namespace LoxLexer

/-- The line of an item behind `before`, in a text that starts on `line`: the one on which its span
starts or, for a string left open, the last line of the text. -/
def Item.lineFrom (line : Nat) (text before : List Char) : Item → Nat
  | error ⟨.unterminatedString, _⟩ => line + text.count '\n'
  | _ => line + before.count '\n'

/-- Passing the same characters moves the line that the text starts on. -/
theorem Item.lineFrom_append (line : Nat) (w text before : List Char) (item : Item) :
    item.lineFrom line (w ++ text) (w ++ before) =
      item.lineFrom (line + w.count '\n') text before := by
  cases item with
  | token t => simp [lineFrom, Nat.add_assoc]
  | error e =>
    obtain ⟨cause, _⟩ := e
    cases cause <;> simp [lineFrom, Nat.add_assoc]

namespace Piece

/-- An item is placed where its piece starts, a string left open where it ends. -/
theorem line_of_item? {p : Piece} {rest : List Char} (he : p.EndsBefore rest) {line : Nat}
    {item : Item} (h : p.item? line (line + p.newlines) = some item) :
    item.line = item.lineFrom line (p.text ++ rest) [] := by
  cases p with
  | number whole fraction =>
    cases h
    cases (Decimal.read whole fraction).nearest? <;> rfl
  | openString body =>
    cases h
    obtain rfl : rest = [] := he
    simp [Item.line, Item.lineFrom, newlines]
  | _ => cases h <;> rfl

end Piece

namespace Covering

/-- Every item is on the line of its place, the text starting on `line`. -/
def Lined (line : Nat) (c : Covering) : Prop :=
  ∀ before x after, c.spans = before ++ x :: after →
    x.item.line = x.item.lineFrom line c.chars (before.flatMap Span.chars ++ x.gap)

theorem lined_cons {line : Nat} {x : Span} {xs : List Span} {last : List Char} :
    Lined line ⟨x :: xs, last⟩ ↔
      x.item.line = x.item.lineFrom line (chars ⟨x :: xs, last⟩) x.gap ∧
        Lined (line + x.chars.count '\n') ⟨xs, last⟩ := by
  have hchars : chars ⟨x :: xs, last⟩ = x.chars ++ chars ⟨xs, last⟩ := by
    simp [Span.chars]
  have hbehind : ∀ (before : List Span) (y : Span),
      y.item.lineFrom line (chars ⟨x :: xs, last⟩) ((x :: before).flatMap Span.chars ++ y.gap) =
        y.item.lineFrom (line + x.chars.count '\n') (chars ⟨xs, last⟩)
          (before.flatMap Span.chars ++ y.gap) := fun before y => by
    rw [hchars, List.flatMap_cons, List.append_assoc, Item.lineFrom_append]
  rw [Lined, forall_split_cons]
  simp only [hbehind]
  rfl

theorem Laid.lined {line : Nat} {c : Covering} (h : Laid line c) : Lined line c := by
  induction h with
  | nil =>
    intro before x after hx
    simp at hx
  | @cons line gap p item xs last _ _ he hi _ ih =>
    refine lined_cons.2 ⟨?_, ?_⟩
    · -- the gap counts for the line, as what stands in front of the piece
      have hgap := item.lineFrom_append line gap (p.text ++ chars ⟨xs, last⟩) []
      rw [List.append_nil] at hgap
      rw [chars_cons]
      exact (Piece.line_of_item? he hi).trans hgap.symm
    · simpa [Span.chars, Piece.newlines, Nat.add_assoc] using ih

theorem lined_ofPieces {ps : List Piece} (h : Piece.Tiles ps) (line : Nat) :
    Lined line (ofPieces line ps) :=
  (laid_ofPieces h line).lined

/-- **Line numbers are exact**: an item carries the line on which its span starts, a string left
open the line on which the text ends, and so does the end of the text. -/
theorem line_eq_of_covers {c : Covering} {source : String} (h : c.Covers source) :
    (∀ before x after, c.spans = before ++ x :: after →
      x.item.line = x.item.lineFrom 1 source.toList (before.flatMap Span.chars ++ x.gap)) ∧
    (Scanner.ofString source).items =
      c.items ++ [.token (Token.endOfFile (1 + source.toList.count '\n'))] := by
  obtain rfl := h.unique (covers_ofSource source)
  constructor
  · rw [← h.chars]
    exact lined_ofPieces (Piece.tiles_pieces _) 1
  · rw [ofSource, items_ofPieces]
    exact Scanner.items_eq (Scanner.ofString source) rfl

/-- A closed string over two lines, a comment with a quote, a return and an open string. -/
theorem line_eq_of_covers_open_string :
    let source := "\"a\nb\"//\"\n@\r\n\"c\n"
    let c : Covering :=
      ⟨[⟨[], "\"a\nb\"".toList, .token ⟨.string "a\nb", "\"a\nb\"", 1⟩⟩,
        ⟨"//\"\n".toList, "@".toList, .error ⟨.unexpectedCharacter '@', 3⟩⟩,
        ⟨"\r\n".toList, "\"c\n".toList, .error ⟨.unterminatedString, 5⟩⟩], []⟩
    c.Covers source ∧
      (∀ before x after, c.spans = before ++ x :: after →
        x.item.line = x.item.lineFrom 1 source.toList (before.flatMap Span.chars ++ x.gap)) ∧
      (Scanner.ofString source).items =
        c.items ++ [.token (Token.endOfFile (1 + source.toList.count '\n'))] := by
  intro source c
  have hc : c = ofSource source := by decide +kernel
  have h : c.Covers source := hc ▸ covers_ofSource source
  exact ⟨h, line_eq_of_covers h⟩

end Covering

end LoxLexer
