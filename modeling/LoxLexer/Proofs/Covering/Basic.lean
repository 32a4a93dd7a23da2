import LoxLexer.Proofs.Grammar
import LoxLexer.Scanner

/-! # Coverings of a text

A `Covering` lays a text out as the items found in it, each with the trivia in front of it and its
own text, and the trivia behind the last one. `Covering.Covers source` says that the texts are those
of the items, that the gaps are blanks and comments, and that the items are all that a scanner of
`source` gives. An item starts where no blank and no comment does, so that a text has no more than
one covering (`Covers.unique`) and every item has its place.
-/

set_option autoImplicit false

namespace LoxLexer

/-! ## Trivia -/

/-- A blank, or a comment that reaches up to the end of its line or of the text, where `rest`
follows. -/
def Trivium (rest w : List Char) : Prop :=
  w ∈ Grammar.blank ∨ w ∈ Grammar.comment ∧ ∀ c ∈ rest.head?, c = '\n'

/-- Blanks and comments in a row, in front of `rest`. -/
inductive Trivia (rest : List Char) : List Char → Prop
  | nil : Trivia rest []
  | cons {w g : List Char} : Trivium (g ++ rest) w → Trivia rest g → Trivia rest (w ++ g)

/-- No blank and no comment starts here. -/
def Solid (cs : List Char) : Prop := ∀ w ∈ Grammar.blank + Grammar.comment, ¬ w <+: cs

/-! ## Items and their places -/

namespace Item

def line : Item → Nat
  | token t => t.line
  | error e => e.line

/-- The text is that of the item, where `rest` follows it. -/
def Spells (text rest : List Char) : Item → Prop
  | token t => t.lexeme = String.ofList text
  | error ⟨.unexpectedCharacter c, _⟩ => text = [c]
  | error ⟨.numberOutOfRange digits, _⟩ => digits = String.ofList text
  | error ⟨.unterminatedString, _⟩ => (∃ body, '"' ∉ body ∧ text = '"' :: body) ∧ rest = []

end Item

/-- An item with its text and the trivia in front of it. -/
structure Span where
  gap : List Char
  text : List Char
  item : Item
deriving DecidableEq

namespace Span

def chars (x : Span) : List Char := x.gap ++ x.text

/-- The span is well placed in front of `rest`. -/
structure Fits (x : Span) (rest : List Char) : Prop where
  gap : Trivia (x.text ++ rest) x.gap
  solid : Solid (x.text ++ rest)
  nonempty : x.text ≠ []
  spells : x.item.Spells x.text rest

end Span

/-- Items in a row with the trivia in front of each, and the trivia behind the last. -/
structure Covering where
  spans : List Span
  last : List Char
deriving DecidableEq

namespace Covering

/-- The text that is laid out. -/
def chars (c : Covering) : List Char := c.spans.flatMap Span.chars ++ c.last

def items (c : Covering) : List Item := c.spans.map Span.item

/-- Every span fits in front of what follows it, and trivia end the text. -/
structure WellPlaced (c : Covering) : Prop where
  spans : ∀ before x after, c.spans = before ++ x :: after → x.Fits (chars ⟨after, c.last⟩)
  last : Trivia [] c.last

/-- The covering lays out all of `source`, and its items are those that a scanner gives before the
end of the text. -/
structure Covers (c : Covering) (source : String) : Prop extends WellPlaced c where
  chars : c.chars = source.toList
  items : ∃ line, (Scanner.ofString source).items = c.items ++ [.token (Token.endOfFile line)]

@[simp] theorem chars_nil (last : List Char) : chars ⟨[], last⟩ = last := rfl

@[simp] theorem chars_cons (x : Span) (xs : List Span) (last : List Char) :
    chars ⟨x :: xs, last⟩ = x.gap ++ (x.text ++ chars ⟨xs, last⟩) := by
  simp [chars, Span.chars]

@[simp] theorem items_nil (last : List Char) : items ⟨[], last⟩ = [] := rfl

@[simp] theorem items_cons (x : Span) (xs : List Span) (last : List Char) :
    items ⟨x :: xs, last⟩ = x.item :: items ⟨xs, last⟩ := rfl

/-- What holds of every span and its neighbours holds of the first and of those behind it. -/
theorem forall_split_cons {x : Span} {xs : List Span} {P : List Span → Span → List Span → Prop} :
    (∀ before y after, x :: xs = before ++ y :: after → P before y after) ↔
      P [] x xs ∧ ∀ before y after, xs = before ++ y :: after → P (x :: before) y after := by
  constructor
  · intro h
    exact ⟨h [] x xs rfl, fun before y after hy => h _ y after (congrArg (x :: ·) hy)⟩
  · intro h before y after hy
    obtain ⟨hx, hxs⟩ := h
    rcases List.cons_eq_append_iff.1 hy with ⟨rfl, hy⟩ | ⟨before, rfl, hy⟩
    · obtain ⟨rfl, rfl⟩ : x = y ∧ xs = after := by simpa using hy
      exact hx
    · exact hxs before y after (List.cons.inj hy).2

theorem wellPlaced_nil {last : List Char} : WellPlaced ⟨[], last⟩ ↔ Trivia [] last :=
  ⟨fun h => h.last, fun h => ⟨by simp, h⟩⟩

theorem wellPlaced_cons {x : Span} {xs : List Span} {last : List Char} :
    WellPlaced ⟨x :: xs, last⟩ ↔ x.Fits (chars ⟨xs, last⟩) ∧ WellPlaced ⟨xs, last⟩ := by
  constructor
  · intro h
    obtain ⟨hx, hxs⟩ := forall_split_cons.1 h.spans
    exact ⟨hx, hxs, h.last⟩
  · intro h
    obtain ⟨hx, hs, hl⟩ := h
    exact ⟨forall_split_cons.2 ⟨hx, hs⟩, hl⟩

end Covering

/-! ## Trivia as pieces -/

/-- A blank or comment is a piece that is skipped. -/
theorem Trivium.piece {rest w : List Char} (h : Trivium rest w) :
    ∃ p : Piece, p.Valid ∧ p.EndsBefore rest ∧ p.text = w := by
  rcases h with h | ⟨h, he⟩
  · obtain ⟨c, hc, rfl⟩ := Grammar.mem_blank.1 h
    exact ⟨.blank c, hc, trivial, rfl⟩
  · obtain ⟨body, hb, rfl⟩ := Grammar.mem_comment.1 h
    exact ⟨.comment body, hb, he, rfl⟩

theorem Trivium.mem {rest w : List Char} (h : Trivium rest w) :
    w ∈ Grammar.blank + Grammar.comment := h.imp_right And.left

/-- What begins a text as a blank or comment is determined. -/
theorem Trivium.unique {w r v t : List Char} (hw : Trivium r w) (hv : Trivium t v)
    (h : w ++ r = v ++ t) : w = v ∧ r = t := by
  obtain ⟨p, hp, hpe, rfl⟩ := hw.piece
  obtain ⟨q, hq, hqe, rfl⟩ := hv.piece
  obtain ⟨rfl, rfl⟩ := Piece.eq_of_text_append_eq hp hpe hq hqe h
  exact ⟨rfl, rfl⟩

/-- Trivia in front of what no trivia begin are determined. -/
theorem Trivia.unique {g r g' r' : List Char} (h : Trivia r g) (h' : Trivia r' g') (hr : Solid r)
    (hr' : Solid r') (he : g ++ r = g' ++ r') : g = g' ∧ r = r' := by
  induction h generalizing g' with
  | nil =>
    cases h' with
    | nil => exact ⟨rfl, he⟩
    | cons hv _ => exact absurd ⟨_, by simpa using he.symm⟩ (hr _ hv.mem)
  | cons hw _ ih =>
    cases h' with
    | nil => exact absurd ⟨_, by simpa using he⟩ (hr' _ hw.mem)
    | cons hv h' =>
      rw [List.append_assoc, List.append_assoc] at he
      obtain ⟨rfl, hrest⟩ := hw.unique hv he
      obtain ⟨rfl, rfl⟩ := ih h' hrest
      exact ⟨rfl, rfl⟩

/-! ## A text has one covering -/

/-- The item says where its text ends. -/
theorem Item.Spells.unique {item : Item} {text rest text' rest' : List Char}
    (h : item.Spells text rest) (h' : item.Spells text' rest') (he : text ++ rest = text' ++ rest') :
    text = text' ∧ rest = rest' := by
  have key : text = text' ∨ rest = rest' := by
    cases item with
    | token t => exact .inl (String.ofList_injective (h.symm.trans h'))
    | error e =>
      obtain ⟨cause, line⟩ := e
      cases cause with
      | unexpectedCharacter c => exact .inl (h.trans h'.symm)
      | numberOutOfRange digits => exact .inl (String.ofList_injective (h.symm.trans h'))
      | unterminatedString => exact .inr (h.2.trans h'.2.symm)
  rcases key with rfl | rfl
  · exact ⟨rfl, List.append_cancel_left he⟩
  · exact ⟨List.append_cancel_right he, rfl⟩

namespace Covering

theorem WellPlaced.unique {xs xs' : List Span} {last last' : List Char}
    (h : WellPlaced ⟨xs, last⟩) (h' : WellPlaced ⟨xs', last'⟩)
    (hc : chars ⟨xs, last⟩ = chars ⟨xs', last'⟩) (hi : xs.map Span.item = xs'.map Span.item) :
    xs = xs' ∧ last = last' := by
  induction xs generalizing xs' with
  | nil =>
    obtain rfl : xs' = [] := by simpa using hi.symm
    exact ⟨rfl, hc⟩
  | cons x xs ih =>
    cases xs' with
    | nil => cases hi
    | cons x' xs' =>
      obtain ⟨hx, hxs⟩ := wellPlaced_cons.1 h
      obtain ⟨hx', hxs'⟩ := wellPlaced_cons.1 h'
      obtain ⟨hitem, hitems⟩ : x.item = x'.item ∧ xs.map Span.item = xs'.map Span.item := by
        simpa using hi
      rw [chars_cons, chars_cons] at hc
      obtain ⟨hg, hrest⟩ := hx.gap.unique hx'.gap hx.solid hx'.solid hc
      obtain ⟨ht, hrest⟩ := hx.spells.unique (hitem ▸ hx'.spells) hrest
      obtain ⟨rfl, rfl⟩ := ih hxs hxs' hrest hitems
      obtain ⟨gap, text, item⟩ := x
      obtain ⟨gap', text', item'⟩ := x'
      obtain rfl : gap = gap' := hg
      obtain rfl : text = text' := ht
      obtain rfl : item = item' := hitem
      exact ⟨rfl, rfl⟩

/-- **A text has one covering.** -/
theorem Covers.unique {c c' : Covering} {source : String} (h : c.Covers source)
    (h' : c'.Covers source) : c = c' := by
  obtain ⟨line, hl⟩ := h.items
  obtain ⟨line', hl'⟩ := h'.items
  have hi : c.items = c'.items := (List.append_inj' (hl.symm.trans hl') rfl).1
  obtain ⟨hs, hlast⟩ :=
    h.toWellPlaced.unique h'.toWellPlaced (h.chars.trans h'.chars.symm) hi
  cases c
  cases c'
  simp_all

end Covering

end LoxLexer
