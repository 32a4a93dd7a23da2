import LoxLexer.Proofs.Covering.Basic
import LoxLexer.Proofs.Scanner.Items

/-! # The covering of a text

`Covering.ofPieces` lays out pieces in a row: a piece that stands for an item is a span, and the
pieces that are skipped go into the gap in front of the next one. Laid out in this way, the pieces
of a text cover it.

* `covers_ofSource`: every text is covered.
* `exists_covers`: no character of a text is lost, taken twice or moved.
-/

set_option autoImplicit false

namespace LoxLexer

namespace Covering

/-- More trivia in front of the first span. -/
def skip (w : List Char) (c : Covering) : Covering :=
  match c.spans with
  | [] => ⟨[], w ++ c.last⟩
  | x :: xs => ⟨{ x with gap := w ++ x.gap } :: xs, c.last⟩

/-- Pieces in a row, the first of which starts on `line`. -/
def ofPieces (line : Nat) : List Piece → Covering
  | [] => ⟨[], []⟩
  | p :: ps =>
    let behind := ofPieces (line + p.newlines) ps
    match p.item? line (line + p.newlines) with
    | none => behind.skip p.text
    | some item => ⟨⟨[], p.text, item⟩ :: behind.spans, behind.last⟩

/-- The pieces of a text. -/
def ofSource (source : String) : Covering := ofPieces 1 (Piece.pieces source.toList)

theorem ofPieces_skip {p : Piece} {line : Nat} (h : p.item? line (line + p.newlines) = none)
    (ps : List Piece) : ofPieces line (p :: ps) = (ofPieces (line + p.newlines) ps).skip p.text := by
  simp [ofPieces, h]

theorem ofPieces_item {p : Piece} {line : Nat} {item : Item}
    (h : p.item? line (line + p.newlines) = some item) (ps : List Piece) :
    ofPieces line (p :: ps) = ⟨⟨[], p.text, item⟩ :: (ofPieces (line + p.newlines) ps).spans,
      (ofPieces (line + p.newlines) ps).last⟩ := by
  simp [ofPieces, h]

@[simp] theorem chars_skip (w : List Char) (c : Covering) : (c.skip w).chars = w ++ c.chars := by
  obtain ⟨xs, last⟩ := c
  cases xs <;> simp [skip]

@[simp] theorem items_skip (w : List Char) (c : Covering) : (c.skip w).items = c.items := by
  obtain ⟨xs, last⟩ := c
  cases xs <;> simp [skip]

theorem chars_ofPieces (line : Nat) (ps : List Piece) :
    (ofPieces line ps).chars = Piece.textOf ps := by
  induction ps generalizing line with
  | nil => rfl
  | cons p ps ih =>
    cases h : p.item? line (line + p.newlines) with
    | none => rw [ofPieces_skip h, chars_skip, ih, Piece.textOf_cons]
    | some item => rw [ofPieces_item h, chars_cons, ih, Piece.textOf_cons, List.nil_append]

theorem items_ofPieces (line : Nat) (ps : List Piece) :
    (ofPieces line ps).items = Piece.itemsFrom line ps := by
  induction ps generalizing line with
  | nil => rfl
  | cons p ps ih =>
    cases h : p.item? line (line + p.newlines) with
    | none => rw [ofPieces_skip h, items_skip, ih, Piece.itemsFrom_skip h]
    | some item => rw [ofPieces_item h, items_cons, ih, Piece.itemsFrom_item h]

/-! ## Pieces are well placed -/

theorem WellPlaced.skip {c : Covering} {w : List Char} (h : c.WellPlaced)
    (hw : Trivium c.chars w) : (c.skip w).WellPlaced := by
  obtain ⟨xs, last⟩ := c
  cases xs with
  | nil =>
    have hl : Trivia [] (w ++ last) := .cons (by simpa using hw) (wellPlaced_nil.1 h)
    exact wellPlaced_nil.2 hl
  | cons x xs =>
    obtain ⟨hx, hxs⟩ := wellPlaced_cons.1 h
    refine wellPlaced_cons.2 ⟨⟨?_, hx.solid, hx.nonempty, hx.spells⟩, hxs⟩
    exact .cons (by simpa using hw) hx.gap

end Covering

namespace Piece

/-- Where a blank or a comment begins a text, a piece is skipped. -/
theorem item?_of_trivia_prefix {w : List Char} {c : Char} {cs : List Char}
    (hw : w ∈ Grammar.blank + Grammar.comment) (hp : w <+: c :: cs) (first last : Nat) :
    (cut c cs).1.item? first last = none := by
  rcases hw with hw | hw
  · obtain ⟨d, hd, rfl⟩ := Grammar.mem_blank.1 hw
    obtain ⟨rfl, -⟩ := List.cons_prefix_cons.1 hp
    rw [cut_blank hd]
    rfl
  · obtain ⟨body, hb, rfl⟩ := Grammar.mem_comment.1 hw
    obtain ⟨rfl, t, rfl⟩ := List.cons_prefix_cons.1 hp
    rfl

theorem trivium_of_item? {p : Piece} {rest : List Char} (hv : p.Valid) (he : p.EndsBefore rest)
    {first last : Nat} (h : p.item? first last = none) : Trivium rest p.text := by
  cases p with
  | blank c => exact .inl (Grammar.mem_blank.2 ⟨c, hv, rfl⟩)
  | comment body => exact .inr ⟨Grammar.mem_comment.2 ⟨body, hv, rfl⟩, he⟩
  | _ => cases h

theorem spells_item? {p : Piece} {rest : List Char} (hv : p.Valid) (he : p.EndsBefore rest)
    {first last : Nat} {item : Item} (h : p.item? first last = some item) :
    item.Spells p.text rest := by
  cases p with
  | number whole fraction =>
    cases h
    cases (Decimal.read whole fraction).nearest? <;> rfl
  | openString body => cases h; exact ⟨⟨body, hv, rfl⟩, he⟩
  | _ => cases h <;> rfl

end Piece

namespace Covering

theorem wellPlaced_ofPieces {ps : List Piece} (h : Piece.Tiles ps) (line : Nat) :
    (ofPieces line ps).WellPlaced := by
  induction ps generalizing line with
  | nil => exact wellPlaced_nil.2 .nil
  | cons p ps ih =>
    obtain ⟨hv, he, ht⟩ := h
    cases hi : p.item? line (line + p.newlines) with
    | none =>
      rw [ofPieces_skip hi]
      refine (ih ht _).skip ?_
      rw [chars_ofPieces]
      exact Piece.trivium_of_item? hv he hi
    | some item =>
      rw [ofPieces_item hi]
      refine wellPlaced_cons.2 ⟨⟨.nil, ?_, Piece.text_ne_nil hv, ?_⟩, ih ht _⟩
      · intro w hw hp
        obtain ⟨c, cs, hc, hcut⟩ := Piece.exists_cut hv he
        rw [chars_ofPieces, hc] at hp
        have hn := Piece.item?_of_trivia_prefix hw hp line (line + p.newlines)
        rw [hcut, hi] at hn
        cases hn
      · rw [chars_ofPieces]
        exact Piece.spells_item? hv he hi

/-- Every text is covered. -/
theorem covers_ofSource (source : String) : (ofSource source).Covers source where
  toWellPlaced := wellPlaced_ofPieces (Piece.tiles_pieces _) 1
  chars := by rw [ofSource, chars_ofPieces, Piece.textOf_pieces]
  items := by
    rw [ofSource, items_ofPieces]
    exact ⟨_, Scanner.items_eq (Scanner.ofString source) rfl⟩

/-- **No character of a text is lost, taken twice or moved**: every text has a covering, none of
its items is the end of the text, and a scan splits them into tokens, the end of the text behind
them, and errors. -/
theorem exists_covers (source : String) :
    ∃ c : Covering, c.Covers source ∧ (∀ item ∈ c.items, item.isEnd = false) ∧
      ∃ line, (scan source).tokens = c.items.filterMap Item.token? ++ [Token.endOfFile line] ∧
        (scan source).errors = c.items.filterMap Item.error? := by
  have hi : (ofSource source).items = Piece.itemsFrom 1 (Piece.pieces source.toList) :=
    items_ofPieces 1 _
  refine ⟨ofSource source, covers_ofSource source, ?_, 1 + source.toList.count '\n', ?_, ?_⟩
  · rw [hi]
    exact fun item => Piece.isEnd_of_mem_itemsFrom
  · rw [hi, tokens_scan]
  · rw [hi, errors_scan]

end Covering

end LoxLexer
