import LoxLexer.Proofs.Covering.Pieces
import LoxLexer.Proofs.LongestMatch
import LoxLexer.Proofs.Piece.Joining

/-! # How a text is laid out

`Covering.Laid line c` says of each span of `c` which piece it is, that what follows does not
continue the piece, and that the piece stands for the item where it is; the text starts on `line`.
A covering is laid out in this way if and only if it covers its text (`covers_iff_laid`). So that
another text is covered, too, is shown span by span, with no word about scanners.
-/

set_option autoImplicit false

namespace LoxLexer

/-! ## Blanks in trivia -/

theorem Trivia.blank {c : Char} (hc : Piece.isBlank c = true) {rest g : List Char}
    (h : Trivia rest g) : Trivia rest (c :: g) :=
  .cons (.inl (Grammar.mem_blank.2 ⟨c, hc, rfl⟩)) h

theorem Trivia.blanks {w rest g : List Char} (hw : ∀ c ∈ w, Piece.isBlank c = true)
    (h : Trivia rest g) : Trivia rest (w ++ g) := by
  induction w with
  | nil => exact h
  | cons c w ih =>
    obtain ⟨hc, hw⟩ := List.forall_mem_cons.1 hw
    exact (ih hw).blank hc

namespace Covering

/-! ## Pieces behind trivia -/

@[simp] theorem skip_nil (c : Covering) : c.skip [] = c := by
  obtain ⟨xs, last⟩ := c
  cases xs <;> rfl

theorem skip_append (v w : List Char) (c : Covering) : c.skip (v ++ w) = (c.skip w).skip v := by
  obtain ⟨xs, last⟩ := c
  cases xs <;> simp [skip]

/-- Trivia in front of a text go into the gap of its first item. -/
theorem ofPieces_trivia {rest g : List Char} (h : Trivia rest g) (line : Nat) :
    ofPieces line (Piece.pieces (g ++ rest)) =
      (ofPieces (line + g.count '\n') (Piece.pieces rest)).skip g := by
  induction h generalizing line with
  | nil => simp
  | @cons w g hw _ ih =>
    obtain ⟨p, hv, he, rfl⟩ := hw.piece
    have hskip : p.item? line (line + p.newlines) = none :=
      (Piece.item?_eq_none_iff hv).2 hw.mem
    rw [List.append_assoc, Piece.pieces_text_append hv he, ofPieces_skip hskip, ih, skip_append,
      List.count_append, Nat.add_assoc]
    rfl

/-! ## Span by span -/

/-- The spans of the covering are pieces that stand for their items, the first gap starting on
`line`. -/
inductive Laid : Nat → Covering → Prop
  | nil {line : Nat} {last : List Char} : Trivia [] last → Laid line ⟨[], last⟩
  | cons {line : Nat} {gap : List Char} {p : Piece} {item : Item} {xs : List Span}
      {last : List Char} :
      Trivia (p.text ++ chars ⟨xs, last⟩) gap → p.Valid → p.EndsBefore (chars ⟨xs, last⟩) →
      p.item? (line + gap.count '\n') (line + gap.count '\n' + p.newlines) = some item →
      Laid (line + gap.count '\n' + p.newlines) ⟨xs, last⟩ →
        Laid line ⟨⟨gap, p.text, item⟩ :: xs, last⟩

theorem Laid.skip {line : Nat} {w : List Char} {c : Covering} (hw : Trivium c.chars w)
    (h : Laid (line + w.count '\n') c) : Laid line (c.skip w) := by
  cases h with
  | nil hl => exact .nil (.cons (by simpa using hw) hl)
  | cons hg hv he hi hxs =>
    rw [Nat.add_assoc line, ← List.count_append] at hi hxs
    exact .cons (.cons (by simpa using hw) hg) hv he hi hxs

theorem laid_ofPieces {ps : List Piece} (h : Piece.Tiles ps) (line : Nat) :
    Laid line (ofPieces line ps) := by
  induction ps generalizing line with
  | nil => exact .nil .nil
  | cons p ps ih =>
    obtain ⟨hv, he, ht⟩ := h
    have hbehind : (ofPieces (line + p.newlines) ps).chars = Piece.textOf ps := chars_ofPieces _ ps
    cases hi : p.item? line (line + p.newlines) with
    | none =>
      rw [ofPieces_skip hi]
      refine Laid.skip ?_ (ih ht _)
      rw [hbehind]
      exact Piece.trivium_of_item? hv he hi
    | some item =>
      rw [ofPieces_item hi]
      exact .cons .nil hv (hbehind ▸ he) hi (ih ht _)

/-- A layout is what the pieces of its text are laid out as. -/
theorem Laid.ofPieces_eq {line : Nat} {c : Covering} (h : Laid line c) :
    ofPieces line (Piece.pieces c.chars) = c := by
  induction h with
  | @nil line last hl =>
    have h := ofPieces_trivia hl line
    simpa [ofPieces, Covering.skip] using h
  | @cons line gap p item xs last hg hv he hi _ ih =>
    rw [chars_cons, ofPieces_trivia hg, Piece.pieces_text_append hv he, ofPieces_item hi, ih]
    simp [Covering.skip]

/-- **A covering covers its text** if and only if it is laid out span by span. -/
theorem covers_iff_laid {c : Covering} {source : String} :
    c.Covers source ↔ c.chars = source.toList ∧ Laid 1 c := by
  constructor
  · intro h
    obtain rfl := h.unique (covers_ofSource source)
    exact ⟨h.chars, laid_ofPieces (Piece.tiles_pieces _) 1⟩
  · intro h
    obtain ⟨hc, hl⟩ := h
    have hsource : ofSource source = c := by rw [ofSource, ← hc, hl.ofPieces_eq]
    exact hsource ▸ covers_ofSource source

end Covering

end LoxLexer
