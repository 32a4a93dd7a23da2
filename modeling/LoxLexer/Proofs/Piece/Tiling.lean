import LoxLexer.Proofs.Piece.Boundary

/-! # All pieces of a text

`Piece.pieces` cuts a text up to its end. The pieces of a text are the only valid ones that write
it down and of which none is continued by the next (`pieces_eq_iff`), so that a claim about how
another text is cut is a claim about the borders of its pieces.
-/

set_option autoImplicit false

namespace LoxLexer.Piece

/-- All pieces of a text, in order. -/
def pieces : List Char → List Piece
  | [] => []
  | c :: cs => (cut c cs).1 :: pieces (cut c cs).2
termination_by cs => cs.length
decreasing_by exact length_cut_lt c cs

/-- What pieces in a row write down. -/
def textOf (ps : List Piece) : List Char := ps.flatMap text

/-- Every piece is valid, and none is continued by what follows it. -/
def Tiles : List Piece → Prop
  | [] => True
  | p :: ps => p.Valid ∧ p.EndsBefore (textOf ps) ∧ Tiles ps

@[simp] theorem textOf_nil : textOf [] = [] := rfl

@[simp] theorem textOf_cons (p : Piece) (ps : List Piece) :
    textOf (p :: ps) = p.text ++ textOf ps := rfl

@[simp] theorem textOf_append (ps qs : List Piece) : textOf (ps ++ qs) = textOf ps ++ textOf qs :=
  List.flatMap_append

@[simp] theorem pieces_nil : pieces [] = [] := by rw [pieces]

theorem pieces_cons (c : Char) (cs : List Char) :
    pieces (c :: cs) = (cut c cs).1 :: pieces (cut c cs).2 := by rw [pieces]

theorem textOf_pieces (cs : List Char) : textOf (pieces cs) = cs := by
  fun_induction pieces cs with
  | case1 => rfl
  | case2 c cs ih => rw [textOf_cons, ih, text_append_cut]

theorem tiles_pieces (cs : List Char) : Tiles (pieces cs) := by
  fun_induction pieces cs with
  | case1 => trivial
  | case2 c cs ih =>
    obtain ⟨hv, he⟩ := valid_cut c cs
    exact ⟨hv, by rwa [textOf_pieces], ih⟩

theorem pieces_textOf {ps : List Piece} (h : Tiles ps) : pieces (textOf ps) = ps := by
  induction ps with
  | nil => exact pieces_nil
  | cons p ps ih =>
    obtain ⟨hv, he, ht⟩ := h
    obtain ⟨c, cs, hc, hcut⟩ := exists_cut hv he
    rw [textOf_cons, hc, pieces_cons, hcut, ih ht]

/-- **The pieces of a text** are the only valid ones that write it down and of which none is
continued by the next. -/
theorem pieces_eq_iff {cs : List Char} {ps : List Piece} :
    pieces cs = ps ↔ Tiles ps ∧ textOf ps = cs := by
  constructor
  · intro h
    subst h
    exact ⟨tiles_pieces cs, textOf_pieces cs⟩
  · intro h
    obtain ⟨ht, rfl⟩ := h
    exact pieces_textOf ht

end LoxLexer.Piece
