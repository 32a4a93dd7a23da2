import LoxLexer.Proofs.Piece.Joining
import LoxLexer.Proofs.Scanner.Items

/-! # Lexemes

A lexeme is a text that scans, alone, to one token. Lexemes are what valid pieces with a kind write
down (`isLexeme_iff`), and every token of a scan but the end of the text carries one, of its own
kind (`isLexeme_of_mem_proper`): what a token is depends on nothing but its text.
-/

set_option autoImplicit false

namespace LoxLexer

/-! ## The kind of a piece -/

namespace Piece

/-- The kind of the token that a piece stands for, if it stands for one. -/
def kind? : Piece → Option TokenKind
  | operator op => some (.operator op)
  | word letters => some (.ofWord letters)
  | number whole fraction => (Decimal.read whole fraction).nearest?.map .number
  | string body => some (.string (String.ofList body))
  | blank _ | comment _ | openString _ | stray _ => none

theorem numberItem_eq_token_iff {text : String} {line : Nat} {value : Option Binary64} {t : Token} :
    numberItem text line value = .token t ↔
      value.map .number = some t.kind ∧ t.lexeme = text ∧ t.line = line := by
  obtain ⟨kind, lexeme, line'⟩ := t
  cases value with
  | none => simp [numberItem]
  | some x => simp [numberItem, eq_comm]

/-- A token has the kind and the text of its piece. -/
theorem item?_eq_token_iff {p : Piece} {first last : Nat} {t : Token} :
    p.item? first last = some (.token t) ↔
      p.kind? = some t.kind ∧ t.lexeme = String.ofList p.text ∧ t.line = first := by
  cases p with
  | number whole fraction => exact Option.some_inj.trans numberItem_eq_token_iff
  | _ =>
    obtain ⟨kind, lexeme, line⟩ := t
    simp [item?, kind?, eq_comm]

theorem item?_of_kind? {p : Piece} {kind : TokenKind} (h : p.kind? = some kind) (first last : Nat) :
    p.item? first last = some (.token ⟨kind, String.ofList p.text, first⟩) :=
  item?_eq_token_iff.2 ⟨h, rfl, rfl⟩

/-- No piece is the end of the text. -/
theorem kind?_ne_endOfFile (p : Piece) : p.kind? ≠ some .endOfFile := by
  intro h
  have hend := isEnd_of_item? (item?_of_kind? h 1 1)
  simp [Item.isEnd, Token.isEndOfFile] at hend

/-- A blank and a comma end every piece with a kind. -/
theorem endsBefore_of_kind? {p : Piece} {kind : TokenKind} (h : p.kind? = some kind) {c : Char}
    (hc : stops c = true) (cs : List Char) : p.EndsBefore (c :: cs) := by
  refine endsBefore_of_stops hc ?_ ?_ cs
  · rintro body rfl
    cases h
  · rintro body rfl
    cases h

theorem Tiles.valid {ps : List Piece} (h : Tiles ps) : ∀ p ∈ ps, p.Valid := by
  induction ps with
  | nil => simp
  | cons p ps ih =>
    obtain ⟨hv, -, ht⟩ := h
    exact List.forall_mem_cons.2 ⟨hv, ih ht⟩

end Piece

/-- The tokens among the items of a text are those of its valid pieces. -/
theorem piece_of_token_mem {cs : List Char} {line : Nat} {t : Token}
    (h : .token t ∈ Piece.itemsFrom line (Piece.pieces cs)) :
    ∃ p : Piece, p.Valid ∧ p.kind? = some t.kind ∧ t.lexeme = String.ofList p.text := by
  obtain ⟨before, p, after, hps, hp⟩ := Piece.mem_itemsFrom.1 h
  obtain ⟨hkind, hlexeme, -⟩ := Piece.item?_eq_token_iff.1 hp
  have hmem : p ∈ Piece.pieces cs := by simp [hps]
  exact ⟨p, (Piece.tiles_pieces cs).valid p hmem, hkind, hlexeme⟩

/-! ## Lexemes -/

/-- What a token is, wherever it stands. -/
def Token.face (t : Token) : TokenKind × String := (t.kind, t.lexeme)

/-- The text `w`, alone, is a token of this kind and nothing else. -/
def IsLexeme (kind : TokenKind) (w : String) : Prop :=
  (scan w).errors = [] ∧ ∃ first last, (scan w).tokens = [⟨kind, w, first⟩, Token.endOfFile last]

namespace Piece

variable {p : Piece} {kind : TokenKind} {w : String}

/-- A valid piece with a kind is one token, and what stands behind it scans as if it stood alone. -/
theorem itemsFrom_text_append (hv : p.Valid) (hkind : p.kind? = some kind)
    (htext : p.text = w.toList) {rest : List Char} (he : p.EndsBefore rest) (line : Nat) :
    itemsFrom line (pieces (w.toList ++ rest)) =
      .token ⟨kind, w, line⟩ :: itemsFrom (line + w.toList.count '\n') (pieces rest) := by
  rw [← htext, pieces_text_append hv he, itemsFrom_item (item?_of_kind? hkind line _), htext,
    String.ofList_toList]
  rw [newlines, htext]

theorem itemsFrom_text (hv : p.Valid) (hkind : p.kind? = some kind)
    (htext : p.text = w.toList) (line : Nat) :
    itemsFrom line (pieces w.toList) = [.token ⟨kind, w, line⟩] := by
  have h := itemsFrom_text_append hv hkind htext (endsBefore_nil p) line
  rwa [List.append_nil, pieces_nil] at h

end Piece

/-- **Lexemes are what valid pieces with a kind write down.** -/
theorem isLexeme_iff {kind : TokenKind} {w : String} :
    IsLexeme kind w ↔ ∃ p : Piece, p.Valid ∧ p.kind? = some kind ∧ p.text = w.toList := by
  constructor
  · intro h
    obtain ⟨-, first, last, htokens⟩ := h
    have hmem : (⟨kind, w, first⟩ : Token) ∈ (scan w).proper := by
      have hsplit : (scan w).proper ++ [Token.endOfFile (1 + w.toList.count '\n')] =
          [⟨kind, w, first⟩] ++ [Token.endOfFile last] := by rw [← tokens_eq_proper, htokens]; rfl
      rw [(List.append_inj' hsplit rfl).1]
      exact List.mem_singleton_self _
    rw [proper_scan, Item.mem_filterMap_token?] at hmem
    obtain ⟨p, hv, hkind, hlexeme⟩ := piece_of_token_mem hmem
    refine ⟨p, hv, hkind, ?_⟩
    rw [show w = String.ofList p.text from hlexeme, String.toList_ofList]
  · intro h
    obtain ⟨p, hv, hkind, htext⟩ := h
    have hitems := Piece.itemsFrom_text hv hkind htext 1
    refine ⟨?_, 1, 1 + w.toList.count '\n', ?_⟩
    · rw [errors_scan, hitems]
      rfl
    · rw [tokens_scan, hitems]
      rfl

/-- **Every token stands alone**: its text is a lexeme of its kind. -/
theorem isLexeme_of_mem_proper {source : String} {t : Token} (h : t ∈ (scan source).proper) :
    IsLexeme t.kind t.lexeme := by
  rw [proper_scan, Item.mem_filterMap_token?] at h
  obtain ⟨p, hv, hkind, hlexeme⟩ := piece_of_token_mem h
  exact isLexeme_iff.2 ⟨p, hv, hkind, by rw [hlexeme, String.toList_ofList]⟩

end LoxLexer
