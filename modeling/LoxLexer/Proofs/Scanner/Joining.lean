import LoxLexer.Proofs.Piece.Joining
import LoxLexer.Proofs.Scanner.Shift

/-! # Texts joined by the end of a line

The end of a line closes every piece but a string that is left open. A text that leaves no string
open therefore scans the same in front of further lines, and these scan as if they stood alone,
further down (`scan_append_newline`).
-/

set_option autoImplicit false

namespace LoxLexer

namespace Piece

/-- A string left open is an error on the last line. -/
theorem mem_itemsFrom_of_openString {ps : List Piece} {body : List Char} (h : openString body ∈ ps)
    (line : Nat) : ∃ last, .error ⟨.unterminatedString, last⟩ ∈ itemsFrom line ps := by
  obtain ⟨before, after, rfl⟩ := List.append_of_mem h
  exact ⟨_, mem_itemsFrom.2 ⟨before, openString body, after, rfl, rfl⟩⟩

theorem pieces_append_newline {cs : List Char}
    (hclosed : ∀ p ∈ pieces cs, ∀ body, p ≠ openString body) (ds : List Char) :
    pieces (cs ++ '\n' :: ds) = pieces cs ++ blank '\n' :: pieces ds := by
  have hends : ∀ p ∈ pieces cs, p.EndsBefore ('\n' :: ds) :=
    fun p hp => endsBefore_newline (hclosed p hp) ds
  rw [pieces_append hends (by simp), pieces_blank rfl]

/-- Behind the end of a line, items are those of a fresh text, further down. -/
theorem itemsFrom_append_newline {cs : List Char}
    (hclosed : ∀ p ∈ pieces cs, ∀ body, p ≠ openString body) (ds : List Char) :
    itemsFrom 1 (pieces (cs ++ '\n' :: ds)) = itemsFrom 1 (pieces cs) ++
      (itemsFrom 1 (pieces ds)).map (Item.shift (1 + cs.count '\n')) := by
  have hlines : lines (pieces cs) = cs.count '\n' := by rw [lines, textOf_pieces]
  have hone : (blank '\n').newlines = 1 := rfl
  rw [pieces_append_newline hclosed, itemsFrom_append, hlines, itemsFrom_skip rfl, hone,
    ← itemsFrom_shift]
  congr 2
  omega

end Piece

/-- A text whose errors are none of open strings has no piece left open. -/
theorem ne_openString_of_errors {source : String}
    (h : ∀ e ∈ (scan source).errors, e.cause ≠ .unterminatedString) :
    ∀ p ∈ Piece.pieces source.toList, ∀ body, p ≠ .openString body := by
  rintro p hp body rfl
  obtain ⟨last, hlast⟩ := Piece.mem_itemsFrom_of_openString hp 1
  rw [errors_scan] at h
  exact h _ (List.mem_filterMap.2 ⟨_, hlast, rfl⟩) rfl

/-- **Scanning is compositional at the ends of lines**: a text that leaves no string open, the end
of a line and another text have the tokens and the errors of the first text and, so many lines
further down, those of the second. -/
theorem scan_append_newline {a b : String}
    (h : ∀ e ∈ (scan a).errors, e.cause ≠ .unterminatedString) :
    (scan (a ++ "\n" ++ b)).tokens =
        (scan a).proper ++ (scan b).tokens.map (Token.shift (1 + a.toList.count '\n')) ∧
      (scan (a ++ "\n" ++ b)).errors =
        (scan a).errors ++ (scan b).errors.map (LexError.shift (1 + a.toList.count '\n')) := by
  have hchars : (a ++ "\n" ++ b).toList = a.toList ++ '\n' :: b.toList := by simp
  have hitems := Piece.itemsFrom_append_newline (ne_openString_of_errors h) b.toList
  constructor
  · have hend : 1 + (a.toList ++ '\n' :: b.toList).count '\n' =
        1 + b.toList.count '\n' + (1 + a.toList.count '\n') := by
      rw [List.count_append, List.count_cons_self]
      omega
    rw [tokens_scan, hchars, hitems, hend, List.filterMap_append, Item.filterMap_token?_shift,
      proper_scan, tokens_scan, List.map_append, List.append_assoc]
    rfl
  · rw [errors_scan, hchars, hitems, List.filterMap_append, Item.filterMap_error?_shift,
      errors_scan, errors_scan]

/-- A stray character, a point behind a number and a comment with a quote, and then a string left
open. -/
theorem scan_append_newline_behind_comment :
    let a := "@\n1.//\""
    let b := "=\"c"
    (∀ e ∈ (scan a).errors, e.cause ≠ .unterminatedString) ∧
      (scan (a ++ "\n" ++ b)).tokens =
        (scan a).proper ++ (scan b).tokens.map (Token.shift (1 + a.toList.count '\n')) ∧
      (scan (a ++ "\n" ++ b)).errors =
        (scan a).errors ++ (scan b).errors.map (LexError.shift (1 + a.toList.count '\n')) := by
  intro a b
  have h : ∀ e ∈ (scan a).errors, e.cause ≠ .unterminatedString := by decide +kernel
  exact ⟨h, scan_append_newline h⟩

end LoxLexer
