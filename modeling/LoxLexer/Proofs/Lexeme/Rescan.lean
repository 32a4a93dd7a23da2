import LoxLexer.Proofs.Covering.Layout
import LoxLexer.Proofs.Lexeme.Basic

/-! # Writing lexemes down and scanning them again

Lexemes that are separated by blanks and comments come back from a scan unchanged
(`Separated.scan`), whatever the comments say and whatever strings contain. As every token of a scan
carries a lexeme, writing down its lexemes with blanks between them and scanning them again gives
the same kinds and lexemes (`rescan`).
-/

set_option autoImplicit false

namespace LoxLexer

/-! ## Separators -/

/-- Trivia give no items. -/
theorem Trivia.itemsFrom {rest g : List Char} (h : Trivia rest g) (line : Nat) :
    Piece.itemsFrom line (Piece.pieces (g ++ rest)) =
      Piece.itemsFrom (line + g.count '\n') (Piece.pieces rest) := by
  rw [← Covering.items_ofPieces, Covering.ofPieces_trivia h, Covering.items_skip,
    Covering.items_ofPieces]

namespace Grammar

open Computability

/-- A blank, and then blanks and comments that end with their line. -/
def separator : Language Char := blank * (blank + comment * oneOf {'\n'})∗

theorem mem_comment_mul_newline {w : List Char} :
    w ∈ comment * oneOf {'\n'} ↔ ∃ body, '\n' ∉ body ∧ w = ('/' :: '/' :: body) ++ ['\n'] := by
  rw [Language.mem_mul]
  constructor
  · intro h
    obtain ⟨v, hv, -, ⟨-, rfl, rfl⟩, rfl⟩ := h
    obtain ⟨body, hb, rfl⟩ := mem_comment.1 hv
    exact ⟨body, hb, rfl⟩
  · intro h
    obtain ⟨body, hb, rfl⟩ := h
    exact ⟨_, mem_comment.2 ⟨body, hb, rfl⟩, _, ⟨'\n', rfl, rfl⟩, rfl⟩

/-- Blanks and comments that end with their line are trivia in front of every text. -/
theorem trivia_flatten {parts : List (List Char)}
    (h : ∀ part ∈ parts, part ∈ blank + comment * oneOf {'\n'}) (rest : List Char) :
    Trivia rest parts.flatten := by
  induction parts with
  | nil => exact .nil
  | cons part parts ih =>
    obtain ⟨hpart, hparts⟩ := List.forall_mem_cons.1 h
    have hrest := ih hparts
    rw [List.flatten_cons]
    rcases hpart with hpart | hpart
    · obtain ⟨c, hc, rfl⟩ := mem_blank.1 hpart
      exact hrest.blank hc
    · obtain ⟨body, hb, rfl⟩ := mem_comment_mul_newline.1 hpart
      rw [List.append_assoc]
      refine .cons (.inr ⟨mem_comment.2 ⟨body, hb, rfl⟩, ?_⟩) (hrest.blank rfl)
      simp

/-- A separator starts with a blank and is trivia in front of every text. -/
theorem trivia_of_mem_separator {w : List Char} (h : w ∈ separator) :
    (∃ c g, Piece.isBlank c = true ∧ w = c :: g) ∧ ∀ rest, Trivia rest w := by
  obtain ⟨v, hv, g, hg, rfl⟩ := Language.mem_mul.1 h
  obtain ⟨c, hc, rfl⟩ := mem_blank.1 hv
  obtain ⟨parts, rfl, hparts⟩ := Language.mem_kstar.1 hg
  exact ⟨⟨c, parts.flatten, hc, rfl⟩, fun rest => (trivia_flatten hparts rest).blank hc⟩

/-- A single blank separates. -/
theorem mem_separator_of_isBlank {c : Char} (hc : Piece.isBlank c = true) : [c] ∈ separator :=
  Language.mem_mul.2 ⟨[c], mem_blank.2 ⟨c, hc, rfl⟩, [], Language.nil_mem_kstar _, rfl⟩

end Grammar

/-! ## Separated lexemes -/

/-- Lexemes in a row, each with its kind. A separator stands behind each of them; behind the last
one it may be missing. -/
inductive Separated : List Char → List (TokenKind × String) → Prop
  | nil : Separated [] []
  | single {kind : TokenKind} {w : String} : IsLexeme kind w → Separated w.toList [(kind, w)]
  | cons {kind : TokenKind} {w : String} {sep text : List Char} {xs : List (TokenKind × String)} :
      IsLexeme kind w → sep ∈ Grammar.separator → Separated text xs →
        Separated (w.toList ++ (sep ++ text)) ((kind, w) :: xs)

/-- The items of separated lexemes are one token for each. -/
theorem Separated.itemsFrom {text : List Char} {xs : List (TokenKind × String)}
    (h : Separated text xs) (line : Nat) : ∃ ts : List Token,
      Piece.itemsFrom line (Piece.pieces text) = ts.map Item.token ∧ ts.map Token.face = xs := by
  induction h generalizing line with
  | nil => exact ⟨[], by simp, rfl⟩
  | @single kind w hw =>
    obtain ⟨p, hv, hkind, htext⟩ := isLexeme_iff.1 hw
    exact ⟨[⟨kind, w, line⟩], Piece.itemsFrom_text hv hkind htext line, rfl⟩
  | @cons kind w sep text xs hw hsep _ ih =>
    obtain ⟨p, hv, hkind, htext⟩ := isLexeme_iff.1 hw
    obtain ⟨⟨c, g, hc, hcg⟩, htrivia⟩ := Grammar.trivia_of_mem_separator hsep
    have hends : p.EndsBefore (sep ++ text) := by
      rw [hcg]
      exact Piece.endsBefore_of_kind? hkind (Piece.stops_of_isBlank hc) (g ++ text)
    obtain ⟨ts, hts, hfaces⟩ := ih (line + w.toList.count '\n' + sep.count '\n')
    refine ⟨⟨kind, w, line⟩ :: ts, ?_, by rw [List.map_cons, hfaces]; rfl⟩
    rw [Piece.itemsFrom_text_append hv hkind htext hends, (htrivia text).itemsFrom, hts,
      List.map_cons]

/-- **Separated lexemes come back from a scan** with their kinds, and with no errors. -/
theorem Separated.scan {source : String} {xs : List (TokenKind × String)}
    (h : Separated source.toList xs) : (scan source).errors = [] ∧
      (scan source).tokens.map Token.face = xs ++ [(.endOfFile, "")] := by
  obtain ⟨ts, hts, hfaces⟩ := h.itemsFrom 1
  constructor
  · rw [errors_scan, hts]
    exact Item.filterMap_error?_map ts
  · rw [tokens_scan, hts, Item.filterMap_token?_map, List.map_append, hfaces]
    rfl

/-! ## Writing lexemes down -/

/-- A lexeme with a separator behind it. -/
structure SeparatedLexeme where
  kind : TokenKind
  lexeme : String
  separator : String
  isLexeme : IsLexeme kind lexeme
  separates : separator.toList ∈ Grammar.separator

namespace SeparatedLexeme

def text (x : SeparatedLexeme) : String := x.lexeme ++ x.separator

def face (x : SeparatedLexeme) : TokenKind × String := (x.kind, x.lexeme)

theorem separated_join (xs : List SeparatedLexeme) :
    Separated (String.join (xs.map text)).toList (xs.map face) := by
  induction xs with
  | nil => exact .nil
  | cons x xs ih =>
    have h := Separated.cons x.isLexeme x.separates ih
    rw [List.map_cons, String.join_cons, text, String.toList_append, String.toList_append,
      List.append_assoc]
    exact h

end SeparatedLexeme

/-- The lexemes of tokens with a space between each two. -/
def spaced (ts : List Token) : String := " ".intercalate (ts.map Token.lexeme)

theorem separated_spaced {ts : List Token} (h : ∀ t ∈ ts, IsLexeme t.kind t.lexeme) :
    Separated (spaced ts).toList (ts.map Token.face) := by
  induction ts with
  | nil => exact .nil
  | cons t ts ih =>
    obtain ⟨ht, hts⟩ := List.forall_mem_cons.1 h
    cases ts with
    | nil =>
      have hw : spaced [t] = t.lexeme := String.intercalate_singleton
      rw [hw]
      exact .single ht
    | cons u ts =>
      have hw : spaced (t :: u :: ts) = t.lexeme ++ " " ++ spaced (u :: ts) :=
        String.intercalate_cons_cons
      rw [hw, String.toList_append, String.toList_append, List.append_assoc]
      exact .cons ht (Grammar.mem_separator_of_isBlank rfl) (ih hts)

/-- **Lexemes and scans determine each other**: the text of every token of a scan is a lexeme of
its kind, lexemes with separators behind them scan to just these lexemes and kinds without errors,
and so the lexemes of every scan, with spaces between them, scan to the same kinds and lexemes. -/
theorem rescan :
    (∀ source, ∀ t ∈ (scan source).proper, IsLexeme t.kind t.lexeme) ∧
    (∀ xs : List SeparatedLexeme,
      (scan (String.join (xs.map SeparatedLexeme.text))).errors = [] ∧
      (scan (String.join (xs.map SeparatedLexeme.text))).tokens.map Token.face =
        xs.map SeparatedLexeme.face ++ [(.endOfFile, "")]) ∧
    ∀ source, (scan (spaced (scan source).proper)).errors = [] ∧
      (scan (spaced (scan source).proper)).tokens.map Token.face =
        (scan source).tokens.map Token.face := by
  have hlexeme : ∀ source, ∀ t ∈ (scan source).proper, IsLexeme t.kind t.lexeme :=
    fun source t ht => isLexeme_of_mem_proper ht
  refine ⟨hlexeme, fun xs => (SeparatedLexeme.separated_join xs).scan, fun source => ?_⟩
  obtain ⟨herrors, hfaces⟩ := (separated_spaced (hlexeme source)).scan
  refine ⟨herrors, ?_⟩
  rw [hfaces, tokens_eq_proper source, List.map_append]
  rfl

/-- A number in front of a point, behind a comment with a quote, and a string with a comment in
it, which is no comment when scanned again; and an operator that a comment keeps apart from `=`. -/
theorem rescan_number_and_string :
    let source := "//\"\n1.\"//\"@"
    let t : Token := ⟨.string "//", "\"//\"", 2⟩
    (t ∈ (scan source).proper ∧ IsLexeme t.kind t.lexeme) ∧
      (∃ x y : SeparatedLexeme, x.text = "! //=\n" ∧ y.text = "= " ∧
        (scan (String.join ([x, y].map SeparatedLexeme.text))).tokens.map Token.face =
          [x, y].map SeparatedLexeme.face ++ [(.endOfFile, "")]) ∧
      spaced (scan source).proper = "1 . \"//\"" ∧
      (scan (spaced (scan source).proper)).tokens.map Token.face =
        (scan source).tokens.map Token.face := by
  intro source t
  have ht : t ∈ (scan source).proper := by decide +kernel
  have hcomment : "//=\n".toList ∈ Grammar.comment * Grammar.oneOf {'\n'} :=
    Grammar.mem_comment_mul_newline.2 ⟨['='], by decide, rfl⟩
  have hsep : " //=\n".toList ∈ Grammar.separator :=
    Language.mem_mul.2 ⟨[' '], Grammar.mem_blank.2 ⟨' ', rfl, rfl⟩, "//=\n".toList,
      Language.mem_kstar.2 ⟨["//=\n".toList], rfl, fun part hp =>
        List.mem_singleton.1 hp ▸ Or.inr hcomment⟩, rfl⟩
  let x : SeparatedLexeme :=
    ⟨.operator .bang, "!", " //=\n", ⟨by decide +kernel, 1, 1, by decide +kernel⟩, hsep⟩
  let y : SeparatedLexeme :=
    ⟨.operator .equal, "=", " ", ⟨by decide +kernel, 1, 1, by decide +kernel⟩,
      Grammar.mem_separator_of_isBlank rfl⟩
  have hx : x.text = "! //=\n" := (by decide : "!" ++ " //=\n" = "! //=\n")
  have hy : y.text = "= " := (by decide : "=" ++ " " = "= ")
  exact ⟨⟨ht, rescan.1 source t ht⟩, ⟨x, y, hx, hy, (rescan.2.1 [x, y]).2⟩,
    by decide +kernel, (rescan.2.2 source).2⟩

end LoxLexer
