import LoxLexer.Proofs.Covering.Layout
import LoxLexer.Proofs.Decimal.Rounding
import LoxLexer.Proofs.Lexeme.Basic

/-! # Trivia do not matter

Spaces may be replaced by other spaces, one or more, and comments by other comments, by spaces or
by nothing: a text with other trivia scans the same, errors included (`scan_respaced`). The ends of
lines stay where they are. Nothing runs together where a comment is taken out, because a comment
ends where its line does, and so the text behind a piece begins as before or with a blank
(`Alike.uncons`), which continues no piece.
-/

set_option autoImplicit false

namespace LoxLexer

/-! ## Other trivia in the place of trivia -/

/-- The blanks that end no line. -/
def spaces : List Char := [' ', '\t', '\r']

/-- The text `w'` may stand in the place of the blank or comment `w`, where `rest` follows. -/
inductive Replaces (rest : List Char) : List Char → List Char → Prop
  | newline : Replaces rest ['\n'] ['\n']
  | space {c : Char} {w' : List Char} : c ∈ spaces → w' ≠ [] → (∀ d ∈ w', d ∈ spaces) →
      Replaces rest [c] w'
  | comment {w w' : List Char} : w ∈ Grammar.comment → (∀ c ∈ rest.head?, c = '\n') →
      w' ∈ Grammar.comment → Replaces rest w w'
  | noComment {w w' : List Char} : w ∈ Grammar.comment → (∀ c ∈ rest.head?, c = '\n') →
      (∀ d ∈ w', d ∈ spaces) → Replaces rest w w'

/-- Blanks and comments in a row, in front of `rest`, each with another text in its place. -/
inductive Respacing (rest : List Char) : List Char → List Char → Prop
  | nil : Respacing rest [] []
  | cons {w w' g g' : List Char} : Replaces (g ++ rest) w w' → Respacing rest g g' →
      Respacing rest (w ++ g) (w' ++ g')

/-- The same spans with other trivia between them. -/
inductive Covering.Respaced : Covering → Covering → Prop
  | nil {last last' : List Char} : Respacing [] last last' → Respaced ⟨[], last⟩ ⟨[], last'⟩
  | cons {x : Span} {gap' : List Char} {xs xs' : List Span} {last last' : List Char} :
      Respacing (x.text ++ chars ⟨xs, last⟩) x.gap gap' → Respaced ⟨xs, last⟩ ⟨xs', last'⟩ →
        Respaced ⟨x :: xs, last⟩ ⟨{ x with gap := gap' } :: xs', last'⟩

theorem isBlank_of_mem_spaces {c : Char} (h : c ∈ spaces) : Piece.isBlank c = true := by
  simp only [spaces, List.mem_cons, List.not_mem_nil, or_false] at h
  rcases h with rfl | rfl | rfl <;> rfl

theorem newline_not_mem_spaces : '\n' ∉ spaces := by decide

theorem Grammar.newline_not_mem_comment {w : List Char} (h : w ∈ Grammar.comment) : '\n' ∉ w := by
  obtain ⟨body, hb, rfl⟩ := Grammar.mem_comment.1 h
  have hbody : '\n' ∉ body := hb
  simp [Piece.text, hbody]

theorem Replaces.count_eq {rest w w' : List Char} (h : Replaces rest w w') :
    w'.count '\n' = w.count '\n' := by
  have hspaces : ∀ v : List Char, (∀ d ∈ v, d ∈ spaces) → v.count '\n' = 0 := fun v hv =>
    List.count_eq_zero.2 fun hn => newline_not_mem_spaces (hv _ hn)
  have hcomment : ∀ v ∈ Grammar.comment, List.count '\n' v = 0 := fun v hv =>
    List.count_eq_zero.2 (Grammar.newline_not_mem_comment hv)
  cases h with
  | newline => rfl
  | @space c _ hc _ hw' =>
    have hone : ∀ d ∈ [c], d ∈ spaces := fun d hd => List.mem_singleton.1 hd ▸ hc
    rw [hspaces _ hw', hspaces _ hone]
  | comment hw _ hw' => rw [hcomment _ hw, hcomment _ hw']
  | noComment hw _ hw' => rw [hcomment _ hw, hspaces _ hw']

theorem Respacing.count_eq {rest g g' : List Char} (h : Respacing rest g g') :
    g'.count '\n' = g.count '\n' := by
  induction h with
  | nil => rfl
  | cons hw _ ih => rw [List.count_append, List.count_append, hw.count_eq, ih]

/-! ## Texts that differ in trivia -/

/-- The texts differ at most where blanks and comments of the first have others in their place. -/
inductive Alike : List Char → List Char → Prop
  | nil : Alike [] []
  | char (c : Char) {r r' : List Char} : Alike r r' → Alike (c :: r) (c :: r')
  | trivium {w w' r r' : List Char} : Replaces r w w' → Alike r r' → Alike (w ++ r) (w' ++ r')

theorem Alike.append_left {r r' : List Char} (h : Alike r r') (w : List Char) :
    Alike (w ++ r) (w ++ r') := by
  induction w with
  | nil => exact h
  | cons c w ih => exact .char c ih

theorem Respacing.alike {rest rest' g g' : List Char} (h : Respacing rest g g')
    (hr : Alike rest rest') : Alike (g ++ rest) (g' ++ rest') := by
  induction h with
  | nil => exact hr
  | cons hw _ ih =>
    rw [List.append_assoc, List.append_assoc]
    exact .trivium hw ih

namespace Alike

variable {r r' : List Char}

/-- Where a line or the text ends, it does so with other trivia, too. -/
theorem newline (h : Alike r r') (hr : ∀ c ∈ r.head?, c = '\n') : ∀ c ∈ r'.head?, c = '\n' := by
  cases h with
  | nil => exact hr
  | char c _ => exact hr
  | trivium hw _ =>
    cases hw with
    | newline => exact hr
    | space hc _ _ => exact absurd (hr _ rfl ▸ hc) newline_not_mem_spaces
    | comment hw _ _ | noComment hw _ _ =>
      obtain ⟨body, -, rfl⟩ := Grammar.mem_comment.1 hw
      cases hr '/' rfl

theorem nil_left (h : Alike [] r') : r' = [] := by
  generalize hr : ([] : List Char) = r at h
  cases h with
  | nil => rfl
  | char c _ => cases hr
  | trivium hw _ =>
    obtain ⟨rfl, -⟩ := List.append_eq_nil_iff.1 hr.symm
    cases hw with
    | comment hw _ _ | noComment hw _ _ =>
      obtain ⟨body, -, hb⟩ := Grammar.mem_comment.1 hw
      cases hb

/-- **A text with other trivia begins with a blank or as before**, and goes on as before unless it
begins with a comment. -/
theorem uncons {c : Char} {t' : List Char} (h : Alike r (c :: t')) :
    Piece.isBlank c = true ∨ ∃ t, r = c :: t ∧ (c ≠ '/' → Alike t t') := by
  generalize hr' : c :: t' = r' at h
  cases h with
  | nil => cases hr'
  | @char d s s' hs =>
    obtain ⟨rfl, rfl⟩ := List.cons.inj hr'
    exact .inr ⟨s, rfl, fun _ => hs⟩
  | @trivium w w' s s' hw hs =>
    cases hw with
    | newline =>
      obtain ⟨rfl, -⟩ := List.cons.inj hr'
      exact .inl rfl
    | space _ hne hw' =>
      obtain ⟨d, ds, rfl⟩ := List.exists_cons_of_ne_nil hne
      obtain ⟨rfl, -⟩ := List.cons.inj hr'
      exact .inl (isBlank_of_mem_spaces (hw' c List.mem_cons_self))
    | comment hw _ hw' =>
      obtain ⟨body, -, rfl⟩ := Grammar.mem_comment.1 hw
      obtain ⟨body', -, rfl⟩ := Grammar.mem_comment.1 hw'
      obtain ⟨rfl, -⟩ := List.cons.inj hr'
      exact .inr ⟨'/' :: body ++ s, rfl, fun hc => absurd rfl hc⟩
    | noComment _ hends hw' =>
      left
      cases w' with
      | nil =>
        -- the comment is taken out, and the line or the text ends there
        have hc := hs.newline hends c (by rw [← hr'.trans (List.nil_append s')]; rfl)
        rw [hc]
        rfl
      | cons d ds =>
        obtain ⟨rfl, -⟩ := List.cons.inj hr'
        exact isBlank_of_mem_spaces (hw' c List.mem_cons_self)

/-- Where a class without blanks does not go on, it does not with other trivia either. -/
theorem head_class {p : Char → Bool} (hp : ∀ c, Piece.isBlank c = true → p c = false)
    (h : Alike r r') (hr : ∀ c ∈ r.head?, p c = false) : ∀ c ∈ r'.head?, p c = false := by
  intro c hc
  obtain ⟨t', rfl⟩ := List.head?_eq_some_iff.1 hc
  rcases h.uncons with hb | ⟨t, rfl, -⟩
  · exact hp c hb
  · exact hr c rfl

theorem head_ne {c : Char} (hc : Piece.isBlank c = false) (h : Alike r r')
    (hr : r.head? ≠ some c) : r'.head? ≠ some c := by
  intro hc'
  obtain ⟨t', rfl⟩ := List.head?_eq_some_iff.1 hc'
  rcases h.uncons with hb | ⟨t, rfl, -⟩
  · simp [hc] at hb
  · exact hr rfl

end Alike

/-- **What a text does not continue, it does not continue with other trivia.** -/
theorem Piece.EndsBefore.alike {p : Piece} {r r' : List Char} (he : p.EndsBefore r)
    (h : Alike r r') : p.EndsBefore r' := by
  have hdigit : ∀ c, isBlank c = true → c.isDigit = false := fun c hc =>
    (not_continued_of_stops (stops_of_isBlank hc)).1
  have hword : ∀ c, isBlank c = true → continuesWord c = false := fun c hc =>
    (not_continued_of_stops (stops_of_isBlank hc)).2.1
  cases p with
  | comment body => exact h.newline he
  | operator op =>
    obtain ⟨hslash, hequal⟩ := he
    exact ⟨fun hop => h.head_ne rfl (hslash hop), fun hop => h.head_ne rfl (hequal hop)⟩
  | word letters => exact h.head_class hword he
  | number whole fraction =>
    cases fraction with
    | cons d ds => exact h.head_class hdigit he
    | nil =>
      obtain ⟨hd, hdot⟩ := he
      refine ⟨h.head_class hdigit hd, ?_⟩
      -- a point is none of the trivia, so what follows it differs in trivia only
      rintro e more rfl
      rcases h.uncons with hb | ⟨t, rfl, ht⟩
      · cases hb
      · rcases (ht (by decide)).uncons with hb | ⟨u, rfl, -⟩
        · exact hdigit e hb
        · exact hdot e u rfl
  | openString body =>
    obtain rfl : r = [] := he
    exact h.nil_left
  | _ => trivial

/-! ## Coverings with other trivia -/

theorem Respacing.trivia {rest rest' g g' : List Char} (h : Respacing rest g g')
    (hr : Alike rest rest') : Trivia rest' g' := by
  induction h with
  | nil => exact .nil
  | cons hw hg ih =>
    cases hw with
    | newline => exact ih.blank rfl
    | space _ _ hw' | noComment _ _ hw' =>
      exact ih.blanks fun c hc => isBlank_of_mem_spaces (hw' c hc)
    | comment _ hends hw' => exact .cons (.inr ⟨hw', (hg.alike hr).newline hends⟩) ih

namespace Covering

variable {c c' : Covering}

theorem Respaced.items_eq (h : c.Respaced c') : c'.items = c.items := by
  induction h with
  | nil => rfl
  | cons _ _ ih => rw [items_cons, items_cons, ih]

/-- A layout with other trivia is a layout again. -/
theorem Laid.respaced {line : Nat} (h : Laid line c) (hr : c.Respaced c') :
    Laid line c' ∧ Alike c.chars c'.chars := by
  induction h generalizing c' with
  | nil hl =>
    cases hr with
    | nil hg =>
      refine ⟨.nil (hg.trivia .nil), ?_⟩
      simpa using hg.alike .nil
  | @cons line gap p item xs last _ hv he hi _ ih =>
    cases hr with
    | @cons _ gap' _ xs' _ last' hg hxs =>
      obtain ⟨hlaid, halike⟩ := ih hxs
      have htext := halike.append_left p.text
      rw [← hg.count_eq] at hi hlaid
      refine ⟨.cons (hg.trivia htext) hv (he.alike halike) hi hlaid, ?_⟩
      rw [chars_cons, chars_cons]
      exact hg.alike htext

/-- With other trivia, the same spans cover the text. -/
theorem Covers.respaced {source : String} (h : c.Covers source) (hr : c.Respaced c') :
    c'.Covers (String.ofList c'.chars) := by
  obtain ⟨-, hlaid⟩ := covers_iff_laid.1 h
  exact covers_iff_laid.2 ⟨String.toList_ofList.symm, (hlaid.respaced hr).1⟩

theorem Respaced.count_eq (h : c.Respaced c') : c'.chars.count '\n' = c.chars.count '\n' := by
  induction h with
  | nil hg => exact hg.count_eq
  | cons hg _ ih =>
    simp only [chars_cons, List.count_append, hg.count_eq, ih]

/-- The items of a covering and the end of the text are what a scan splits. -/
theorem Covers.scan_eq {source : String} (h : c.Covers source) :
    scan source =
      Scan.ofItems (c.items ++ [.token (Token.endOfFile (1 + c.chars.count '\n'))]) := by
  obtain rfl := h.unique (covers_ofSource source)
  rw [LoxLexer.scan_eq, h.chars, ofSource, items_ofPieces]

end Covering

/-! ## Scans as they are compared -/

theorem Binary64.isNaN_of_isFinite {x : Binary64} (h : x.isFinite = true) : x.isNaN = false := by
  simp only [isFinite, bne_iff_ne] at h
  simp [isNaN, h]

/-- No number that is read is a NaN, so kinds are the same as themselves. -/
theorem Piece.same_of_kind? {p : Piece} {kind : TokenKind} (h : p.kind? = some kind) :
    kind.same kind = true := by
  cases kind with
  | number x =>
    have hx : ∃ d : Decimal, d.nearest? = some x := by
      cases p with
      | number whole fraction =>
        obtain ⟨y, hy, hyx⟩ := Option.map_eq_some_iff.1 h
        cases hyx
        exact ⟨_, hy⟩
      | word letters =>
        simp only [kind?, TokenKind.ofWord, Option.some.injEq] at h
        split at h <;> cases h
      | _ => cases h
    obtain ⟨d, hd⟩ := hx
    have hfinite : x.isFinite = true := ((Decimal.nearestEven_iff hd x).2 rfl).finite
    show x.sameNumber x = true
    rw [Binary64.sameNumber_self, Binary64.isNaN_of_isFinite hfinite]
    rfl
  | _ => simp [TokenKind.same]

theorem Token.same_of_mem {source : String} {t : Token} (h : t ∈ (scan source).tokens) :
    t.same t = true := by
  have hkind : t.kind.same t.kind = true := by
    rw [tokens_scan, List.mem_append] at h
    rcases h with h | h
    · obtain ⟨p, -, hkind, -⟩ := piece_of_token_mem (Item.mem_filterMap_token?.1 h)
      exact Piece.same_of_kind? hkind
    · obtain rfl := List.mem_singleton.1 h
      rfl
  simp [Token.same, hkind]

theorem Token.isEqv_self {ts : List Token} (h : ∀ t ∈ ts, t.same t = true) :
    ts.isEqv ts Token.same = true := by
  induction ts with
  | nil => rfl
  | cons t ts ih =>
    obtain ⟨ht, hts⟩ := List.forall_mem_cons.1 h
    simp [List.isEqv, ht, ih hts]

/-- Every scan is the same as itself, numbers being compared as numbers. -/
theorem Scan.same_self (source : String) : (scan source).same (scan source) = true := by
  have htokens := Token.isEqv_self fun t (ht : t ∈ (scan source).tokens) => Token.same_of_mem ht
  simp [same, sameTokens, sameErrors, htokens]

namespace Covering

/-- **Trivia do not matter**: with other spaces in the place of the spaces that a scan skips, and
with other comments, spaces or nothing in the place of its comments, a text has the same tokens and
errors on the same lines. -/
theorem scan_respaced {c c' : Covering} {source : String} (h : c.Covers source)
    (hr : c.Respaced c') :
    scan (String.ofList c'.chars) = scan source ∧
      (scan (String.ofList c'.chars)).same (scan source) = true := by
  have hscan : scan (String.ofList c'.chars) = scan source := by
    rw [(h.respaced hr).scan_eq, h.scan_eq, hr.items_eq, hr.count_eq]
  exact ⟨hscan, hscan ▸ Scan.same_self source⟩

/-- Behind a point a comment is taken out, and a space between two operators becomes two others; a
stray character and an open string with slashes in it stay. -/
theorem scan_respaced_behind_point :
    let source := "1.//2\n! =@\"//"
    let spans (comment space : List Char) : List Span :=
      [⟨[], ['1'], .token ⟨.number ⟨0x3ff0000000000000⟩, "1", 1⟩⟩,
        ⟨[], ['.'], .token ⟨.operator .dot, ".", 1⟩⟩,
        ⟨comment ++ ['\n'], ['!'], .token ⟨.operator .bang, "!", 2⟩⟩,
        ⟨space, ['='], .token ⟨.operator .equal, "=", 2⟩⟩,
        ⟨[], ['@'], .error ⟨.unexpectedCharacter '@', 2⟩⟩,
        ⟨[], "\"//".toList, .error ⟨.unterminatedString, 2⟩⟩]
    let c : Covering := ⟨spans "//2".toList [' '], []⟩
    let c' : Covering := ⟨spans [] ['\t', '\r'], []⟩
    c.Covers source ∧ c.Respaced c' ∧ c'.chars = "1.\n!\t\r=@\"//".toList ∧
      scan (String.ofList c'.chars) = scan source ∧
      (scan (String.ofList c'.chars)).same (scan source) = true := by
  intro source spans c c'
  have hc : c = ofSource source := by decide +kernel
  have h : c.Covers source := hc ▸ covers_ofSource source
  have hcomment : ∀ rest : List Char, Replaces (['\n'] ++ rest) "//2".toList [] := fun rest =>
    .noComment (Grammar.mem_comment.2 ⟨['2'], (by decide : '\n' ∉ ['2']), rfl⟩) (by simp) (by simp)
  have hspace : ∀ rest : List Char, Replaces rest [' '] ['\t', '\r'] := fun rest =>
    .space (by decide) (by decide) (by simp [spaces])
  have hr : c.Respaced c' :=
    .cons .nil (.cons .nil (.cons (.cons (hcomment _) (.cons .newline .nil))
      (.cons (.cons (hspace _) .nil) (.cons .nil (.cons .nil (.nil .nil))))))
  exact ⟨h, hr, by decide, scan_respaced h hr⟩

end Covering

end LoxLexer
