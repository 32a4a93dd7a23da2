import LoxLexer.Proofs.Lexeme.Basic
import LoxLexer.Proofs.Session.Run

/-! # Reading printed tokens and errors back

Tokens and errors are printed one to a line, and nothing in them is escaped: a string over several
lines may look like whole lines of other tokens. Still every line, in this wider sense, can be
split off what is printed. The name of a kind ends at its colon; the text of a token is a piece
that a comma does not continue, so that where it ends is seen from the text itself; and the value
is determined by the kind, which the text determines (`prefixFree_token`). A reported error is
split off likewise (`prefixFree_error`). So what a session prints tells the tokens apart from their
lines, and what it reports tells the errors (`decodable_run`).
-/

set_option autoImplicit false

namespace LoxLexer

/-! ## Texts in a row -/

/-- The text of a value with `P` can be split off the front of a longer one, and tells what `view`
shows of the value. -/
structure PrefixFree {α β : Type} (P : α → Prop) (view : α → β) (text : α → List Char) : Prop where
  nonempty : ∀ a, P a → text a ≠ []
  splits : ∀ a b r t, P a → P b → text a ++ r = text b ++ t → view a = view b ∧ r = t

/-- Texts in a row tell what is seen of their values. -/
theorem PrefixFree.map_eq {α β : Type} {P : α → Prop} {view : α → β} {text : α → List Char}
    (h : PrefixFree P view text) {as bs : List α} (ha : ∀ a ∈ as, P a) (hb : ∀ b ∈ bs, P b)
    (he : as.flatMap text = bs.flatMap text) : as.map view = bs.map view := by
  induction as generalizing bs with
  | nil =>
    cases bs with
    | nil => rfl
    | cons b bs =>
      have hnil : text b = [] := (List.append_eq_nil_iff.1 he.symm).1
      exact absurd hnil (h.nonempty b (hb b List.mem_cons_self))
  | cons a as ih =>
    obtain ⟨hpa, has⟩ := List.forall_mem_cons.1 ha
    cases bs with
    | nil =>
      have hnil : text a = [] := (List.append_eq_nil_iff.1 he).1
      exact absurd hnil (h.nonempty a hpa)
    | cons b bs =>
      obtain ⟨hpb, hbs⟩ := List.forall_mem_cons.1 hb
      obtain ⟨hview, hrest⟩ := h.splits a b _ _ hpa hpb he
      rw [List.map_cons, List.map_cons, hview, ih has hbs hrest]

/-- A text is determined up to the first character that it does not contain. -/
theorem append_cons_inj {q : Char} {a b r t : List Char} (ha : q ∉ a) (hb : q ∉ b)
    (h : a ++ q :: r = b ++ q :: t) : a = b ∧ r = t := by
  have hq : ∀ rest : List Char, ∀ c ∈ (q :: rest).head?, (c != q) = false := by simp
  have hab : a = b := by
    rw [← Piece.takeWhile_run (Piece.ne_of_not_mem ha) (hq r), h,
      Piece.takeWhile_run (Piece.ne_of_not_mem hb) (hq t)]
  subst hab
  exact ⟨rfl, (List.cons.inj (List.append_cancel_left h)).2⟩

/-! ## Tokens -/

namespace Token

/-- The end of the text, or a token with a lexeme of its kind. -/
def Printed (t : Token) : Prop :=
  (t.kind = .endOfFile ∧ t.lexeme = "") ∨ IsLexeme t.kind t.lexeme

theorem printed_of_mem {source : String} {t : Token} (h : t ∈ (scan source).tokens) :
    t.Printed := by
  rw [tokens_eq_proper, List.mem_append, List.mem_singleton] at h
  rcases h with h | rfl
  · exact .inr (isLexeme_of_mem_proper h)
  · exact .inl ⟨rfl, rfl⟩

/-- The value of a token, as it is printed. -/
def value (t : Token) : List Char := ((t.literal?.map Literal.render).getD "").toList

/-- A token with the end of its line. -/
def lineChars (t : Token) : List Char := (t.render ++ "\n").toList

theorem lineChars_append (t : Token) (r : List Char) : t.lineChars ++ r =
    t.kind.name.toList ++
      ':' :: ' ' :: (t.lexeme.toList ++ ',' :: ' ' :: (t.value ++ '\n' :: r)) := by
  simp [lineChars, render, value]

end Token

theorem TokenKind.colon_not_mem_name (kind : TokenKind) : ':' ∉ kind.name.toList := by
  cases kind with
  | operator op => cases op <;> decide
  | keyword word => cases word <;> decide
  | string value => exact (by decide : ':' ∉ "String".toList)
  | number value => exact (by decide : ':' ∉ "Number".toList)
  | identifier => decide
  | endOfFile => decide

/-- No lexeme has the name of the end of the text. -/
theorem IsLexeme.name_ne {kind : TokenKind} {w : String} (h : IsLexeme kind w) :
    kind.name ≠ TokenKind.endOfFile.name := by
  obtain ⟨p, -, hkind, -⟩ := isLexeme_iff.1 h
  cases kind with
  | operator op => cases op <;> decide
  | keyword word => cases word <;> decide
  | endOfFile => exact absurd hkind p.kind?_ne_endOfFile
  | string value => exact (by decide : "String" ≠ "EndOfFile")
  | number value => exact (by decide : "Number" ≠ "EndOfFile")
  | identifier => decide

/-- Two lexemes in front of commas are told apart by their texts alone. -/
theorem IsLexeme.eq_of_append_comma {kind kind' : TokenKind} {w w' : String} {r t : List Char}
    (h : IsLexeme kind w) (h' : IsLexeme kind' w')
    (he : w.toList ++ ',' :: r = w'.toList ++ ',' :: t) : kind = kind' ∧ w = w' ∧ r = t := by
  obtain ⟨p, hv, hkind, htext⟩ := isLexeme_iff.1 h
  obtain ⟨q, hv', hkind', htext'⟩ := isLexeme_iff.1 h'
  rw [← htext, ← htext'] at he
  obtain ⟨rfl, hrest⟩ := Piece.eq_of_text_append_eq hv (Piece.endsBefore_of_kind? hkind rfl r) hv'
    (Piece.endsBefore_of_kind? hkind' rfl t) he
  refine ⟨?_, ?_, (List.cons.inj hrest).2⟩
  · rw [hkind] at hkind'
    exact Option.some.inj hkind'
  · exact String.toList_injective (htext.symm.trans htext')

/-- Tokens of the same name are told apart by their texts in front of a comma. -/
theorem Token.Printed.eq_of_append_comma {t u : Token} {r r' : List Char} (ht : t.Printed)
    (hu : u.Printed) (hname : t.kind.name = u.kind.name)
    (he : t.lexeme.toList ++ ',' :: r = u.lexeme.toList ++ ',' :: r') :
    t.kind = u.kind ∧ t.lexeme = u.lexeme ∧ r = r' := by
  rcases ht with ⟨htk, htl⟩ | ht <;> rcases hu with ⟨huk, hul⟩ | hu
  · rw [htl, hul] at he
    exact ⟨htk.trans huk.symm, htl.trans hul.symm, (List.cons.inj he).2⟩
  · rw [htk] at hname
    exact absurd hname.symm hu.name_ne
  · rw [huk] at hname
    exact absurd hname ht.name_ne
  · exact ht.eq_of_append_comma hu he

/-- **A printed token is split off what is printed.** -/
theorem prefixFree_token : PrefixFree Token.Printed Token.face Token.lineChars where
  nonempty t _ := by simp [Token.lineChars]
  splits t u r r' ht hu h := by
    rw [Token.lineChars_append, Token.lineChars_append] at h
    obtain ⟨hname, hrest⟩ := append_cons_inj (TokenKind.colon_not_mem_name _)
      (TokenKind.colon_not_mem_name _) h
    obtain ⟨-, hrest⟩ := List.cons.inj hrest
    obtain ⟨hkind, hlexeme, hvalue⟩ :=
      ht.eq_of_append_comma hu (String.toList_injective hname) hrest
    -- the value may contain the end of a line, but it is that of the kind
    have hsame : t.value = u.value := by rw [Token.value, Token.literal?, hkind]; rfl
    rw [hsame] at hvalue
    refine ⟨Prod.ext hkind hlexeme, ?_⟩
    exact (List.cons.inj (List.append_cancel_left (List.cons.inj hvalue).2)).2

theorem toList_tokenLines (ts : List Token) :
    (Session.tokenLines ts).toList = ts.flatMap Token.lineChars := by
  rw [Session.tokenLines, String.toList_join, List.flatMap_map]
  rfl

/-! ## Errors -/

namespace LexError

/-- A number that is reported has no quote in its text. -/
def Cause.Reported : Cause → Prop
  | numberOutOfRange text => '\'' ∉ text.toList
  | unexpectedCharacter _ | unterminatedString => True

/-- An error with the end of its line. -/
def lineChars (e : LexError) : List Char := (Reporter.line e.line e.message).toList

theorem lineChars_append (e : LexError) (r : List Char) : e.lineChars ++ r =
    "[line ".toList ++ (Nat.toDigits 10 e.line ++
      ']' :: (" Error: ".toList ++ (e.cause.message.toList ++ '\n' :: r))) := by
  simp [lineChars, Reporter.line, reportText, message]

end LexError

namespace Piece

/-- A number consists of digits and a point. -/
theorem quote_not_mem_number {whole fraction : List Char} (hv : (number whole fraction).Valid) :
    '\'' ∉ (number whole fraction).text := by
  obtain ⟨-, hw, hf⟩ := hv
  have hwhole : '\'' ∉ whole := fun h => absurd (hw _ h) (by decide)
  have hfraction : '\'' ∉ fraction := fun h => absurd (hf _ h) (by decide)
  cases fraction with
  | nil => exact hwhole
  | cons d ds =>
    intro h
    rw [text, List.mem_append, List.mem_cons] at h
    rcases h with h | h | h
    · exact hwhole h
    · exact absurd h (by decide)
    · exact hfraction h

theorem reported_of_item? {p : Piece} (hv : p.Valid) {first last : Nat} {e : LexError}
    (h : p.item? first last = some (.error e)) : e.cause.Reported := by
  cases p with
  | number whole fraction =>
    have hitem : numberItem (String.ofList (number whole fraction).text) first
        (Decimal.read whole fraction).nearest? = .error e := Option.some.inj h
    cases hx : (Decimal.read whole fraction).nearest? with
    | some x =>
      rw [hx] at hitem
      cases hitem
    | none =>
      rw [hx] at hitem
      cases hitem
      show '\'' ∉ (String.ofList _).toList
      rw [String.toList_ofList]
      exact quote_not_mem_number hv
  | openString body => cases h; trivial
  | stray c => cases h; trivial
  | _ => cases h

end Piece

theorem reported_of_mem_errors {source : String} {e : LexError} (h : e ∈ (scan source).errors) :
    e.cause.Reported := by
  rw [errors_scan, Item.mem_filterMap_error?] at h
  obtain ⟨before, p, after, hps, hp⟩ := Piece.mem_itemsFrom.1 h
  have hv : p.Valid := (Piece.tiles_pieces source.toList).valid p (by simp [hps])
  exact Piece.reported_of_item? hv hp

namespace LexError.Cause

theorem toList_message_unexpectedCharacter (c : Char) :
    (unexpectedCharacter c).message.toList = "Unexpected character '".toList ++ [c, '\''] := by
  show ("Unexpected character '" ++ c.toString ++ "'").toList = _
  simp

theorem toList_message_unterminatedString :
    unterminatedString.message.toList = "Unterminated string".toList := rfl

theorem toList_message_numberOutOfRange (text : String) :
    (numberOutOfRange text).message.toList =
      "Failed parsing numeric value '".toList ++ (text.toList ++ ['\'']) := by
  show ("Failed parsing numeric value '" ++ text ++ "'").toList = _
  simp

/-- A message at the end of a line is split off. -/
theorem message_inj {a b : Cause} {r t : List Char} (ha : a.Reported) (hb : b.Reported)
    (h : a.message.toList ++ '\n' :: r = b.message.toList ++ '\n' :: t) : a = b ∧ r = t := by
  cases a with
  | unexpectedCharacter c =>
    rw [toList_message_unexpectedCharacter] at h
    cases b with
    | unexpectedCharacter d =>
      rw [toList_message_unexpectedCharacter] at h
      obtain ⟨rfl, rfl⟩ : c = d ∧ r = t := by simpa using h
      exact ⟨rfl, rfl⟩
    | unterminatedString => simp [toList_message_unterminatedString] at h
    | numberOutOfRange text => simp [toList_message_numberOutOfRange] at h
  | unterminatedString =>
    cases b with
    | unexpectedCharacter d =>
      simp [toList_message_unterminatedString, toList_message_unexpectedCharacter] at h
    | unterminatedString => exact ⟨rfl, (List.cons.inj (List.append_cancel_left h)).2⟩
    | numberOutOfRange text =>
      simp [toList_message_unterminatedString, toList_message_numberOutOfRange] at h
  | numberOutOfRange digits =>
    rw [toList_message_numberOutOfRange] at h
    cases b with
    | unexpectedCharacter d => simp [toList_message_unexpectedCharacter] at h
    | unterminatedString => simp [toList_message_unterminatedString] at h
    | numberOutOfRange digits' =>
      rw [toList_message_numberOutOfRange] at h
      have hq : digits.toList ++ '\'' :: ('\n' :: r) = digits'.toList ++ '\'' :: ('\n' :: t) := by
        simpa using h
      obtain ⟨hdigits, hrest⟩ := append_cons_inj ha hb hq
      obtain rfl := String.toList_injective hdigits
      exact ⟨rfl, (List.cons.inj hrest).2⟩

end LexError.Cause

/-- **A reported error is split off what is reported.** -/
theorem prefixFree_error :
    PrefixFree (fun e : LexError => e.cause.Reported) id LexError.lineChars where
  nonempty e _ := by simp [LexError.lineChars, Reporter.line]
  splits e f r t he hf h := by
    rw [LexError.lineChars_append, LexError.lineChars_append] at h
    have hdigits : ∀ n : Nat, ']' ∉ Nat.toDigits 10 n := fun n hn =>
      absurd (Nat.isDigit_of_mem_toDigits (by decide) (by decide) hn) (by decide)
    obtain ⟨hline, hmessage⟩ := append_cons_inj (hdigits e.line) (hdigits f.line)
      (List.append_cancel_left h)
    obtain ⟨hcause, hrest⟩ := LexError.Cause.message_inj he hf (List.append_cancel_left hmessage)
    have hnumber : e.line = f.line := calc
      e.line = Nat.ofDigitChars 10 (Nat.toDigits 10 e.line) 0 :=
        Nat.ofDigitChars_ten_toDigits.symm
      _ = Nat.ofDigitChars 10 (Nat.toDigits 10 f.line) 0 := by rw [hline]
      _ = f.line := Nat.ofDigitChars_ten_toDigits
    obtain ⟨cause, line⟩ := e
    obtain ⟨cause', line'⟩ := f
    obtain rfl : cause = cause' := hcause
    obtain rfl : line = line' := hnumber
    exact ⟨rfl, hrest⟩

theorem toList_errorLines (errors : List LexError) :
    (Reporter.errorLines errors).toList = errors.flatMap LexError.lineChars := by
  rw [Reporter.errorLines, String.toList_join, List.flatMap_map]
  rfl

/-! ## Runs -/

namespace Session

/-- A new session on streams without faults, behind a run. -/
def afterRun (source : String) : Session := (({} : Session).run source).session

theorem accepted_afterRun (source : String) :
    (afterRun source).out.accepted = (tokenLines (scan source).tokens).toUTF8 ∧
      (afterRun source).reporter.writer.accepted =
        (Reporter.errorLines (scan source).errors).toUTF8 := by
  obtain ⟨hout, herr⟩ := accepted_run (s := {}) rfl rfl rfl source
  exact ⟨hout.trans ByteArray.empty_append, herr.trans ByteArray.empty_append⟩

/-- **What a run writes can be read back**: two texts whose runs print the same have tokens of the
same kinds and values with the same lexemes, and two texts whose runs report the same have the same
errors. -/
theorem decodable_run (a b : String) :
    ((afterRun a).out.accepted = (afterRun b).out.accepted →
      (scan a).tokens.map Token.face = (scan b).tokens.map Token.face) ∧
    ((afterRun a).reporter.writer.accepted = (afterRun b).reporter.writer.accepted →
      (scan a).errors = (scan b).errors) := by
  obtain ⟨haout, haerr⟩ := accepted_afterRun a
  obtain ⟨hbout, hberr⟩ := accepted_afterRun b
  constructor
  · intro h
    rw [haout, hbout] at h
    have hlines := congrArg String.toList (String.toByteArray_inj.1 h)
    rw [toList_tokenLines, toList_tokenLines] at hlines
    exact prefixFree_token.map_eq (fun t ht => Token.printed_of_mem ht)
      (fun t ht => Token.printed_of_mem ht) hlines
  · intro h
    rw [haerr, hberr] at h
    have hlines := congrArg String.toList (String.toByteArray_inj.1 h)
    rw [toList_errorLines, toList_errorLines] at hlines
    have herrors := prefixFree_error.map_eq (fun e he => reported_of_mem_errors he)
      (fun e he => reported_of_mem_errors he) hlines
    simpa using herrors

/-- A string that looks like the line of a plus, on one line and on two, and an error in front. -/
theorem decodable_run_string_like_line :
    let a := "@\"\nPlus: +, \"x"
    let b := "@ \"\nPlus: +, \"\n\nx"
    (afterRun a).out.accepted = (afterRun b).out.accepted ∧
      (afterRun a).reporter.writer.accepted = (afterRun b).reporter.writer.accepted ∧
      (scan a).tokens.map Token.face = (scan b).tokens.map Token.face ∧
      (scan a).errors = (scan b).errors := by
  intro a b
  have hout : (afterRun a).out.accepted = (afterRun b).out.accepted := by
    have hlines : tokenLines (scan a).tokens = tokenLines (scan b).tokens := by decide +kernel
    rw [(accepted_afterRun a).1, (accepted_afterRun b).1, hlines]
  have herr : (afterRun a).reporter.writer.accepted = (afterRun b).reporter.writer.accepted := by
    have hlines : Reporter.errorLines (scan a).errors = Reporter.errorLines (scan b).errors := by
      decide +kernel
    rw [(accepted_afterRun a).2, (accepted_afterRun b).2, hlines]
  exact ⟨hout, herr, (decodable_run a b).1 hout, (decodable_run a b).2 herr⟩

end Session

end LoxLexer
