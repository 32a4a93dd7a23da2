import LoxLexer.Proofs.Grammar
import LoxLexer.Proofs.Scanner.Run

/-! # A scanner is a longest-match lexer

`Reads line r item rest` says, by the grammar alone, what the unread text `r` gives next: blanks and
comments are dropped until another piece, or the end of the text, stands for `item`, and `rest`
follows it. `next?_longest_match` says that a step of a scanner gives exactly this, in every state
that a scanner reaches before it gave the end of its text.
-/

set_option autoImplicit false

namespace LoxLexer

namespace Grammar

/-- A numeral with the digits `whole` and, behind a point, the digits `fraction`. -/
def Numeral (w whole fraction : List Char) : Prop :=
  whole ∈ digits ∧ (fraction = [] ∧ w = whole ∨ fraction ∈ digits ∧ w = whole ++ '.' :: fraction)

/-- The item that the piece `w` stands for, from the line `first` to the line `last`. -/
inductive StandsFor (first last : Nat) : List Char → Item → Prop
  | operator (op : Operator) :
      StandsFor first last op.chars (.token ⟨.operator op, String.ofList op.chars, first⟩)
  | keyword (k : Keyword) :
      StandsFor first last k.chars (.token ⟨.keyword k, String.ofList k.chars, first⟩)
  | identifier {w : List Char} : w ∈ word → (∀ k : Keyword, w ≠ k.chars) →
      StandsFor first last w (.token ⟨.identifier, String.ofList w, first⟩)
  | string {body : List Char} : '"' ∉ body →
      StandsFor first last ('"' :: body ++ ['"'])
        (.token ⟨.string (String.ofList body), String.ofList ('"' :: body ++ ['"']), first⟩)
  | number {w whole fraction : List Char} {x : Binary64} : Numeral w whole fraction →
      (Decimal.read whole fraction).nearest? = some x →
      StandsFor first last w (.token ⟨.number x, String.ofList w, first⟩)
  | outOfRange {w whole fraction : List Char} : Numeral w whole fraction →
      (Decimal.read whole fraction).nearest? = none →
      StandsFor first last w (.error ⟨.numberOutOfRange (String.ofList w), first⟩)
  | openString {body : List Char} : '"' ∉ body →
      StandsFor first last ('"' :: body) (.error ⟨.unterminatedString, last⟩)
  | stray {c : Char} : [c] ∉ lexeme → c ≠ '"' →
      StandsFor first last [c] (.error ⟨.unexpectedCharacter c, first⟩)

/-- What the text `r`, on `line`, gives next, and what follows that. -/
inductive Reads : Nat → List Char → Item → List Char → Prop
  | ends (line : Nat) : Reads line [] (.token (Token.endOfFile line)) []
  | skips {line : Nat} {p r rest : List Char} {item : Item} : IsPiece p (p ++ r) →
      p ∈ blank + comment → Reads (line + p.count '\n') r item rest → Reads line (p ++ r) item rest
  | finds {line : Nat} {p r : List Char} {item : Item} : IsPiece p (p ++ r) →
      p ∉ blank + comment → StandsFor line (line + p.count '\n') p item → Reads line (p ++ r) item r

theorem numeral_of_valid {whole fraction : List Char} (hv : (Piece.number whole fraction).Valid) :
    Numeral (Piece.number whole fraction).text whole fraction := by
  obtain ⟨hne, hw, hf⟩ := hv
  refine ⟨mem_digits.2 ⟨hne, hw⟩, ?_⟩
  cases fraction with
  | nil => exact .inl ⟨rfl, rfl⟩
  | cons d ds => exact .inr ⟨mem_digits.2 ⟨by simp, hf⟩, rfl⟩

theorem valid_of_numeral {w whole fraction : List Char} (h : Numeral w whole fraction) :
    (Piece.number whole fraction).Valid ∧ (Piece.number whole fraction).text = w := by
  obtain ⟨hw, ⟨rfl, rfl⟩ | ⟨hf, rfl⟩⟩ := h
  · obtain ⟨hne, hw⟩ := mem_digits.1 hw
    exact ⟨⟨hne, hw, by simp⟩, rfl⟩
  · obtain ⟨hne, hw⟩ := mem_digits.1 hw
    obtain ⟨hfne, hf⟩ := mem_digits.1 hf
    obtain ⟨d, ds, rfl⟩ := List.exists_cons_of_ne_nil hfne
    exact ⟨⟨hne, hw, hf⟩, rfl⟩

end Grammar

/-- Every keyword is a word. -/
theorem Keyword.valid_chars (k : Keyword) : (Piece.word k.chars).Valid := by
  cases k <;> exact ⟨_, _, rfl, rfl, List.all_eq_true.1 rfl⟩

namespace Piece

open Grammar

theorem item?_number (whole fraction : List Char) (first last : Nat) :
    (number whole fraction).item? first last =
      some (numberItem (String.ofList (number whole fraction).text) first
        (Decimal.read whole fraction).nearest?) := rfl

/-- A valid piece is skipped if it is a blank or a comment. -/
theorem item?_eq_none_iff {p : Piece} (hv : p.Valid) {first last : Nat} :
    p.item? first last = none ↔ p.text ∈ Grammar.blank + Grammar.comment := by
  rw [Language.mem_add, mem_blank, mem_comment]
  constructor
  · intro h
    cases p with
    | blank c => exact .inl ⟨c, hv, rfl⟩
    | comment body => exact .inr ⟨body, hv, rfl⟩
    | _ => cases h
  · intro h
    rcases h with ⟨c, hc, ht⟩ | ⟨body, hb, ht⟩
    · rw [eq_of_text_eq hv hc ht]
      rfl
    · rw [eq_of_text_eq hv hb ht]
      rfl

theorem standsFor_item? {p : Piece} (hv : p.Valid) {first last : Nat} {item : Item}
    (h : p.item? first last = some item) : StandsFor first last p.text item := by
  cases p with
  | operator op => cases h; exact .operator op
  | word letters =>
    cases h
    unfold TokenKind.ofWord
    split
    · next k hk =>
      obtain rfl := Keyword.chars_of_ofChars? hk
      exact .keyword k
    · next hk =>
      refine .identifier (mem_word.2 hv) fun k hkw => ?_
      obtain rfl : letters = k.chars := hkw
      simp [Keyword.ofChars?_chars] at hk
  | number whole fraction =>
    have hn := numeral_of_valid hv
    cases h
    cases hx : (Decimal.read whole fraction).nearest? with
    | some x => exact .number hn hx
    | none => exact .outOfRange hn hx
  | string body => cases h; exact .string hv
  | openString body => cases h; exact .openString hv
  | stray c =>
    cases h
    refine .stray (fun hc => ?_) hv.2.1
    obtain ⟨p, hp, hcomp, ht⟩ := mem_lexeme_iff.1 hc
    rw [eq_of_text_eq hp hv ht.symm] at hcomp
    exact hcomp
  | _ => cases h

/-- What is cut off is a longest match. -/
theorem isPiece_cut (c : Char) (cs : List Char) :
    IsPiece (cut c cs).1.text ((cut c cs).1.text ++ (cut c cs).2) := by
  rw [text_append_cut]
  exact isPiece_iff.2 rfl

/-- A longest match in front of `r` is what is cut off. -/
theorem cut_of_isPiece {p r : List Char} (h : IsPiece p (p ++ r)) :
    ∃ c cs, p ++ r = c :: cs ∧ (cut c cs).1.text = p ∧ (cut c cs).2 = r := by
  have hcons : ∃ c cs, p ++ r = c :: cs := by
    rcases h with ⟨hm, -, -⟩ | ⟨-, c, cs, hc, -⟩
    · obtain ⟨q, hq, -, rfl⟩ := mem_lexeme_iff.1 hm
      exact List.exists_cons_of_ne_nil (by simp [text_ne_nil hq])
    · exact ⟨c, cs, hc⟩
  obtain ⟨c, cs, hc⟩ := hcons
  have ht := text_append_cut c cs
  have hp := isPiece_iff.1 (hc ▸ h)
  refine ⟨c, cs, hc, hp.symm, ?_⟩
  rw [← hc, ← hp] at ht
  exact List.append_cancel_left ht

/-- A piece that stands for an item is a valid piece of that item. -/
theorem item?_of_standsFor {w : List Char} {first last : Nat} {item : Item}
    (h : StandsFor first last w item) :
    ∃ p : Piece, p.Valid ∧ p.text = w ∧ p.item? first last = some item := by
  cases h with
  | operator op => exact ⟨operator op, trivial, rfl, rfl⟩
  | keyword k =>
    exact ⟨word k.chars, k.valid_chars, rfl, by
      simp [item?, TokenKind.ofWord, Keyword.ofChars?_chars, text]⟩
  | identifier hw hk =>
    refine ⟨word w, mem_word.1 hw, rfl, ?_⟩
    have hn : Keyword.ofChars? w = none := by
      cases ho : Keyword.ofChars? w with
      | none => rfl
      | some k => exact absurd (Keyword.chars_of_ofChars? ho).symm (hk k)
    simp [item?, TokenKind.ofWord, hn, text]
  | string hb => exact ⟨string _, hb, rfl, rfl⟩
  | number hn hx =>
    obtain ⟨hv, ht⟩ := valid_of_numeral hn
    exact ⟨number _ _, hv, ht, by rw [item?_number, hx, ht, numberItem]⟩
  | outOfRange hn hx =>
    obtain ⟨hv, ht⟩ := valid_of_numeral hn
    exact ⟨number _ _, hv, ht, by rw [item?_number, hx, ht, numberItem]⟩
  | openString hb => exact ⟨openString _, hb, rfl, rfl⟩
  | @stray c hc hq =>
    have hno : ∀ p : Piece, p.Valid → p.Complete → p.text ≠ [c] :=
      fun p hp hcomp ht => hc (mem_lexeme_iff.2 ⟨p, hp, hcomp, ht.symm⟩)
    refine ⟨stray c, ⟨?_, hq, ?_, ?_, ?_⟩, rfl, rfl⟩
    · by_contra hb
      exact hno (blank c) (by simpa [Valid] using hb) trivial rfl
    · by_contra hd
      exact hno (number [c] []) ⟨by simp, by simpa using hd, by simp⟩ trivial rfl
    · by_contra hw
      exact hno (word [c]) ⟨c, [], rfl, by simpa using hw, by simp⟩ trivial rfl
    · cases ho : Operator.ofChar? c with
      | none => rfl
      | some op => exact absurd (Operator.chars_of_ofChar? ho) (hno (operator op) trivial trivial)

end Piece

namespace Scanner

open Grammar

/-- A step gives what the unread text gives next. -/
theorem reads_of_next? {s : Scanner} {step : Step} (hs : s.next? = some step) :
    Reads s.line s.rest step.item step.scanner.rest := by
  fun_induction next? s with
  | case1 => cases hs
  | case2 s hf hr =>
    cases hs
    simpa [finish, hr] using Reads.ends s.line
  | case3 s hf c cs hr first behind hi ih =>
    have hv := (Piece.valid_cut c cs).1
    have h := Reads.skips (Piece.isPiece_cut c cs) ((Piece.item?_eq_none_iff hv).1 hi) (ih hs)
    rwa [Piece.text_append_cut, ← hr] at h
  | case4 s hf c cs hr first behind item hi =>
    cases hs
    have hv := (Piece.valid_cut c cs).1
    have hn : first.1.text ∉ blank + comment := fun hm => by
      rw [(Piece.item?_eq_none_iff hv).2 hm] at hi
      cases hi
    have h := Reads.finds (Piece.isPiece_cut c cs) hn (Piece.standsFor_item? hv hi)
    rw [Piece.text_append_cut, ← hr] at h
    simpa [behind, pass] using h

/-- What the unread text gives next, a step gives. -/
theorem next?_of_reads {line : Nat} {r rest : List Char} {item : Item}
    (h : Reads line r item rest) {s : Scanner} (hf : s.finished = false) (hl : s.line = line)
    (hr : s.rest = r) :
    ∃ step, s.next? = some step ∧ step.item = item ∧ step.scanner.rest = rest := by
  induction h generalizing s with
  | ends line =>
    exact ⟨_, next?_nil hf hr, by simp [finish, hl], by simp [finish, hr]⟩
  | @skips line p r rest item hp hm _ ih =>
    obtain ⟨c, cs, hc, rfl, rfl⟩ := Piece.cut_of_isPiece hp
    rw [hc] at hr
    rw [next?_skip hf hr ((Piece.item?_eq_none_iff (Piece.valid_cut c cs).1).2 hm)]
    exact ih hf (by simp [pass, hl, Piece.newlines]) rfl
  | @finds line p r item hp hn hi =>
    obtain ⟨c, cs, hc, rfl, rfl⟩ := Piece.cut_of_isPiece hp
    rw [hc] at hr
    obtain ⟨q, hq, ht, hqi⟩ := Piece.item?_of_standsFor hi
    rw [Piece.eq_of_text_eq hq (Piece.valid_cut c cs).1 ht, ← hl] at hqi
    exact ⟨_, next?_item hf hr hqi, rfl, by simp [pass]⟩

/-- **A scanner is a longest-match lexer**: until it gave the end of its text, what remains of the
text begins at the offset of the scanner, and the next step gives just what the longest matches of
the grammar read there. -/
theorem next?_longest_match {source : String} {items : List Item} {s : Scanner}
    (h : Run source items s) (hopen : ∀ item ∈ items, item.isEnd = false) :
    ∃ passed step, source.toList = passed ++ s.rest ∧
      s.offset = (String.ofList passed).utf8ByteSize ∧ s.next? = some step ∧
      ∀ item rest, Reads s.line s.rest item rest ↔
        item = step.item ∧ rest = step.scanner.rest := by
  obtain ⟨passed, hp⟩ := h.position
  have hf : s.finished = false := by
    rw [← Bool.not_eq_true, h.finished_iff]
    intro hend
    obtain ⟨item, hi, he⟩ := hend
    simp [hopen item hi] at he
  obtain ⟨step, hs⟩ := Option.isSome_iff_exists.1 (isSome_next? hf)
  refine ⟨passed, step, hp.chars, hp.offset, hs, fun item rest => ⟨fun hr => ?_, ?_⟩⟩
  · obtain ⟨step', hs', rfl, rfl⟩ := next?_of_reads hr hf rfl rfl
    obtain rfl : step = step' := by simpa [hs] using hs'
    exact ⟨rfl, rfl⟩
  · intro hir
    obtain ⟨rfl, rfl⟩ := hir
    exact reads_of_next? hs

/-- Behind a word, with a comment, a number and a point before the end of the text. -/
theorem next?_longest_match_behind_word :
    let items := [Item.token ⟨.identifier, "a", 1⟩]
    let s : Scanner := ⟨"//\n1.x".toList, 1, 1, false, 1, 0⟩
    Run "a//\n1.x" items s ∧ (∀ item ∈ items, item.isEnd = false) ∧
      ∃ passed step, "a//\n1.x".toList = passed ++ s.rest ∧
        s.offset = (String.ofList passed).utf8ByteSize ∧ s.next? = some step ∧
        ∀ item rest, Reads s.line s.rest item rest ↔
          item = step.item ∧ rest = step.scanner.rest := by
  intro items s
  have hr : (ofString "a//\n1.x").rest = 'a' :: ['/', '/', '\n', '1', '.', 'x'] := by
    simp [ofString]
  have hs : (ofString "a//\n1.x").next? = some ⟨.token ⟨.identifier, "a", 1⟩, _, s⟩ :=
    next?_item rfl hr (by decide +kernel)
  have hrun : Run "a//\n1.x" items s := Run.step Run.start hs
  have hopen : ∀ item ∈ items, item.isEnd = false := by decide
  exact ⟨hrun, hopen, next?_longest_match hrun hopen⟩

end Scanner

end LoxLexer
