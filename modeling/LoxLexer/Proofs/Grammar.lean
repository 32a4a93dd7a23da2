import LoxLexer.Proofs.Piece.Boundary
import Mathlib.Computability.Language
import Mathlib.Data.Char
import Mathlib.Order.Interval.Set.Defs

/-! # The lexical grammar of Lox

The rules of the grammar as regular languages, with no reference to how a text is cut, and the
piece of a text as their longest match. `mem_lexeme_iff` says that the words of the grammar are what
complete pieces write down, and `isPiece_iff` that `Piece.cut` takes the longest match.
-/

set_option autoImplicit false

namespace LoxLexer

namespace Grammar

open Computability

/-! ## The rules -/

/-- The texts of one character of a class. -/
def oneOf (s : Set Char) : Language Char := {w | ∃ c ∈ s, w = [c]}

def letter : Set Char := Set.Icc 'A' 'Z' ∪ Set.Icc 'a' 'z' ∪ {'_'}

def digit : Set Char := Set.Icc '0' '9'

def operator : Language Char := {w | ∃ op : Operator, w = op.chars}

def word : Language Char := oneOf letter * (oneOf (letter ∪ digit))∗

def digits : Language Char := oneOf digit * (oneOf digit)∗

def number : Language Char := digits * (1 + oneOf {'.'} * digits)

def string : Language Char := oneOf {'"'} * (oneOf {'"'}ᶜ)∗ * oneOf {'"'}

def blank : Language Char := oneOf {' ', '\r', '\t', '\n'}

def comment : Language Char := oneOf {'/'} * oneOf {'/'} * (oneOf {'\n'}ᶜ)∗

def lexeme : Language Char := operator + word + number + string + blank + comment

/-! ## Longest matches -/

/-- The longest prefix of `r` in a language. -/
structure LongestPrefix (L : Language Char) (p r : List Char) : Prop where
  mem : p ∈ L
  isPrefix : p <+: r
  longest : ∀ q ∈ L, q <+: r → q.length ≤ p.length

/-- The piece of a nonempty text: its longest match or, where nothing matches, the whole text if it
starts with a quote and its first character if not. -/
def IsPiece (p r : List Char) : Prop :=
  LongestPrefix lexeme p r ∨
    (∀ q ∈ lexeme, ¬ q <+: r) ∧ ∃ c cs, r = c :: cs ∧ p = if c = '"' then r else [c]

/-! ## The characters of the classes -/

theorem mem_letter {c : Char} : c ∈ letter ↔ Piece.startsWord c = true := by
  rw [letter, Set.mem_union, Set.mem_union, Set.mem_Icc, Set.mem_Icc, Set.mem_singleton_iff,
    Piece.startsWord_iff]

theorem mem_digit {c : Char} : c ∈ digit ↔ c.isDigit = true := by
  rw [digit, Set.mem_Icc, Piece.isDigit_iff]

theorem mem_letter_union_digit {c : Char} : c ∈ letter ∪ digit ↔ Piece.continuesWord c = true := by
  rw [Set.mem_union, mem_letter, mem_digit, Piece.continuesWord, Bool.or_eq_true]

/-! ## The words of the rules -/

theorem mem_star_oneOf {s : Set Char} {w : List Char} : w ∈ (oneOf s)∗ ↔ ∀ c ∈ w, c ∈ s := by
  rw [Language.mem_kstar]
  constructor
  · intro hw c hc
    obtain ⟨parts, rfl, h⟩ := hw
    obtain ⟨part, hp, hcp⟩ := List.mem_flatten.1 hc
    obtain ⟨d, hd, rfl⟩ := h part hp
    rwa [List.mem_singleton.1 hcp]
  · intro h
    refine ⟨w.map fun c => [c], ?_, fun part hp => ?_⟩
    · rw [← List.flatMap_def, List.flatMap_singleton']
    · obtain ⟨c, hc, rfl⟩ := List.mem_map.1 hp
      exact ⟨c, h c hc, rfl⟩

theorem mem_oneOf_mul {s : Set Char} {L : Language Char} {w : List Char} :
    w ∈ oneOf s * L ↔ ∃ c ∈ s, ∃ v ∈ L, w = c :: v := by
  rw [Language.mem_mul]
  constructor
  · intro h
    obtain ⟨-, ⟨c, hc, rfl⟩, v, hv, rfl⟩ := h
    exact ⟨c, hc, v, hv, rfl⟩
  · intro h
    obtain ⟨c, hc, v, hv, rfl⟩ := h
    exact ⟨[c], ⟨c, hc, rfl⟩, v, hv, rfl⟩

theorem mem_word {w : List Char} : w ∈ word ↔ (Piece.word w).Valid := by
  rw [word, mem_oneOf_mul]
  simp only [mem_star_oneOf, mem_letter, mem_letter_union_digit, Piece.Valid]
  grind

theorem mem_digits {w : List Char} : w ∈ digits ↔ w ≠ [] ∧ ∀ c ∈ w, c.isDigit = true := by
  rw [digits, mem_oneOf_mul]
  simp only [mem_star_oneOf, mem_digit]
  cases w <;> simp

theorem mem_number {w : List Char} :
    w ∈ number ↔ ∃ whole fraction, (Piece.number whole fraction).Valid ∧
      w = (Piece.number whole fraction).text := by
  rw [number, Language.mem_mul]
  constructor
  · intro h
    obtain ⟨whole, hw, tail, ht, rfl⟩ := h
    rw [mem_digits] at hw
    rw [Language.mem_add, Language.mem_one, mem_oneOf_mul] at ht
    rcases ht with rfl | ⟨c, rfl, fraction, hf, rfl⟩
    · exact ⟨whole, [], ⟨hw.1, hw.2, by simp⟩, by simp [Piece.text]⟩
    · rw [mem_digits] at hf
      obtain ⟨d, ds, rfl⟩ := List.exists_cons_of_ne_nil hf.1
      exact ⟨whole, d :: ds, ⟨hw.1, hw.2, hf.2⟩, rfl⟩
  · intro h
    obtain ⟨whole, fraction, ⟨hne, hw, hf⟩, rfl⟩ := h
    refine ⟨whole, mem_digits.2 ⟨hne, hw⟩, ?_⟩
    cases fraction with
    | nil => exact ⟨[], .inl rfl, by simp [Piece.text]⟩
    | cons d ds =>
      refine ⟨'.' :: d :: ds, .inr ?_, rfl⟩
      exact mem_oneOf_mul.2 ⟨'.', rfl, d :: ds, mem_digits.2 ⟨by simp, hf⟩, rfl⟩

theorem mem_string {w : List Char} :
    w ∈ string ↔ ∃ body, (Piece.string body).Valid ∧ w = (Piece.string body).text := by
  rw [string, mul_assoc, mem_oneOf_mul]
  constructor
  · intro h
    obtain ⟨c, rfl, v, hv, rfl⟩ := h
    obtain ⟨body, hb, -, ⟨d, rfl, rfl⟩, rfl⟩ := Language.mem_mul.1 hv
    exact ⟨body, fun hq => mem_star_oneOf.1 hb _ hq rfl, rfl⟩
  · intro h
    obtain ⟨body, hb, rfl⟩ := h
    refine ⟨'"', rfl, body ++ ['"'], ?_, rfl⟩
    refine Language.append_mem_mul (mem_star_oneOf.2 fun c hc => ?_) ⟨'"', rfl, rfl⟩
    exact ne_of_mem_of_not_mem hc hb

theorem mem_blank {w : List Char} :
    w ∈ blank ↔ ∃ c, (Piece.blank c).Valid ∧ w = (Piece.blank c).text := by
  simp only [blank, Piece.Valid, Piece.isBlank, Piece.text, Bool.or_eq_true, beq_iff_eq, or_assoc]
  rfl

theorem mem_comment {w : List Char} :
    w ∈ comment ↔ ∃ body, (Piece.comment body).Valid ∧ w = (Piece.comment body).text := by
  rw [comment, mul_assoc, mem_oneOf_mul]
  constructor
  · intro h
    obtain ⟨c, rfl, v, hv, rfl⟩ := h
    obtain ⟨d, rfl, body, hb, rfl⟩ := mem_oneOf_mul.1 hv
    exact ⟨body, fun hn => mem_star_oneOf.1 hb _ hn rfl, rfl⟩
  · intro h
    obtain ⟨body, hb, rfl⟩ := h
    refine ⟨'/', rfl, '/' :: body, mem_oneOf_mul.2 ⟨'/', rfl, body, ?_, rfl⟩, rfl⟩
    exact mem_star_oneOf.2 fun c hc => ne_of_mem_of_not_mem hc hb

end Grammar

/-! ## Pieces as longest matches -/

namespace Piece

/-- The piece is no error: not a string left open, not a stray character. -/
def Complete : Piece → Prop
  | openString _ | stray _ => False
  | _ => True

/-- **The words of the grammar** are what complete pieces write down. -/
theorem mem_lexeme_iff {w : List Char} :
    w ∈ Grammar.lexeme ↔ ∃ p : Piece, p.Valid ∧ p.Complete ∧ w = p.text := by
  simp only [Grammar.lexeme, Language.mem_add, Grammar.mem_word, Grammar.mem_number,
    Grammar.mem_string, Grammar.mem_blank, Grammar.mem_comment]
  constructor
  · intro hw
    rcases hw with ((((⟨op, rfl⟩ | h) | ⟨whole, fraction, h, rfl⟩) | ⟨body, h, rfl⟩) |
      ⟨c, h, rfl⟩) | ⟨body, h, rfl⟩
    · exact ⟨operator op, trivial, trivial, rfl⟩
    · exact ⟨word w, h, trivial, rfl⟩
    · exact ⟨number whole fraction, h, trivial, rfl⟩
    · exact ⟨string body, h, trivial, rfl⟩
    · exact ⟨blank c, h, trivial, rfl⟩
    · exact ⟨comment body, h, trivial, rfl⟩
  · intro hw
    obtain ⟨p, hv, hc, rfl⟩ := hw
    cases p with
    | operator op => exact .inl (.inl (.inl (.inl (.inl ⟨op, rfl⟩))))
    | word letters => exact .inl (.inl (.inl (.inl (.inr hv))))
    | number whole fraction => exact .inl (.inl (.inl (.inr ⟨whole, fraction, hv, rfl⟩)))
    | string body => exact .inl (.inl (.inr ⟨body, hv, rfl⟩))
    | blank c => exact .inl (.inr ⟨c, hv, rfl⟩)
    | comment body => exact .inr ⟨body, hv, rfl⟩
    | openString body => exact hc.elim
    | stray c => exact hc.elim

theorem length_le_cut_operator {op : Operator} {t : List Char} {c : Char} {cs : List Char}
    (h : op.chars ++ t = c :: cs) :
    (cut c cs).1.Complete ∧ op.chars.length ≤ (cut c cs).1.text.length := by
  rcases op.ofChar?_or_withEqual? with ⟨d, hd, ho⟩ | ⟨d, base, hd, -, -, hj⟩
  · rw [hd] at h ⊢
    obtain ⟨rfl, rfl⟩ : d = c ∧ t = cs := by simpa using h
    refine ⟨?_, List.length_pos_of_ne_nil (text_ne_nil (valid_cut d t).1)⟩
    by_cases hs : d = '/'
    · subst hs
      rw [cut_slash]
      unfold cutSlash
      split <;> trivial
    · rw [cut_operator ho hs]
      unfold cutOperator
      split <;> trivial
  · have he : (operator op).EndsBefore t :=
      ⟨fun hop => absurd hop (Operator.ends_of_withEqual? hj).1,
        fun hop => absurd (Operator.ends_of_withEqual? hj).2 hop⟩
    rw [cut_text_operator he h]
    exact ⟨trivial, Nat.le_refl _⟩

theorem length_le_cut_number {whole fraction t : List Char} {c : Char} {cs : List Char}
    (hv : (number whole fraction).Valid) (h : (number whole fraction).text ++ t = c :: cs) :
    (cut c cs).1.Complete ∧
      (number whole fraction).text.length ≤ (cut c cs).1.text.length := by
  rw [cut_digit (isDigit_of_number hv h), ← h]
  obtain ⟨-, hw, hf⟩ := hv
  cases fraction with
  | nil =>
    have hlen : whole.length ≤ ((whole ++ t).takeWhile Char.isDigit).length := by
      simp [List.takeWhile_append_of_pos hw]
    unfold cutNumber
    simp only [text]
    split
    · split <;> simp only [Complete, List.length_append, true_and] <;> omega
    · exact ⟨trivial, hlen⟩
  | cons d ds =>
    have hdot := isDigit_head_dot (d :: (ds ++ t))
    have hds : ∀ e ∈ ds, e.isDigit = true := fun e he => hf e (List.mem_cons_of_mem d he)
    unfold cutNumber
    simp only [text, List.append_assoc, List.cons_append, takeWhile_run hw hdot,
      dropWhile_run hw hdot]
    simp [hf d, List.takeWhile_append_of_pos hds, Complete]

/-- No complete piece at the front of a text is longer than the piece that is cut off, which is then
complete too. -/
theorem length_le_cut {q : Piece} (hv : q.Valid) (hq : q.Complete) {t : List Char} {c : Char}
    {cs : List Char} (h : q.text ++ t = c :: cs) :
    (cut c cs).1.Complete ∧ q.text.length ≤ (cut c cs).1.text.length := by
  cases q with
  | blank d =>
    obtain ⟨rfl, rfl⟩ : d = c ∧ t = cs := by simpa [text] using h
    simp [cut_blank hv, Complete]
  | comment body =>
    obtain ⟨rfl, rfl⟩ : '/' = c ∧ '/' :: (body ++ t) = cs := by simpa [text] using h
    simp [cut_slash, cutSlash, List.takeWhile_append_of_pos (ne_of_not_mem hv), Complete, text]
  | operator op => exact length_le_cut_operator h
  | word letters =>
    obtain ⟨d, ds, rfl, hd, hds⟩ := hv
    obtain ⟨rfl, rfl⟩ : d = c ∧ ds ++ t = cs := by simpa [text] using h
    simp [cut_letter hd, List.takeWhile_append_of_pos hds, Complete, text]
  | number whole fraction => exact length_le_cut_number hv h
  | string body =>
    obtain ⟨rfl, rfl⟩ : '"' = c ∧ body ++ '"' :: t = cs := by simpa [text] using h
    rw [cut_of_valid (p := string body) hv (show EndsBefore t _ from trivial) (by simp [text])]
    simp [Complete]
  | openString body => exact hq.elim
  | stray d => exact hq.elim

theorem not_complete_iff {p : Piece} :
    ¬ p.Complete ↔ (∃ body, p = openString body) ∨ ∃ c, p = stray c := by
  cases p <;> simp [Complete]

/-- **`cut` takes the longest match**: what it cuts off is the piece of the text, the only one. -/
theorem isPiece_iff {w : List Char} {c : Char} {cs : List Char} :
    Grammar.IsPiece w (c :: cs) ↔ w = (cut c cs).1.text := by
  have htext := text_append_cut c cs
  obtain ⟨hv, he⟩ := valid_cut c cs
  have hpre : (cut c cs).1.text <+: c :: cs := ⟨_, htext⟩
  have hlong : ∀ q ∈ Grammar.lexeme, q <+: c :: cs →
      (cut c cs).1.Complete ∧ q.length ≤ (cut c cs).1.text.length := by
    intro q hq ⟨t, ht⟩
    obtain ⟨p, hp, hcomp, rfl⟩ := mem_lexeme_iff.1 hq
    exact length_le_cut hp hcomp ht
  by_cases hcomp : (cut c cs).1.Complete
  · have hmem : (cut c cs).1.text ∈ Grammar.lexeme := mem_lexeme_iff.2 ⟨_, hv, hcomp, rfl⟩
    constructor
    · intro hpiece
      rcases hpiece with ⟨hw, hwp, hwl⟩ | ⟨hno, -⟩
      · have hle := (hlong w hw hwp).2
        exact (List.prefix_of_prefix_length_le hwp hpre hle).eq_of_length_le (hwl _ hmem hpre)
      · exact absurd hpre (hno _ hmem)
    · rintro rfl
      exact .inl ⟨hmem, hpre, fun q hq hqp => (hlong q hq hqp).2⟩
  · have hno : ∀ q ∈ Grammar.lexeme, ¬ q <+: c :: cs := fun q hq hqp => hcomp (hlong q hq hqp).1
    have hif : (cut c cs).1.text = if c = '"' then c :: cs else [c] := by
      rcases not_complete_iff.1 hcomp with ⟨body, hb⟩ | ⟨d, hd⟩
      · rw [hb] at htext he
        rw [hb]
        obtain ⟨rfl, -⟩ : '"' = c ∧ _ := by simpa [text] using htext
        rw [← htext, show (cut '"' cs).2 = [] from he]
        simp
      · rw [hd] at htext hv
        rw [hd]
        obtain ⟨rfl, -⟩ : d = c ∧ _ := by simpa [text] using htext
        rw [if_neg hv.2.1]
        rfl
    constructor
    · intro hpiece
      rcases hpiece with ⟨hw, hwp, -⟩ | ⟨-, d, ds, hd, rfl⟩
      · exact absurd hwp (hno w hw)
      · obtain ⟨rfl, rfl⟩ : c = d ∧ cs = ds := by simpa using hd
        exact hif.symm
    · rintro rfl
      exact .inr ⟨hno, c, cs, rfl, hif⟩

end Piece

end LoxLexer
