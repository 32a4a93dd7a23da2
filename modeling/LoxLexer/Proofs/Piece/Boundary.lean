import LoxLexer.Piece
import Mathlib.Data.List.TakeWhile

/-! # Where a piece ends

`Piece.Valid` says which pieces have the form of their kind, and `Piece.EndsBefore` what may stand
behind one: nothing that would continue it. Together they say what `cut` takes off a text.

* `cut_eq_iff`: `cut` takes the valid piece that what follows does not continue, and no other.
* `eq_of_text_eq`: a valid piece is determined by its text.
-/

set_option autoImplicit false

namespace LoxLexer

namespace Operator

/-- A joined operator is not joined further. -/
theorem ends_of_withEqual? {op joined : Operator} (h : op.withEqual? = some joined) :
    joined ≠ .slash ∧ joined.withEqual? = none := by
  cases op <;> cases h <;> decide

/-- An operator is one character, or one with a `=` behind it. -/
theorem ofChar?_or_withEqual? (op : Operator) :
    (∃ c, op.chars = [c] ∧ ofChar? c = some op) ∨
      ∃ c base, op.chars = [c, '='] ∧ ofChar? c = some base ∧ base ≠ .slash ∧
        base.withEqual? = some op := by
  cases op <;> first
    | exact .inl ⟨_, rfl, rfl⟩
    | exact .inr ⟨_, _, rfl, rfl, by decide, rfl⟩

end Operator

namespace Piece

/-! ## Well-formed pieces -/

/-- The piece has the form that its kind asks for. -/
def Valid : Piece → Prop
  | blank c => isBlank c = true
  | comment body => '\n' ∉ body
  | operator _ => True
  | word letters => ∃ c cs, letters = c :: cs ∧ startsWord c = true ∧ ∀ d ∈ cs, continuesWord d = true
  | number whole fraction =>
    whole ≠ [] ∧ (∀ d ∈ whole, d.isDigit = true) ∧ ∀ d ∈ fraction, d.isDigit = true
  | string body => '"' ∉ body
  | openString body => '"' ∉ body
  | stray c => isBlank c = false ∧ c ≠ '"' ∧ c.isDigit = false ∧ startsWord c = false ∧
    Operator.ofChar? c = none

/-- The text `rest` does not continue the piece. -/
def EndsBefore (rest : List Char) : Piece → Prop
  | comment _ => ∀ c ∈ rest.head?, c = '\n'
  | operator op => (op = .slash → rest.head? ≠ some '/') ∧
    (op.withEqual? ≠ none → rest.head? ≠ some '=')
  | word _ => ∀ c ∈ rest.head?, continuesWord c = false
  | number _ [] => (∀ c ∈ rest.head?, c.isDigit = false) ∧
    ∀ d more, rest = '.' :: d :: more → d.isDigit = false
  | number _ (_ :: _) => ∀ c ∈ rest.head?, c.isDigit = false
  | openString _ => rest = []
  | blank _ | string _ | stray _ => True

@[simp] theorem endsBefore_nil (p : Piece) : p.EndsBefore [] := by
  cases p with
  | number whole fraction => cases fraction <;> simp [EndsBefore]
  | _ => simp [EndsBefore]

/-! ## Runs of characters -/

section
variable {p : Char → Bool} {body rest : List Char}

/-- A run of one class ends where a character of another one follows. -/
theorem takeWhile_run (h : ∀ c ∈ body, p c = true) (he : ∀ c ∈ rest.head?, p c = false) :
    (body ++ rest).takeWhile p = body := by
  have hr : rest.takeWhile p = [] := by cases rest <;> simp_all
  simp [List.takeWhile_append_of_pos h, hr]

theorem dropWhile_run (h : ∀ c ∈ body, p c = true) (he : ∀ c ∈ rest.head?, p c = false) :
    (body ++ rest).dropWhile p = rest := by
  have hr : rest.dropWhile p = rest := by cases rest <;> simp_all
  simp [List.dropWhile_append_of_pos h, hr]

theorem head_dropWhile (p : Char → Bool) (cs : List Char) :
    ∀ c ∈ (cs.dropWhile p).head?, p c = false := by
  intro c hc
  have h := List.head?_dropWhile_not p cs
  rw [hc] at h
  simpa using h

end

theorem ne_of_not_mem {q : Char} {body : List Char} (h : q ∉ body) :
    ∀ c ∈ body, (c != q) = true := by
  intro c hc
  simpa using ne_of_mem_of_not_mem hc h

theorem not_mem_takeWhile_ne (q : Char) (cs : List Char) : q ∉ cs.takeWhile (· != q) := by
  intro h
  simpa using List.mem_takeWhile_imp h

/-! ## The character that a piece starts with -/

theorem classes_of_isBlank {c : Char} (h : isBlank c = true) :
    c ≠ '"' ∧ c.isDigit = false ∧ startsWord c = false := by
  simp only [isBlank, Bool.or_eq_true, beq_iff_eq] at h
  rcases h with ((rfl | rfl) | rfl) | rfl <;> decide

theorem startsWord_iff {c : Char} :
    startsWord c = true ↔ ('A' ≤ c ∧ c ≤ 'Z' ∨ 'a' ≤ c ∧ c ≤ 'z') ∨ c = '_' := by
  have h : startsWord c = (decide ('A' ≤ c ∧ c ≤ 'Z') ||
      (decide ('a' ≤ c) && decide (c ≤ 'z')) || c == '_') := rfl
  simp [h]

theorem isDigit_iff {c : Char} : c.isDigit = true ↔ '0' ≤ c ∧ c ≤ '9' := by
  have h : c.isDigit = (decide ('0' ≤ c) && decide (c ≤ '9')) := rfl
  simp [h]

/-- All digits stand before the letters. -/
theorem startsWord_of_isDigit {c : Char} (h : c.isDigit = true) : startsWord c = false := by
  obtain ⟨-, h9⟩ := isDigit_iff.1 h
  have hlt : ∀ d : Char, '9' < d → ¬ d ≤ c := fun d hd hdc =>
    absurd (Char.le_trans hdc h9) (by simpa using hd)
  rw [← Bool.not_eq_true, startsWord_iff]
  intro hw
  rcases hw with (⟨ha, -⟩ | ⟨ha, -⟩) | rfl
  · exact hlt _ (by decide) ha
  · exact hlt _ (by decide) ha
  · exact absurd h9 (by decide)

/-- An operator's character belongs to no other class. -/
theorem classes_of_ofChar? {c : Char} {op : Operator} (h : Operator.ofChar? c = some op) :
    isBlank c = false ∧ c ≠ '"' ∧ c.isDigit = false ∧ startsWord c = false := by
  unfold Operator.ofChar? at h
  split at h <;> cases h <;> decide

theorem cut_blank {c : Char} (h : isBlank c = true) (cs : List Char) : cut c cs = (blank c, cs) := by
  simp [cut, h]

theorem cut_quote (cs : List Char) : cut '"' cs = cutString cs := rfl

theorem cut_digit {c : Char} (h : c.isDigit = true) (cs : List Char) :
    cut c cs = cutNumber (c :: cs) := by
  have hb : isBlank c = false := by
    by_contra hb
    simp [(classes_of_isBlank (by simpa using hb)).2.1] at h
  have hq : c ≠ '"' := by rintro rfl; exact absurd h (by decide)
  simp [cut, hb, hq, h]

theorem cut_letter {c : Char} (h : startsWord c = true) (cs : List Char) :
    cut c cs = (word (c :: cs.takeWhile continuesWord), cs.dropWhile continuesWord) := by
  have hd : c.isDigit = false := by
    by_contra hd
    simp [startsWord_of_isDigit (by simpa using hd)] at h
  have hb : isBlank c = false := by
    by_contra hb
    simp [(classes_of_isBlank (by simpa using hb)).2.2] at h
  have hq : c ≠ '"' := by rintro rfl; exact absurd h (by decide)
  simp [cut, hb, hq, hd, h]

theorem cut_slash (cs : List Char) : cut '/' cs = cutSlash cs := rfl

theorem cut_operator {c : Char} {op : Operator} (h : Operator.ofChar? c = some op) (hc : c ≠ '/')
    (cs : List Char) : cut c cs = cutOperator op cs := by
  obtain ⟨hb, hq, hd, hw⟩ := classes_of_ofChar? h
  simp [cut, hb, hq, hd, hw, hc, h]

theorem cut_stray {c : Char} (h : (stray c).Valid) (cs : List Char) : cut c cs = (stray c, cs) := by
  obtain ⟨hb, hq, hd, hw, ho⟩ := h
  have hc : c ≠ '/' := by rintro rfl; cases ho
  simp [cut, hb, hq, hd, hw, hc, ho]

/-! ## What is cut is valid and not continued -/

theorem valid_cutString (cs : List Char) :
    (cutString cs).1.Valid ∧ (cutString cs).1.EndsBefore (cutString cs).2 := by
  unfold cutString
  split
  · next h => exact ⟨fun hq => by simpa using List.dropWhile_eq_nil_iff.1 h _ hq, rfl⟩
  · exact ⟨not_mem_takeWhile_ne '"' cs, trivial⟩

theorem valid_cutNumber {c : Char} (h : c.isDigit = true) (cs : List Char) :
    (cutNumber (c :: cs)).1.Valid ∧ (cutNumber (c :: cs)).1.EndsBefore (cutNumber (c :: cs)).2 := by
  have hne : (c :: cs).takeWhile Char.isDigit ≠ [] := by simp [h]
  have hw : ∀ d ∈ (c :: cs).takeWhile Char.isDigit, d.isDigit = true :=
    fun d hd => List.mem_takeWhile_imp hd
  have hr := head_dropWhile Char.isDigit (c :: cs)
  unfold cutNumber
  split
  · next d rest hd =>
    split
    · next hdd =>
      refine ⟨⟨hne, hw, fun e he => ?_⟩, head_dropWhile Char.isDigit rest⟩
      rcases List.mem_cons.1 he with rfl | he
      · exact hdd
      · exact List.mem_takeWhile_imp he
    · next hdd =>
      refine ⟨⟨hne, hw, by simp⟩, by simp, fun e more he => ?_⟩
      obtain ⟨rfl, -⟩ : d = e ∧ rest = more := by simpa using he
      simpa using hdd
  · next hno =>
    refine ⟨⟨hne, hw, by simp⟩, hr, fun d more hm => ?_⟩
    exact (hno d more hm).elim

theorem valid_cutOperator {op : Operator} (h : op ≠ .slash) (cs : List Char) :
    (cutOperator op cs).1.Valid ∧ (cutOperator op cs).1.EndsBefore (cutOperator op cs).2 := by
  unfold cutOperator
  split
  · next joined rest hj =>
    obtain ⟨hs, he⟩ := Operator.ends_of_withEqual? hj
    exact ⟨trivial, fun hop => absurd hop hs, fun hop => absurd he hop⟩
  · next hno =>
    refine ⟨trivial, fun hop => absurd hop h, fun hop hs => ?_⟩
    obtain ⟨joined, hj⟩ := Option.ne_none_iff_exists'.1 hop
    obtain ⟨rest, rfl⟩ := List.head?_eq_some_iff.1 hs
    exact hno joined rest hj rfl

theorem valid_cutSlash (cs : List Char) :
    (cutSlash cs).1.Valid ∧ (cutSlash cs).1.EndsBefore (cutSlash cs).2 := by
  unfold cutSlash
  split
  · next rest =>
    refine ⟨not_mem_takeWhile_ne '\n' rest, fun c hc => ?_⟩
    simpa using head_dropWhile (· != '\n') rest c hc
  · next hno =>
    refine ⟨trivial, fun _ hs => ?_, by simp [Operator.withEqual?]⟩
    obtain ⟨rest, rfl⟩ := List.head?_eq_some_iff.1 hs
    exact hno rest rfl

/-- **What is cut off is valid, and what follows does not continue it.** -/
theorem valid_cut (c : Char) (cs : List Char) :
    (cut c cs).1.Valid ∧ (cut c cs).1.EndsBefore (cut c cs).2 := by
  by_cases hb : isBlank c = true
  · rw [cut_blank hb]
    exact ⟨hb, trivial⟩
  by_cases hq : c = '"'
  · subst hq
    exact valid_cutString cs
  by_cases hd : c.isDigit = true
  · rw [cut_digit hd]
    exact valid_cutNumber hd cs
  by_cases hw : startsWord c = true
  · rw [cut_letter hw]
    exact ⟨⟨c, _, rfl, hw, fun d hd => List.mem_takeWhile_imp hd⟩,
      head_dropWhile continuesWord cs⟩
  by_cases hs : c = '/'
  · subst hs
    exact valid_cutSlash cs
  cases ho : Operator.ofChar? c with
  | some op =>
    rw [cut_operator ho hs]
    refine valid_cutOperator (fun h => ?_) cs
    subst h
    exact hs (by simpa [Operator.chars] using (Operator.chars_of_ofChar? ho).symm)
  | none =>
    have hv : (stray c).Valid := ⟨by simpa using hb, hq, by simpa using hd, by simpa using hw, ho⟩
    rw [cut_stray hv]
    exact ⟨hv, trivial⟩

/-! ## A valid piece is cut off again -/

/-- A number starts with a digit. -/
theorem isDigit_of_number {whole fraction rest : List Char} {c : Char} {cs : List Char}
    (hv : (number whole fraction).Valid) (h : (number whole fraction).text ++ rest = c :: cs) :
    c.isDigit = true := by
  obtain ⟨hne, hw, -⟩ := hv
  obtain ⟨d, ds, rfl⟩ := List.exists_cons_of_ne_nil hne
  have hdc : d = c := by cases fraction <;> simp [text] at h <;> exact h.1
  exact hdc ▸ hw d (by simp)

theorem isDigit_head_dot (cs : List Char) : ∀ c ∈ ('.' :: cs).head?, c.isDigit = false := by
  intro c hc
  obtain rfl : '.' = c := by simpa using hc
  decide

theorem cut_text_number {whole fraction rest : List Char} {c : Char} {cs : List Char}
    (hv : (number whole fraction).Valid) (he : (number whole fraction).EndsBefore rest)
    (h : (number whole fraction).text ++ rest = c :: cs) :
    cut c cs = (number whole fraction, rest) := by
  rw [cut_digit (isDigit_of_number hv h), ← h]
  obtain ⟨-, hw, hf⟩ := hv
  unfold cutNumber
  cases fraction with
  | nil =>
    obtain ⟨hr, hdot⟩ := he
    simp only [text, takeWhile_run hw hr, dropWhile_run hw hr]
    split
    · next d more =>
      rw [if_neg (by simp [hdot d more rfl])]
    · rfl
  | cons d ds =>
    have hdot := isDigit_head_dot (d :: (ds ++ rest))
    have hds : ∀ e ∈ ds, e.isDigit = true := fun e he => hf e (List.mem_cons_of_mem d he)
    simp only [text, List.append_assoc, List.cons_append, takeWhile_run hw hdot,
      dropWhile_run hw hdot]
    simp [hf d, takeWhile_run hds he, dropWhile_run hds he]

theorem cut_text_operator {op : Operator} {rest : List Char} {c : Char} {cs : List Char}
    (he : (operator op).EndsBefore rest) (h : op.chars ++ rest = c :: cs) :
    cut c cs = (operator op, rest) := by
  obtain ⟨hslash, hequal⟩ := he
  rcases op.ofChar?_or_withEqual? with ⟨d, hd, ho⟩ | ⟨d, base, hd, ho, hs, hj⟩
  · rw [hd] at h
    obtain ⟨rfl, rfl⟩ : d = c ∧ rest = cs := by simpa using h
    by_cases hop : op = .slash
    · subst hop
      obtain rfl : '/' = d := by simpa [Operator.chars] using hd
      rw [cut_slash]
      unfold cutSlash
      split
      · exact absurd rfl (hslash rfl)
      · rfl
    · have hc : d ≠ '/' := by rintro rfl; cases ho; exact hop rfl
      rw [cut_operator ho hc]
      unfold cutOperator
      split
      · next hj => exact absurd rfl (hequal (by simp [hj]))
      · rfl
  · rw [hd] at h
    obtain ⟨rfl, rfl⟩ : d = c ∧ '=' :: rest = cs := by simpa using h
    have hc : d ≠ '/' := by rintro rfl; cases ho; exact hs rfl
    simp [cut_operator ho hc, cutOperator, hj]

/-- **A valid piece is cut off a text that does not continue it.** -/
theorem cut_of_valid {p : Piece} {rest : List Char} {c : Char} {cs : List Char} (hv : p.Valid)
    (he : p.EndsBefore rest) (h : p.text ++ rest = c :: cs) : cut c cs = (p, rest) := by
  cases p with
  | blank d =>
    obtain ⟨rfl, rfl⟩ : d = c ∧ rest = cs := by simpa [text] using h
    exact cut_blank hv rest
  | comment body =>
    obtain ⟨rfl, rfl⟩ : '/' = c ∧ '/' :: (body ++ rest) = cs := by simpa [text] using h
    have hb := ne_of_not_mem hv
    have hr : ∀ d ∈ rest.head?, (d != '\n') = false := fun d hd => by simpa using he d hd
    simp [cut_slash, cutSlash, takeWhile_run hb hr, dropWhile_run hb hr]
  | operator op => exact cut_text_operator he h
  | word letters =>
    obtain ⟨d, ds, rfl, hd, hds⟩ := hv
    obtain ⟨rfl, rfl⟩ : d = c ∧ ds ++ rest = cs := by simpa [text] using h
    rw [cut_letter hd, takeWhile_run hds he, dropWhile_run hds he]
  | number whole fraction => exact cut_text_number hv he h
  | string body =>
    obtain ⟨rfl, rfl⟩ : '"' = c ∧ body ++ '"' :: rest = cs := by simpa [text] using h
    have hb := ne_of_not_mem hv
    have hr : ∀ d ∈ ('"' :: rest).head?, (d != '"') = false := by simp
    simp [cut_quote, cutString, takeWhile_run hb hr, dropWhile_run hb hr]
  | openString body =>
    obtain rfl : rest = [] := he
    obtain ⟨rfl, rfl⟩ : '"' = c ∧ body = cs := by simpa [text] using h
    have hb := List.dropWhile_eq_nil_iff.2 (ne_of_not_mem hv)
    simp [cut_quote, cutString, hb]
  | stray d =>
    obtain ⟨rfl, rfl⟩ : d = c ∧ rest = cs := by simpa [text] using h
    exact cut_stray hv rest

/-- **The first piece of a text**: the valid one that what follows does not continue. -/
theorem cut_eq_iff {p : Piece} {rest : List Char} {c : Char} {cs : List Char} :
    cut c cs = (p, rest) ↔ p.Valid ∧ p.EndsBefore rest ∧ p.text ++ rest = c :: cs := by
  constructor
  · intro h
    obtain ⟨hv, he⟩ := valid_cut c cs
    have ht := text_append_cut c cs
    rw [h] at hv he ht
    exact ⟨hv, he, ht⟩
  · intro h
    obtain ⟨hv, he, ht⟩ := h
    exact cut_of_valid hv he ht

theorem text_ne_nil {p : Piece} (hv : p.Valid) : p.text ≠ [] := by
  cases p with
  | operator op => cases op <;> simp [text, Operator.chars]
  | word letters =>
    obtain ⟨c, cs, rfl, -, -⟩ := hv
    simp [text]
  | number whole fraction =>
    obtain ⟨hne, -, -⟩ := hv
    cases fraction <;> simp [text, hne]
  | _ => simp [text]

/-- A text that a valid piece begins is not empty, and the piece is cut off it. -/
theorem exists_cut {p : Piece} {rest : List Char} (hv : p.Valid) (he : p.EndsBefore rest) :
    ∃ c cs, p.text ++ rest = c :: cs ∧ cut c cs = (p, rest) := by
  have hne : p.text ++ rest ≠ [] := by simp [text_ne_nil hv]
  obtain ⟨c, cs, hc⟩ := List.exists_cons_of_ne_nil hne
  exact ⟨c, cs, hc, cut_of_valid hv he hc⟩

/-- What begins a text is determined by the text. -/
theorem eq_of_text_append_eq {p q : Piece} {r t : List Char} (hp : p.Valid) (hpe : p.EndsBefore r)
    (hq : q.Valid) (hqe : q.EndsBefore t) (h : p.text ++ r = q.text ++ t) : p = q ∧ r = t := by
  obtain ⟨c, cs, hc, hcut⟩ := exists_cut hp hpe
  rw [cut_of_valid hq hqe (h ▸ hc)] at hcut
  obtain ⟨rfl, rfl⟩ := Prod.mk.inj hcut
  exact ⟨rfl, rfl⟩

/-- A valid piece is determined by its text. -/
theorem eq_of_text_eq {p q : Piece} (hp : p.Valid) (hq : q.Valid) (h : p.text = q.text) : p = q :=
  (eq_of_text_append_eq hp (endsBefore_nil p) hq (endsBefore_nil q) (congrArg (· ++ []) h)).1

end Piece

end LoxLexer
