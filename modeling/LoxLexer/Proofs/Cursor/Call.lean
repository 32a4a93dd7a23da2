import LoxLexer.Proofs.Cursor.Invariant
import LoxLexer.Proofs.Piece.Boundary
import LoxLexer.Proofs.Scanner.Ending

/-! # Calls of a cursor

A call of a cursor that stands where a scanner stands ends, and gives what the scanner gives
(`ends_call`). `Ends` says how the call under way ends, and what is to be shown of it is handed on
as a continuation: first through the loops, then through what each kind of first character leads to,
and last through the pieces that a call skips.
-/

set_option autoImplicit false

namespace LoxLexer

open String (utf8Len)

/-! ## Scanners behind a piece -/

namespace Scanner

theorem behind_behind (s : Scanner) (w v rest rest' : List Char) :
    (s.behind w rest).behind v rest' = s.behind (w ++ v) rest' := by
  unfold behind
  rw [String.utf8Len_append, Nat.add_assoc]

theorem behind_nil {s : Scanner} {cs : List Char} (hr : s.rest = cs) : s.behind [] cs = s := by
  rw [← hr]
  rfl

theorem down_behind (s : Scanner) (n : Nat) (w rest : List Char) :
    (s.down n).behind w rest = (s.behind w rest).down n := rfl

theorem down_down (s : Scanner) (n m : Nat) : (s.down n).down m = s.down (n + m) := by
  unfold down
  rw [Nat.add_assoc]

theorem pass_eq (s : Scanner) (p : Piece) (rest : List Char) :
    s.pass p rest = (s.behind p.text rest).down p.newlines := by
  rw [pass, Piece.byteLength, String.utf8ByteSize_ofList]
  rfl

theorem pass_eq_behind {p : Piece} (h : '\n' ∉ p.text) (s : Scanner) (rest : List Char) :
    s.pass p rest = s.behind p.text rest := by
  rw [pass_eq, Piece.newlines, List.count_eq_zero.2 h]
  rfl

end Scanner

/-! ## Numerals -/

namespace Piece

variable {whole fraction : List Char}

theorem cutNumber_of_digit {cs rest : List Char} {d : Char}
    (hr : cs.dropWhile Char.isDigit = '.' :: d :: rest) (hd : d.isDigit = true) :
    cutNumber cs = (number (cs.takeWhile Char.isDigit) (d :: rest.takeWhile Char.isDigit),
      rest.dropWhile Char.isDigit) := by
  unfold cutNumber
  simp only [hr, if_pos hd]

theorem cutNumber_of_no_digit {cs : List Char}
    (hno : ∀ d rest, cs.dropWhile Char.isDigit = '.' :: d :: rest → d.isDigit = false) :
    cutNumber cs = (number (cs.takeWhile Char.isDigit) [], cs.dropWhile Char.isDigit) := by
  unfold cutNumber
  split
  · next d rest hr =>
    rw [if_neg (by simp [hno d rest hr])]
    rw [hr]
  · rfl

theorem parseNumber_text (hv : (number whole fraction).Valid) :
    parseNumber (String.ofList (number whole fraction).text) =
      (Decimal.read whole fraction).nearest? := by
  obtain ⟨-, hwhole, -⟩ := hv
  rw [parseNumber, String.toList_ofList]
  cases fraction with
  | nil =>
    have hend : ∀ c ∈ ([] : List Char).head?, c.isDigit = false := by simp
    have htake := takeWhile_run hwhole hend
    have hdrop := dropWhile_run hwhole hend
    rw [List.append_nil] at htake hdrop
    rw [text, htake, hdrop]
    rfl
  | cons d ds =>
    rw [text, takeWhile_run hwhole (isDigit_head_dot _), dropWhile_run hwhole (isDigit_head_dot _)]
    rfl

theorem newline_not_mem_number (hv : (number whole fraction).Valid) :
    '\n' ∉ (number whole fraction).text := by
  obtain ⟨-, hwhole, hfraction⟩ := hv
  have hdigits : ∀ {ds : List Char}, (∀ d ∈ ds, d.isDigit = true) → '\n' ∉ ds :=
    fun h hmem => absurd (h _ hmem) (by decide)
  cases fraction with
  | nil => exact hdigits hwhole
  | cons d ds =>
    have hds := hdigits hfraction
    simp only [text, List.mem_append, List.mem_cons, not_or] at hds ⊢
    exact ⟨hdigits hwhole, by decide, hds⟩

end Piece

/-! ## Operators -/

theorem Operator.newline_not_mem (op : Operator) : '\n' ∉ op.chars := by
  cases op <;> decide

namespace Piece

variable {op joined : Operator} {cs : List Char}

theorem cutOperator_of_none (h : op.withEqual? = none) : cutOperator op cs = (operator op, cs) := by
  unfold cutOperator
  rw [h]

theorem cutOperator_equal (h : op.withEqual? = some joined) :
    cutOperator op ('=' :: cs) = (operator joined, cs) := by
  simp only [cutOperator, h]

theorem cutOperator_of_head?_ne (op : Operator) (h : cs.head? ≠ some '=') :
    cutOperator op cs = (operator op, cs) := by
  unfold cutOperator
  split
  · exact absurd rfl h
  · rfl

end Piece

/-! ## How a call ends -/

section
variable {L : Lookahead}

/-- The call under way ends, with a result and a cursor that `X` holds of. -/
inductive Config.Ends (X : Option Item → Cursor L → Prop) : Config L → Prop
  | on {c c' : Config L} : c.step = .on c' → c'.Ends X → c.Ends X
  | gives {c : Config L} {result : Option Item} {c' : Cursor L} :
      c.step = .gives result c' → X result c' → c.Ends X

theorem Config.Ends.imp {X Y : Option Item → Cursor L → Prop} {c : Config L} (h : c.Ends X)
    (hXY : ∀ result c, X result c → Y result c) : c.Ends Y := by
  induction h with
  | on hstep _ ih => exact .on hstep ih
  | gives hstep hX => exact .gives hstep (hXY _ _ hX)

theorem Config.Ends.of_on {X : Option Item → Cursor L → Prop} {c c' : Config L} (h : c.Ends X)
    (hstep : c.step = .on c') : c'.Ends X := by
  cases h with
  | on hstep' hends =>
    rw [hstep] at hstep'
    cases hstep'
    exact hends
  | gives hstep' _ =>
    rw [hstep] at hstep'
    cases hstep'

theorem Config.Ends.of_gives {X : Option Item → Cursor L → Prop} {c : Config L} (h : c.Ends X)
    {result : Option Item} {c' : Cursor L} (hstep : c.step = .gives result c') : X result c' := by
  cases h with
  | on hstep' _ =>
    rw [hstep] at hstep'
    cases hstep'
  | gives hstep' hX =>
    rw [hstep] at hstep'
    cases hstep'
    exact hX

/-- What is to be shown behind a piece: a call that skips it goes on, one that finds an item in it
ends. -/
structure Continues (X : Option Item → Cursor L → Prop) (source : String) (s : Scanner)
    (p : Piece) (rest : List Char) : Prop where
  skip : p.item? s.line (s.line + p.newlines) = none →
    ∀ passed seen c, Cursor.Shows source passed seen (s.pass p rest) c →
      (⟨c, .start⟩ : Config L).Ends X
  find : ∀ item, p.item? s.line (s.line + p.newlines) = some item →
    ∀ passed seen c, Cursor.Shows source passed seen ((s.pass p rest).record item) c →
      X (some item) c

end

namespace Cursor.Shows

variable {L : Lookahead} {X : Option Item → Cursor L → Prop} {source : String}
  {passed seen rest : List Char} {s : Scanner} {c : Cursor L}

/-! ### Lexemes -/

theorem ends_give {p : Piece} {item : Item} (k : Continues X source s p rest)
    (hitem : p.item? s.line (s.line + p.newlines) = some item)
    (h : Shows source passed seen (s.pass p rest) c) {q : Point} (hstep : c.step q = c.give item) :
    (⟨c, q⟩ : Config L).Ends X :=
  .gives hstep (k.find item hitem passed seen _ (h.record item))

theorem ends_found {p : Piece} {what : Found} {item : Item} (k : Continues X source s p rest)
    (hitem : p.item? s.line (s.line + p.newlines) = some item)
    (hwhat : what.item? (String.ofList p.text) (s.line + p.newlines) = some item)
    (h : Shows source passed p.text (s.pass p rest) c) :
    (⟨c, .found what⟩ : Config L).Ends X :=
  h.ends_give k hitem (h.step_found hwhat)

/-- A lexeme on one line. -/
theorem ends_found_on_line {p : Piece} {what : Found} {item : Item}
    (k : Continues X source s p rest) (hp : '\n' ∉ p.text)
    (hitem : p.item? s.line s.line = some item)
    (hwhat : what.item? (String.ofList p.text) s.line = some item)
    (h : Shows source passed p.text (s.behind p.text rest) c) :
    (⟨c, .found what⟩ : Config L).Ends X := by
  have hline : s.line + p.newlines = s.line := by
    rw [Piece.newlines, List.count_eq_zero.2 hp, Nat.add_zero]
  rw [← Scanner.pass_eq_behind hp] at h
  rw [← hline] at hwhat
  refine h.ends_found k ?_ hwhat
  rw [hline]
  exact hitem

/-! ### Loops -/

theorem ends_take (h : Shows source passed seen s c) {char : Char} {cs : List Char}
    (hr : s.rest = char :: cs) {p : Point}
    (k : ∀ c', Shows source passed (seen ++ [char]) (s.behind [char] cs) c' →
      (⟨c', p⟩ : Config L).Ends X) : (⟨c, .take p⟩ : Config L).Ends X :=
  .on rfl (k _ (h.advance_cons hr).2)

variable (hL : L.Lawful)
include hL

theorem ends_takeIf {char : Char} {taken other : Point} (h : Shows source passed seen s c)
    (htaken : ∀ cs, s.rest = char :: cs →
      ∀ c', Shows source passed (seen ++ [char]) (s.behind [char] cs) c' →
        (⟨c', taken⟩ : Config L).Ends X)
    (hother : s.rest.head? ≠ some char → ∀ c', Shows source passed seen s c' →
      (⟨c', other⟩ : Config L).Ends X) : (⟨c, .takeIf char taken other⟩ : Config L).Ends X := by
  have hpeek := (h.peek hL).2
  by_cases hfirst : s.rest.head? = some char
  · obtain ⟨cs, hr⟩ := List.head?_eq_some_iff.1 hfirst
    refine .on ((h.step_takeIf hL char taken other).trans (by rw [if_pos hfirst])) ?_
    exact hpeek.ends_take hr (htaken cs hr)
  · refine .on ((h.step_takeIf hL char taken other).trans (by rw [if_neg hfirst])) ?_
    exact hother hfirst _ hpeek

/-- A loop takes the characters of its kind. -/
theorem ends_loop (l : Loop) (h : Shows source passed seen s c)
    (k : ∀ c', Shows source passed (seen ++ s.rest.takeWhile l.goesOn)
      (s.behind (s.rest.takeWhile l.goesOn) (s.rest.dropWhile l.goesOn)) c' →
        (⟨c', l.behind⟩ : Config L).Ends X) : (⟨c, .loop l⟩ : Config L).Ends X := by
  -- on what is ahead; the cursor and the scanner move on together
  generalize hr : s.rest = cs at k
  induction cs generalizing seen s c with
  | nil =>
    have hstep : c.step (.loop l) = .on ⟨c.peek.2, l.behind⟩ := by
      rw [h.step_loop hL, hr]
      rfl
    refine .on hstep (k _ ?_)
    rw [List.takeWhile_nil, List.dropWhile_nil, List.append_nil, Scanner.behind_nil hr]
    exact (h.peek hL).2
  | cons char cs ih =>
    have hstep := h.step_loop hL l
    rw [hr] at hstep
    by_cases hgoes : l.goesOn char = true
    · refine .on (hstep.trans (by rw [List.head?_cons, Option.any_some, if_pos hgoes])) ?_
      refine (h.peek hL).2.ends_take hr fun c' h' => ih h' rfl fun c'' h'' => k c'' ?_
      rw [List.takeWhile_cons_of_pos hgoes, List.dropWhile_cons_of_pos hgoes]
      rwa [Scanner.behind_behind, List.append_assoc] at h''
    · refine .on (hstep.trans (by rw [List.head?_cons, Option.any_some, if_neg hgoes])) (k _ ?_)
      rw [List.takeWhile_cons_of_neg hgoes, List.dropWhile_cons_of_neg hgoes, List.append_nil,
        Scanner.behind_nil hr]
      exact (h.peek hL).2

/-- The loop over a string counts the lines that end in it. -/
theorem ends_string (firstLine : Nat) (h : Shows source passed seen s c)
    (k : ∀ c', Shows source passed (seen ++ s.rest.takeWhile (· != '"'))
      ((s.behind (s.rest.takeWhile (· != '"')) (s.rest.dropWhile (· != '"'))).down
        ((s.rest.takeWhile (· != '"')).count '\n')) c' →
        (⟨c', .closing firstLine⟩ : Config L).Ends X) :
    (⟨c, .string firstLine⟩ : Config L).Ends X := by
  generalize hr : s.rest = cs at k
  induction cs generalizing seen s c with
  | nil =>
    refine .on (h.step_string_end hL (by simp [hr]) firstLine) (k _ ?_)
    rw [List.takeWhile_nil, List.dropWhile_nil, List.append_nil, Scanner.behind_nil hr]
    exact (h.peek hL).2
  | cons char cs ih =>
    by_cases hquote : char = '"'
    · have hgoes : ¬ (char != '"') = true := by simp [hquote]
      refine .on (h.step_string_end hL (by simp [hr, hquote]) firstLine) (k _ ?_)
      rw [List.takeWhile_cons_of_neg (p := (· != '"')) hgoes,
        List.dropWhile_cons_of_neg (p := (· != '"')) hgoes, List.append_nil,
        Scanner.behind_nil hr]
      exact (h.peek hL).2
    · -- a line is counted before its end is taken, so the count is pulled out of the rest
      have hgoes : (char != '"') = true := by simpa using hquote
      refine .on (h.step_string_cons hL hr hquote firstLine) ?_
      refine ((h.peek hL).2.newLine char).ends_take hr fun c' h' =>
        ih h' rfl fun c'' h'' => k c'' ?_
      rw [List.takeWhile_cons_of_pos (p := (· != '"')) hgoes,
        List.dropWhile_cons_of_pos (p := (· != '"')) hgoes, List.count_cons, Nat.add_comm]
      rw [Scanner.down_behind, Scanner.down_behind, Scanner.behind_behind, Scanner.down_down,
        List.append_assoc] at h''
      simpa using h''

/-! ### What a first character leads to -/

section
variable {char : Char} {cs : List Char} {p : Point}

theorem ends_quote (h : Shows source passed ['"'] (s.behind ['"'] cs) c)
    (k : Continues X source s (Piece.cutString cs).1 (Piece.cutString cs).2) :
    (⟨c, .string s.line⟩ : Config L).Ends X := by
  refine h.ends_string hL s.line fun c' h' => ?_
  obtain ⟨body, hbody⟩ : ∃ body, body = cs.takeWhile (· != '"') := ⟨_, rfl⟩
  have hopen : Shows source passed ('"' :: body)
      ((s.behind ('"' :: body) (cs.dropWhile (· != '"'))).down (body.count '\n')) c' := by
    rw [Scanner.behind_behind] at h'
    rw [hbody]
    exact h'
  unfold Piece.cutString at k
  rw [← hbody] at k
  cases hleft : cs.dropWhile (· != '"') with
  | nil =>
    have hall : cs = body := by
      have hsplit := List.takeWhile_append_dropWhile (p := (· != '"')) (l := cs)
      rwa [hleft, List.append_nil, ← hbody, eq_comm] at hsplit
    rw [hleft] at k hopen
    have hpass : s.pass (.openString cs) [] =
        (s.behind ('"' :: body) []).down (body.count '\n') := by
      rw [Scanner.pass_eq, Piece.newlines, Piece.text, hall]
      simp
    rw [← hpass] at hopen
    exact .gives (hopen.step_closing_nil rfl s.line)
      (k.find _ rfl passed _ _ ((hopen.advance_nil rfl).2.record _))
  | cons d rest =>
    have hd : d = '"' := by
      have hhead := List.head?_dropWhile_not (· != '"') cs
      rw [hleft] at hhead
      simpa using hhead
    subst hd
    rw [hleft] at k hopen
    have hclosed := (hopen.advance_cons rfl).2
    have hpass : s.pass (.string body) rest =
        ((s.behind ('"' :: body) ('"' :: rest)).down (body.count '\n')).behind ['"'] rest := by
      rw [Scanner.pass_eq, Piece.newlines, Piece.text, Scanner.down_behind, Scanner.behind_behind]
      simp
    rw [← hpass] at hclosed
    refine .on (hopen.step_closing_cons rfl s.line) ?_
    refine hclosed.ends_found k rfl ?_
    rw [Found.item?, Piece.text, slice?_quoted]
    rfl

/-- Behind the whole digits stands no point, or none that a digit follows. -/
theorem ends_fractionPoint (h : Shows source passed seen s c)
    (hno : ∀ d rest, s.rest = '.' :: d :: rest → d.isDigit = false)
    (k : ∀ c', Shows source passed seen s c' → (⟨c', .found .number⟩ : Config L).Ends X) :
    (⟨c, .fractionPoint⟩ : Config L).Ends X := by
  have hpeek := (h.peek hL).2
  by_cases hpoint : s.rest.head? = some '.'
  · refine .on ((h.step_fractionPoint hL).trans (by rw [if_pos hpoint])) ?_
    have hsecond : ¬ s.rest[1]?.any Char.isDigit = true := by
      obtain ⟨more, hr⟩ := List.head?_eq_some_iff.1 hpoint
      cases more with
      | nil => simp [hr]
      | cons d rest => simp [hr, hno d rest hr]
    refine .on ((hpeek.step_digitBehindPoint hL).trans (by rw [if_neg hsecond])) (k _ ?_)
    exact (hpeek.peekSecond hL).2
  · refine .on ((h.step_fractionPoint hL).trans (by rw [if_neg hpoint])) (k _ ?_)
    exact hpeek

/-- Behind the whole digits stand a point and digits. -/
theorem ends_fractionPoint_of_digit {d : Char} (h : Shows source passed seen s c)
    (hr : s.rest = '.' :: d :: rest) (hd : d.isDigit = true)
    (k : ∀ c', Shows source passed (seen ++ '.' :: d :: rest.takeWhile Char.isDigit)
      (s.behind ('.' :: d :: rest.takeWhile Char.isDigit) (rest.dropWhile Char.isDigit)) c' →
        (⟨c', .found .number⟩ : Config L).Ends X) :
    (⟨c, .fractionPoint⟩ : Config L).Ends X := by
  have hpeek := (h.peek hL).2
  have hpoint : s.rest.head? = some '.' := by rw [hr]; rfl
  have hsecond : s.rest[1]?.any Char.isDigit = true := by rw [hr]; exact hd
  refine .on ((h.step_fractionPoint hL).trans (by rw [if_pos hpoint])) ?_
  refine .on ((hpeek.step_digitBehindPoint hL).trans (by rw [if_pos hsecond])) ?_
  refine (hpeek.peekSecond hL).2.ends_take hr fun c' h' =>
    h'.ends_loop hL .fraction fun c'' h'' => k c'' ?_
  have htake : (d :: rest).takeWhile Loop.fraction.goesOn = d :: rest.takeWhile Char.isDigit :=
    List.takeWhile_cons_of_pos (p := Char.isDigit) hd
  have hdrop : (d :: rest).dropWhile Loop.fraction.goesOn = rest.dropWhile Char.isDigit :=
    List.dropWhile_cons_of_pos (p := Char.isDigit) hd
  have hrest : (s.behind ['.'] (d :: rest)).rest = d :: rest := rfl
  rw [hrest, htake, hdrop, Scanner.behind_behind, List.append_assoc] at h''
  exact h''

omit hL in
theorem ends_number {whole fraction : List Char} (hv : (Piece.number whole fraction).Valid)
    (k : Continues X source s (.number whole fraction) rest)
    (h : Shows source passed (Piece.number whole fraction).text
      (s.behind (Piece.number whole fraction).text rest) c) :
    (⟨c, .found .number⟩ : Config L).Ends X := by
  refine h.ends_found_on_line k (Piece.newline_not_mem_number hv) rfl ?_
  rw [Found.item?, Piece.parseNumber_text hv]

theorem ends_digit (hdigit : char.isDigit = true)
    (h : Shows source passed [char] (s.behind [char] cs) c)
    (k : Continues X source s (Piece.cutNumber (char :: cs)).1 (Piece.cutNumber (char :: cs)).2) :
    (⟨c, .loop .whole⟩ : Config L).Ends X := by
  refine h.ends_loop hL .whole fun c' h' => ?_
  have hv := (Piece.valid_cutNumber hdigit cs).1
  have htake : (char :: cs).takeWhile Char.isDigit = [char] ++ cs.takeWhile Char.isDigit :=
    List.takeWhile_cons_of_pos hdigit
  have hdrop : (char :: cs).dropWhile Char.isDigit = cs.dropWhile Char.isDigit :=
    List.dropWhile_cons_of_pos hdigit
  have hwhole : Shows source passed ((char :: cs).takeWhile Char.isDigit)
      (s.behind ((char :: cs).takeWhile Char.isDigit) ((char :: cs).dropWhile Char.isDigit))
        c' := by
    rw [htake, hdrop, ← Scanner.behind_behind _ _ _ cs]
    exact h'
  by_cases hfraction : ∃ d rest, (char :: cs).dropWhile Char.isDigit = '.' :: d :: rest ∧
      d.isDigit = true
  · obtain ⟨d, rest, hr, hd⟩ := hfraction
    rw [Piece.cutNumber_of_digit hr hd] at k hv
    refine hwhole.ends_fractionPoint_of_digit hL hr hd fun c'' h'' => ?_
    rw [Scanner.behind_behind] at h''
    exact h''.ends_number hv k
  · have hno : ∀ d rest, (char :: cs).dropWhile Char.isDigit = '.' :: d :: rest →
        d.isDigit = false := fun d rest hr =>
      eq_false_of_ne_true fun hd => hfraction ⟨d, rest, hr, hd⟩
    rw [Piece.cutNumber_of_no_digit hno] at k hv
    exact hwhole.ends_fractionPoint hL hno fun c'' h'' => h''.ends_number hv k

theorem ends_letter (hletter : Piece.startsWord char = true)
    (h : Shows source passed [char] (s.behind [char] cs) c)
    (k : Continues X source s (.word (char :: cs.takeWhile Piece.continuesWord))
      (cs.dropWhile Piece.continuesWord)) :
    (⟨c, .loop .word⟩ : Config L).Ends X := by
  refine h.ends_loop hL .word fun c' h' => ?_
  have hline : '\n' ∉ char :: cs.takeWhile Piece.continuesWord := by
    rw [List.mem_cons, not_or]
    refine ⟨?_, fun hmem => absurd (List.mem_takeWhile_imp hmem) (by decide)⟩
    rintro rfl
    exact absurd hletter (by decide)
  rw [Scanner.behind_behind] at h'
  refine Shows.ends_found_on_line k hline rfl ?_ h'
  rw [Found.item?, String.toList_ofList]
  rfl

theorem ends_slash (h : Shows source passed ['/'] (s.behind ['/'] cs) c)
    (k : Continues X source s (Piece.cutSlash cs).1 (Piece.cutSlash cs).2) :
    (⟨c, .takeIf '/' (.loop .comment) (.found (.operator .slash))⟩ : Config L).Ends X := by
  refine h.ends_takeIf hL ?taken ?other
  case taken =>
    intro rest hcs c' h'
    obtain rfl : cs = '/' :: rest := hcs
    refine h'.ends_loop hL .comment fun c'' h'' => ?_
    rw [Scanner.behind_behind, Scanner.behind_behind, List.append_assoc] at h''
    have hline : '\n' ∉ (Piece.comment (rest.takeWhile (· != '\n'))).text := by
      have hbody := Piece.not_mem_takeWhile_ne '\n' rest
      simp [Piece.text, hbody]
    have hbehind : Shows source passed (Piece.comment (rest.takeWhile (· != '\n'))).text
        (s.behind (Piece.comment (rest.takeWhile (· != '\n'))).text
          (rest.dropWhile (· != '\n'))) c'' := h''
    rw [← Scanner.pass_eq_behind hline] at hbehind
    exact k.skip rfl passed _ c'' hbehind
  case other =>
    intro hslash c' h'
    have hcut : Piece.cutSlash cs = (.operator .slash, cs) := by
      unfold Piece.cutSlash
      split
      · next rest => exact absurd rfl hslash
      · rfl
    rw [hcut] at k
    exact h'.ends_found_on_line k (Operator.newline_not_mem .slash) rfl rfl

omit hL in
theorem ends_found_operator {op : Operator} (k : Continues X source s (.operator op) rest)
    (h : Shows source passed op.chars (s.behind op.chars rest) c) :
    (⟨c, .found (.operator op)⟩ : Config L).Ends X :=
  h.ends_found_on_line k op.newline_not_mem rfl rfl

theorem ends_operator {op : Operator} (hop : Operator.ofChar? char = some op)
    (h : Shows source passed [char] (s.behind [char] cs) c)
    (k : Continues X source s (Piece.cutOperator op cs).1 (Piece.cutOperator op cs).2) :
    (⟨c, op.point⟩ : Config L).Ends X := by
  have hchars := Operator.chars_of_ofChar? hop
  rw [← hchars] at h
  unfold Operator.point
  cases hjoined : op.withEqual? with
  | none =>
    rw [Piece.cutOperator_of_none hjoined] at k
    exact h.ends_found_operator k
  | some joined =>
    refine h.ends_takeIf hL ?taken ?other
    case taken =>
      intro rest hcs c' h'
      obtain rfl : cs = '=' :: rest := hcs
      rw [Piece.cutOperator_equal hjoined] at k
      rw [Scanner.behind_behind, ← Operator.chars_of_withEqual? hjoined] at h'
      exact h'.ends_found_operator k
    case other =>
      intro hequal c' h'
      have hcut : Piece.cutOperator op cs = (.operator op, cs) :=
        Piece.cutOperator_of_head?_ne op hequal
      rw [hcut] at k
      exact h'.ends_found_operator k

omit hL in
theorem ends_blank (h : Shows source passed [char] (s.behind [char] cs) c)
    (k : Continues X source s (.blank char) cs) :
    (⟨c.newLine char, .start⟩ : Config L).Ends X := by
  have hpass : s.pass (.blank char) cs =
      (s.behind [char] cs).down (if char = '\n' then 1 else 0) := by
    rw [Scanner.pass_eq, Piece.newlines, Piece.text, List.count_singleton]
    simp only [beq_iff_eq]
  refine k.skip rfl passed [char] _ ?_
  rw [hpass]
  exact h.newLine char

omit hL in
theorem ends_stray (hb : ¬ Piece.isBlank char = true)
    (h : Shows source passed [char] (s.behind [char] cs) c)
    (k : Continues X source s (.stray char) cs)
    (hstep : c.step p = c.give (.error ⟨.unexpectedCharacter char, s.line⟩)) :
    (⟨c, p⟩ : Config L).Ends X := by
  have hnewline : '\n' ∉ (Piece.stray char).text := by
    intro hmem
    obtain rfl : '\n' = char := List.mem_singleton.1 hmem
    exact hb rfl
  have hpass : s.pass (.stray char) cs = s.behind [char] cs :=
    Scanner.pass_eq_behind hnewline s cs
  rw [← hpass] at h
  exact h.ends_give k rfl hstep

theorem ends_dispatch (h : Shows source passed [char] (s.behind [char] cs) c)
    (k : Continues X source s (Piece.cut char cs).1 (Piece.cut char cs).2) :
    (⟨c, .dispatch char⟩ : Config L).Ends X := by
  have hline : c.line = s.line := h.line
  have hstep : c.step (.dispatch char) = c.dispatch char := rfl
  -- the cursor asks for the kinds of characters in the order in which a piece is cut
  unfold dispatch at hstep
  by_cases hb : Piece.isBlank char = true
  · rw [if_pos hb] at hstep
    rw [Piece.cut_blank hb] at k
    exact .on hstep (h.ends_blank k)
  rw [if_neg hb] at hstep
  by_cases hq : char = '"'
  · subst hq
    rw [if_pos rfl, hline] at hstep
    rw [Piece.cut_quote] at k
    exact .on hstep (h.ends_quote hL k)
  rw [if_neg hq] at hstep
  by_cases hd : char.isDigit = true
  · rw [if_pos hd] at hstep
    rw [Piece.cut_digit hd] at k
    exact .on hstep (h.ends_digit hL hd k)
  rw [if_neg hd] at hstep
  by_cases hw : Piece.startsWord char = true
  · rw [if_pos hw] at hstep
    rw [Piece.cut_letter hw] at k
    exact .on hstep (h.ends_letter hL hw k)
  rw [if_neg hw] at hstep
  by_cases hs : char = '/'
  · subst hs
    rw [if_pos rfl] at hstep
    rw [Piece.cut_slash] at k
    exact .on hstep (h.ends_slash hL k)
  rw [if_neg hs] at hstep
  cases ho : Operator.ofChar? char with
  | some op =>
    rw [ho] at hstep
    rw [Piece.cut_operator ho hs] at k
    exact .on hstep (h.ends_operator hL ho k)
  | none =>
    rw [ho, hline] at hstep
    have hv : (Piece.stray char).Valid :=
      ⟨by simpa using hb, hq, by simpa using hd, by simpa using hw, ho⟩
    rw [Piece.cut_stray hv] at k
    exact h.ends_stray hb k hstep

end

/-! ### A call -/

/-- A call gives the next step of the scanner. -/
theorem ends_call_of_returns {n : Nat} {result : Option Scanner.Step} {step : Scanner.Step}
    (hr : s.Returns n result) (hstep : result = some step) (h : Shows source passed seen s c) :
    (⟨c, .start⟩ : Config L).Ends fun item c' =>
      item = some step.item ∧ ∃ passed seen, c'.Shows source passed seen step.scanner := by
  induction hr generalizing passed seen c with
  | done => cases hstep
  | ends hf hr =>
    cases hstep
    have hbegun := h.start_at_current
    have hend := (hbegun.advance_nil hr).2.finish
    exact .on (h.step_start hf) (.gives (hbegun.step_first_nil hr) ⟨rfl, _, _, hend⟩)
  | @skips s char cs n result hf hr hitem hreturns ih =>
    have hbegun := h.start_at_current
    refine .on (h.step_start hf) (.on (hbegun.step_first_cons hr) ?_)
    refine (hbegun.advance_cons hr).2.ends_dispatch hL ⟨fun _ passed seen c hc => ih hstep hc, ?_⟩
    intro item hsome
    rw [hitem] at hsome
    cases hsome
  | @finds s char cs item hf hr hitem =>
    cases hstep
    have hbegun := h.start_at_current
    refine .on (h.step_start hf) (.on (hbegun.step_first_cons hr) ?_)
    refine (hbegun.advance_cons hr).2.ends_dispatch hL ⟨?_, ?_⟩
    · intro hnone
      rw [hitem] at hnone
      cases hnone
    · intro item' hsome passed seen c hc
      rw [hitem] at hsome
      cases hsome
      exact ⟨rfl, passed, seen, hc⟩

/-- **A call ends** and gives what the scanner's next call gives. -/
theorem ends_call {n : Nat} {start : Scanner} (h : Shows source passed seen (start.calls n).2 c) :
    (⟨c, .start⟩ : Config L).Ends fun result c' =>
      (start.calls n).1 ++ result.toList = (start.calls (n + 1)).1 ∧
        ∃ passed seen, c'.Shows source passed seen (start.calls (n + 1)).2 := by
  cases hf : (start.calls n).2.finished with
  | true =>
    have hcalls : start.calls (n + 1) = start.calls n := by
      simp only [Scanner.calls, Scanner.next?_finished hf]
    rw [hcalls]
    exact .gives (h.step_start_of_finished hf) ⟨List.append_nil _, passed, seen, h⟩
  | false =>
    obtain ⟨step, hnext⟩ := Option.isSome_iff_exists.1 (Scanner.isSome_next? hf)
    have hcalls : start.calls (n + 1) = ((start.calls n).1 ++ [step.item], step.scanner) := by
      simp only [Scanner.calls, hnext]
    obtain ⟨k, -, hreturns⟩ := (start.calls n).2.exists_returns
    rw [hcalls]
    refine (h.ends_call_of_returns hL hreturns hnext).imp ?_
    rintro - c' ⟨rfl, hc⟩
    exact ⟨rfl, hc⟩

end Cursor.Shows

end LoxLexer
