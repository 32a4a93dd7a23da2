import LoxLexer.Proofs.Cursor.Machine
import Mathlib.Data.String.Basic

/-! # The invariant of a cursor

`Cursor.Shows`: a cursor stands in a text behind `passed` and `seen`, the characters before and
behind its first offset, and its iterator will give the rest. Every operation on a cursor keeps
this, each with its own lemma. `Point.Knows` says what is known of `seen` at a point of the program
besides, such as the quotes around a finished string. `safe_step` puts these together, a case for
each kind of point: a step keeps the invariant, lets no count go down, and does not panic.
-/

set_option autoImplicit false

namespace LoxLexer

open String (utf8Len)

/-! ## Slices -/

theorem isValid_of_toList_eq {s : String} {pre suf : List Char} (h : s.toList = pre ++ suf) :
    (⟨utf8Len pre⟩ : String.Pos.Raw).IsValid s := by
  rw [String.Pos.Raw.isValid_iff_exists_take_toList]
  refine ⟨pre.length, ?_⟩
  rw [h, List.take_left, String.utf8ByteSize_ofList]

/-- The part between two boundaries. -/
theorem slice?_eq {s : String} {pre mid suf : List Char} (h : s.toList = pre ++ (mid ++ suf)) :
    slice? s (utf8Len pre) (utf8Len pre + utf8Len mid) = some (String.ofList mid) := by
  have hlast : (⟨utf8Len pre + utf8Len mid⟩ : String.Pos.Raw).IsValid s := by
    rw [← String.utf8Len_append]
    exact isValid_of_toList_eq (h.trans (List.append_assoc _ _ _).symm)
  have hextract := String.extract_of_valid pre mid suf
  rw [List.append_assoc, ← h, String.ofList_toList] at hextract
  rw [slice?, if_pos ⟨isValid_of_toList_eq h, hlast, Nat.le_add_right _ _⟩, hextract]

/-- A quote on either side takes one byte. -/
theorem slice?_quoted (body : List Char) :
    slice? (String.ofList ('"' :: body ++ ['"'])) 1
      ((String.ofList ('"' :: body ++ ['"'])).utf8ByteSize - 1) = some (String.ofList body) := by
  have hsize : (String.ofList ('"' :: body ++ ['"'])).utf8ByteSize - 1 =
      utf8Len ['"'] + utf8Len body := by
    have hquote : '"'.utf8Size = 1 := rfl
    rw [String.utf8ByteSize_ofList, String.utf8Len_append]
    simp only [String.utf8Len_cons, String.utf8Len_nil, hquote]
    omega
  have hchars : (String.ofList ('"' :: body ++ ['"'])).toList = ['"'] ++ (body ++ ['"']) :=
    String.toList_ofList
  rw [hsize]
  exact slice?_eq hchars

/-! ## What a cursor shows -/

theorem map_getElem?_charIndices (offset : Nat) (cs : List Char) (n : Nat) :
    ((charIndices offset cs)[n]?).map Prod.snd = cs[n]? := by
  induction cs generalizing offset n with
  | nil => rfl
  | cons c cs ih =>
    cases n with
    | zero => rfl
    | succ n => exact ih _ n

namespace Scanner

/-- The scanner behind some more characters, on the same line. -/
def behind (s : Scanner) (w rest : List Char) : Scanner :=
  { s with rest := rest, offset := s.offset + utf8Len w }

/-- The scanner so many lines further down. -/
def down (s : Scanner) (n : Nat) : Scanner := { s with line := s.line + n }

end Scanner

namespace Cursor

variable {L : Lookahead}

/-- The cursor stands in `source` behind `passed` and `seen`, its first offset between the two, and
is where the scanner `s` is. -/
structure Shows (source : String) (passed seen : List Char) (s : Scanner) (c : Cursor L) :
    Prop where
  source_eq : c.source = source
  chars : source.toList = passed ++ (seen ++ s.rest)
  start : c.start = utf8Len passed
  current : c.current = utf8Len passed + utf8Len seen
  offset : c.current = s.offset
  ahead : L.Yields c.chars (charIndices c.current s.rest)
  line : c.line = s.line
  finished : c.finished = s.finished
  tokens : c.tokens = s.tokens
  errors : c.errors = s.errors

namespace Shows

variable {source : String} {passed seen : List Char} {s : Scanner} {c : Cursor L}

/-- A call starts at the second offset. -/
theorem start_at_current (h : Shows source passed seen s c) :
    Shows source (passed ++ seen) [] s { c with start := c.current } where
  source_eq := h.source_eq
  chars := by rw [h.chars, List.nil_append, List.append_assoc]
  start := by rw [String.utf8Len_append, h.current]
  current := by rw [String.utf8Len_append, h.current, String.utf8Len_nil, Nat.add_zero]
  offset := h.offset
  ahead := h.ahead
  line := h.line
  finished := h.finished
  tokens := h.tokens
  errors := h.errors

theorem advance_nil (h : Shows source passed seen s c) (hr : s.rest = []) :
    c.advance.1 = none ∧ Shows source passed seen s c.advance.2 := by
  have hahead := h.ahead
  rw [hr] at hahead
  obtain ⟨hnext, hleft⟩ := hahead.next_nil
  have hadvance : c.advance = (none, { c with chars := (L.next c.chars).2 }) := by
    unfold advance
    split
    · next heq => rw [heq]
    · next heq => rw [heq] at hnext; cases hnext
  rw [hadvance]
  refine ⟨rfl, { h with ahead := ?_ }⟩
  rw [hr]
  exact hleft

theorem advance_cons (h : Shows source passed seen s c) {char : Char} {cs : List Char}
    (hr : s.rest = char :: cs) :
    c.advance.1 = some char ∧
      Shows source passed (seen ++ [char]) (s.behind [char] cs) c.advance.2 := by
  have hahead := h.ahead
  rw [hr] at hahead
  obtain ⟨hnext, hleft⟩ := hahead.next_cons
  have hadvance : c.advance = (some char, { c with
      chars := (L.next c.chars).2, current := c.current + char.utf8Size }) := by
    unfold advance
    split
    · next heq => rw [heq] at hnext; cases hnext
    · next offset d chars heq =>
      rw [heq] at hnext
      cases hnext
      rw [heq]
  rw [hadvance]
  refine ⟨rfl, { h with chars := ?_, current := ?_, offset := ?_, ahead := hleft }⟩
  · rw [h.chars, hr, List.append_assoc]
    rfl
  · show c.current + char.utf8Size = _
    rw [h.current, String.utf8Len_append, String.utf8Len_cons, String.utf8Len_nil, Nat.zero_add,
      Nat.add_assoc]
  · show c.current + char.utf8Size = s.offset + (0 + char.utf8Size)
    rw [h.offset, Nat.zero_add]

section
variable (hL : L.Lawful)
include hL

theorem peek (h : Shows source passed seen s c) :
    c.peek.1 = s.rest.head? ∧ Shows source passed seen s c.peek.2 := by
  obtain ⟨hpeek, hkept⟩ := h.ahead.peek hL
  refine ⟨?_, { h with ahead := hkept }⟩
  show (L.peek c.chars).1.map Prod.snd = _
  rw [hpeek, map_getElem?_charIndices, List.head?_eq_getElem?]

theorem peekSecond (h : Shows source passed seen s c) :
    c.peekSecond.1 = s.rest[1]? ∧ Shows source passed seen s c.peekSecond.2 := by
  obtain ⟨hpeek, hkept⟩ := h.ahead.peekSecond hL
  refine ⟨?_, { h with ahead := hkept }⟩
  show (L.peekSecond c.chars).1.map Prod.snd = _
  rw [hpeek, map_getElem?_charIndices]

end

theorem newLine (h : Shows source passed seen s c) (char : Char) :
    Shows source passed seen (s.down (if char = '\n' then 1 else 0)) (c.newLine char) :=
  { h with line := congrArg (· + if char = '\n' then 1 else 0) h.line }

theorem record (h : Shows source passed seen s c) (item : Item) :
    Shows source passed seen (s.record item) (c.record item) := by
  cases item with
  | token t => exact { h with tokens := congrArg (· + 1) h.tokens }
  | error e => exact { h with errors := congrArg (· + 1) h.errors }

theorem finish (h : Shows source passed seen s c) :
    Shows source passed seen { s with finished := true } { c with finished := true } :=
  { h with finished := rfl }

/-- The text of the lexeme. -/
theorem slice (h : Shows source passed seen s c) :
    slice? c.source c.start c.current = some (String.ofList seen) := by
  rw [h.source_eq, h.start, h.current]
  exact slice?_eq h.chars

end Shows

theorem shows_ofString (hL : L.Lawful) (source : String) :
    Shows source [] [] (Scanner.ofString source) (ofString L source) where
  source_eq := rfl
  chars := rfl
  start := rfl
  current := rfl
  offset := rfl
  ahead := hL.ofList _
  line := rfl
  finished := rfl
  tokens := rfl
  errors := rfl

end Cursor

/-! ## The points of the program -/

/-- What is known at a point of the characters behind the first offset, and of those ahead. -/
def Point.Knows : Point → List Char → List Char → Prop
  | first, seen, _ => seen = []
  | dispatch c, seen, _ => seen = [c]
  | take behind, seen, rest => ∃ c cs, rest = c :: cs ∧ behind.Knows (seen ++ [c]) cs
  | takeIf c taken other, seen, rest =>
    other.Knows seen rest ∧ ∀ cs, rest = c :: cs → taken.Knows (seen ++ [c]) cs
  | string _, seen, _ => ∃ body, seen = '"' :: body
  | closing _, seen, rest => (∃ body, seen = '"' :: body) ∧ ∀ c ∈ rest.head?, c = '"'
  | found (.string _), seen, _ => ∃ body, seen = '"' :: body ++ ['"']
  | start, _, _ | loop _, _, _ | fractionPoint, _, _ | digitBehindPoint, _, _
  | found _, _, _ => True

theorem Loop.knows_behind (l : Loop) (seen rest : List Char) : l.behind.Knows seen rest := by
  cases l <;> trivial

theorem Operator.knows_point (op : Operator) (seen rest : List Char) :
    op.point.Knows seen rest := by
  unfold Operator.point
  split
  · exact ⟨trivial, fun _ _ => trivial⟩
  · trivial

/-- A cursor at a point of the program where what the point knows is so. -/
def Config.Invariant {L : Lookahead} (source : String) (c : Config L) : Prop :=
  ∃ passed seen s, c.cursor.Shows source passed seen s ∧ c.point.Knows seen s.rest

/-- Nothing that a cursor counts goes down. -/
structure Cursor.Grows {L : Lookahead} (c c' : Cursor L) : Prop where
  current : c.current ≤ c'.current
  line : c.line ≤ c'.line
  tokens : c.tokens ≤ c'.tokens
  errors : c.errors ≤ c'.errors

/-- The outcome of a step keeps the invariant and lets no count go down. -/
def Outcome.Safe {L : Lookahead} (source : String) (c : Cursor L) : Outcome L → Prop
  | on c' => c'.Invariant source ∧ c.Grows c'.cursor
  | gives _ c' => (⟨c', .start⟩ : Config L).Invariant source ∧ c.Grows c'
  | panics => False

namespace Cursor.Grows

variable {L : Lookahead}

theorem refl (c : Cursor L) : c.Grows c := by
  constructor <;> exact Nat.le_refl _

theorem trans {c c' c'' : Cursor L} (h : c.Grows c') (h' : c'.Grows c'') : c.Grows c'' where
  current := h.current.trans h'.current
  line := h.line.trans h'.line
  tokens := h.tokens.trans h'.tokens
  errors := h.errors.trans h'.errors

theorem peek (c : Cursor L) : c.Grows c.peek.2 :=
  { refl c with }

theorem peekSecond (c : Cursor L) : c.Grows c.peekSecond.2 :=
  { refl c with }

theorem newLine (c : Cursor L) (char : Char) : c.Grows (c.newLine char) :=
  { refl c with line := Nat.le_add_right _ _ }

theorem record (c : Cursor L) (item : Item) : c.Grows (c.record item) := by
  cases item with
  | token t => exact { refl c with tokens := Nat.le_succ _ }
  | error e => exact { refl c with errors := Nat.le_succ _ }

end Cursor.Grows

namespace Cursor.Shows

variable {L : Lookahead} {source : String} {passed seen : List Char} {s : Scanner} {c : Cursor L}

/-! ## What a step does -/

section
variable (h : Shows source passed seen s c)
include h

theorem step_start (hf : s.finished = false) :
    c.step .start = .on ⟨{ c with start := c.current }, .first⟩ := by
  rw [step_start_eq, h.finished, hf]
  rfl

theorem step_start_of_finished (hf : s.finished = true) : c.step .start = .gives none c := by
  rw [step_start_eq, h.finished, hf]
  rfl

theorem step_first_nil (hr : s.rest = []) :
    c.step .first = .gives (some (.token (Token.endOfFile s.line)))
      { c.advance.2 with finished := true } := by
  rw [step_first_eq, (h.advance_nil hr).1, h.line]

theorem step_closing_nil (hr : s.rest = []) (firstLine : Nat) :
    c.step (.closing firstLine) = c.advance.2.give (.error ⟨.unterminatedString, s.line⟩) := by
  rw [step_closing_eq, (h.advance_nil hr).1, h.line]

variable {char : Char} {cs : List Char}

theorem step_first_cons (hr : s.rest = char :: cs) :
    c.step .first = .on ⟨c.advance.2, .dispatch char⟩ := by
  rw [step_first_eq, (h.advance_cons hr).1]

theorem step_closing_cons (hr : s.rest = char :: cs) (firstLine : Nat) :
    c.step (.closing firstLine) = .on ⟨c.advance.2, .found (.string firstLine)⟩ := by
  rw [step_closing_eq, (h.advance_cons hr).1]

theorem step_found {what : Found} {item : Item}
    (hitem : what.item? (String.ofList seen) s.line = some item) :
    c.step (.found what) = c.give item := by
  rw [step_found_eq, h.slice, h.line, Option.bind_some, hitem]

variable (hL : L.Lawful)
include hL

theorem step_takeIf (char : Char) (taken other : Point) :
    c.step (.takeIf char taken other) =
      .on ⟨c.peek.2, if s.rest.head? = some char then .take taken else other⟩ := by
  rw [step_takeIf_eq, (h.peek hL).1]

theorem step_loop (l : Loop) :
    c.step (.loop l) =
      .on ⟨c.peek.2, if s.rest.head?.any l.goesOn then .take (.loop l) else l.behind⟩ := by
  rw [step_loop_eq, (h.peek hL).1]

theorem step_fractionPoint :
    c.step .fractionPoint =
      .on ⟨c.peek.2, if s.rest.head? = some '.' then .digitBehindPoint else .found .number⟩ := by
  rw [step_fractionPoint_eq, (h.peek hL).1]

theorem step_digitBehindPoint :
    c.step .digitBehindPoint =
      .on ⟨c.peekSecond.2,
        if s.rest[1]?.any Char.isDigit then .take (.loop .fraction) else .found .number⟩ := by
  rw [step_digitBehindPoint_eq, (h.peekSecond hL).1]

theorem step_string_end (hr : ∀ c ∈ s.rest.head?, c = '"') (firstLine : Nat) :
    c.step (.string firstLine) = .on ⟨c.peek.2, .closing firstLine⟩ := by
  rw [step_string_eq, (h.peek hL).1]
  cases hfirst : s.rest.head? with
  | none => rfl
  | some char => exact if_pos (hr char hfirst)

theorem step_string_cons (hr : s.rest = char :: cs) (hne : char ≠ '"') (firstLine : Nat) :
    c.step (.string firstLine) = .on ⟨c.peek.2.newLine char, .take (.string firstLine)⟩ := by
  rw [step_string_eq, (h.peek hL).1, hr]
  exact if_neg hne

end

/-! ## No step goes back or panics -/

theorem grows_advance (h : Shows source passed seen s c) : c.Grows c.advance.2 := by
  cases hr : s.rest with
  | nil =>
    obtain ⟨-, hafter⟩ := h.advance_nil hr
    refine ⟨?_, ?_, ?_, ?_⟩
    · rw [h.current, hafter.current]
    · rw [h.line, hafter.line]
    · rw [h.tokens, hafter.tokens]
    · rw [h.errors, hafter.errors]
  | cons char cs =>
    obtain ⟨-, hafter⟩ := h.advance_cons hr
    refine ⟨?_, Nat.le_of_eq ?_, Nat.le_of_eq ?_, Nat.le_of_eq ?_⟩
    · rw [h.current, hafter.current, String.utf8Len_append]
      omega
    · rw [h.line, hafter.line]
      rfl
    · rw [h.tokens, hafter.tokens]
      rfl
    · rw [h.errors, hafter.errors]
      rfl

theorem safe_give (h : Shows source passed seen s c) {before : Cursor L} (hbefore : before.Grows c)
    (item : Item) : (c.give item).Safe source before :=
  ⟨⟨passed, seen, s.record item, h.record item, trivial⟩, hbefore.trans (.record c item)⟩

theorem safe_dispatch {char : Char} (h : Shows source passed [char] s c) :
    (c.dispatch char).Safe source c := by
  unfold dispatch
  split
  · exact ⟨⟨passed, _, _, h.newLine char, trivial⟩, .newLine c char⟩
  split
  · next hquote => exact ⟨⟨passed, _, s, h, [], by rw [hquote]⟩, Grows.refl c⟩
  split
  · exact ⟨⟨passed, _, s, h, trivial⟩, Grows.refl c⟩
  split
  · exact ⟨⟨passed, _, s, h, trivial⟩, Grows.refl c⟩
  split
  · exact ⟨⟨passed, _, s, h, trivial, fun _ _ => trivial⟩, Grows.refl c⟩
  split
  · next op _ => exact ⟨⟨passed, _, s, h, op.knows_point _ _⟩, Grows.refl c⟩
  · exact h.safe_give (Grows.refl c) _

theorem safe_start (h : Shows source passed seen s c) : (c.step .start).Safe source c := by
  cases hf : s.finished with
  | true =>
    rw [h.step_start_of_finished hf]
    exact ⟨⟨passed, seen, s, h, trivial⟩, Grows.refl c⟩
  | false =>
    rw [h.step_start hf]
    exact ⟨⟨_, [], s, h.start_at_current, rfl⟩, { Grows.refl c with }⟩

theorem safe_first (h : Shows source passed [] s c) : (c.step .first).Safe source c := by
  cases hr : s.rest with
  | nil =>
    rw [h.step_first_nil hr]
    have hgrows := h.grows_advance
    exact ⟨⟨passed, [], _, (h.advance_nil hr).2.finish, trivial⟩, { hgrows with }⟩
  | cons char cs =>
    rw [h.step_first_cons hr]
    exact ⟨⟨passed, [char], _, (h.advance_cons hr).2, rfl⟩, h.grows_advance⟩

/-- The quote ahead is taken, and the string is finished. -/
theorem safe_closing {firstLine : Nat} (h : Shows source passed seen s c)
    (hk : (Point.closing firstLine).Knows seen s.rest) :
    (c.step (.closing firstLine)).Safe source c := by
  obtain ⟨⟨body, rfl⟩, hquote⟩ := hk
  cases hr : s.rest with
  | nil =>
    rw [h.step_closing_nil hr]
    exact (h.advance_nil hr).2.safe_give h.grows_advance _
  | cons char cs =>
    obtain rfl : char = '"' := hquote char (by rw [hr]; rfl)
    rw [h.step_closing_cons hr]
    exact ⟨⟨passed, _, _, (h.advance_cons hr).2, body, rfl⟩, h.grows_advance⟩

/-- There is an item for every lexeme, for a string because of its quotes. -/
theorem safe_found {what : Found} (h : Shows source passed seen s c)
    (hk : (Point.found what).Knows seen s.rest) : (c.step (.found what)).Safe source c := by
  obtain ⟨item, hitem⟩ : ∃ item, what.item? (String.ofList seen) s.line = some item := by
    cases what with
    | string firstLine =>
      obtain ⟨body, rfl⟩ := hk
      exact ⟨_, by rw [Found.item?, slice?_quoted]; rfl⟩
    | _ => exact ⟨_, rfl⟩
  rw [h.step_found hitem]
  exact h.safe_give (Grows.refl c) item

section
variable (h : Shows source passed seen s c) (hL : L.Lawful)
include h hL

theorem safe_takeIf {char : Char} {taken other : Point} (hother : other.Knows seen s.rest)
    (htaken : ∀ cs, s.rest = char :: cs → taken.Knows (seen ++ [char]) cs) :
    (c.step (.takeIf char taken other)).Safe source c := by
  rw [h.step_takeIf hL]
  refine ⟨⟨passed, seen, s, (h.peek hL).2, ?_⟩, .peek c⟩
  show (if s.rest.head? = some char then Point.take taken else other).Knows seen s.rest
  split
  · next hfirst =>
    obtain ⟨cs, hr⟩ := List.head?_eq_some_iff.1 hfirst
    exact ⟨char, cs, hr, htaken cs hr⟩
  · exact hother

theorem safe_loop (l : Loop) : (c.step (.loop l)).Safe source c := by
  rw [h.step_loop hL]
  refine ⟨⟨passed, seen, s, (h.peek hL).2, ?_⟩, .peek c⟩
  cases hr : s.rest with
  | nil => exact l.knows_behind _ _
  | cons char cs =>
    show (if l.goesOn char then Point.take (.loop l) else l.behind).Knows seen (char :: cs)
    split
    · exact ⟨char, cs, rfl, trivial⟩
    · exact l.knows_behind _ _

theorem safe_fractionPoint : (c.step .fractionPoint).Safe source c := by
  rw [h.step_fractionPoint hL]
  refine ⟨⟨passed, seen, s, (h.peek hL).2, ?_⟩, .peek c⟩
  show (if s.rest.head? = some '.' then Point.digitBehindPoint else .found .number).Knows seen _
  split <;> trivial

/-- A digit behind the next character is only there if there is a next character. -/
theorem safe_digitBehindPoint : (c.step .digitBehindPoint).Safe source c := by
  rw [h.step_digitBehindPoint hL]
  refine ⟨⟨passed, seen, s, (h.peekSecond hL).2, ?_⟩, .peekSecond c⟩
  cases hr : s.rest with
  | nil => trivial
  | cons char cs =>
    show (if (char :: cs)[1]?.any Char.isDigit then Point.take (.loop .fraction)
      else .found .number).Knows seen (char :: cs)
    split
    · exact ⟨char, cs, rfl, trivial⟩
    · trivial

theorem safe_string {firstLine : Nat} (hk : (Point.string firstLine).Knows seen s.rest) :
    (c.step (.string firstLine)).Safe source c := by
  obtain ⟨body, rfl⟩ := hk
  by_cases hend : ∀ c ∈ s.rest.head?, c = '"'
  · rw [h.step_string_end hL hend]
    exact ⟨⟨passed, _, s, (h.peek hL).2, ⟨body, rfl⟩, hend⟩, .peek c⟩
  · cases hr : s.rest with
    | nil => simp [hr] at hend
    | cons char cs =>
      have hne : char ≠ '"' := by simpa [hr] using hend
      rw [h.step_string_cons hL hr hne]
      exact ⟨⟨passed, _, _, (h.peek hL).2.newLine char, char, cs, hr, body ++ [char], rfl⟩,
        (Grows.peek c).trans (.newLine _ char)⟩

end

/-- **A step is safe** at every point of the program. -/
theorem safe_step (hL : L.Lawful) {p : Point} (h : Shows source passed seen s c)
    (hk : p.Knows seen s.rest) : (c.step p).Safe source c := by
  cases p with
  | start => exact h.safe_start
  | first =>
    obtain rfl : seen = [] := hk
    exact h.safe_first
  | dispatch char =>
    obtain rfl : seen = [char] := hk
    exact h.safe_dispatch
  | take behind =>
    obtain ⟨char, cs, hr, hk⟩ := hk
    exact ⟨⟨passed, _, _, (h.advance_cons hr).2, hk⟩, h.grows_advance⟩
  | takeIf char taken other => exact h.safe_takeIf hL hk.1 hk.2
  | loop l => exact h.safe_loop hL l
  | fractionPoint => exact h.safe_fractionPoint hL
  | digitBehindPoint => exact h.safe_digitBehindPoint hL
  | string firstLine => exact h.safe_string hL hk
  | closing firstLine => exact h.safe_closing hk
  | found what => exact h.safe_found hk

end Cursor.Shows

theorem Config.Invariant.safe_step {L : Lookahead} (hL : L.Lawful) {source : String} {c : Config L}
    (h : c.Invariant source) : c.step.Safe source c.cursor := by
  obtain ⟨passed, seen, s, hshows, hknows⟩ := h
  exact hshows.safe_step hL hknows

end LoxLexer
