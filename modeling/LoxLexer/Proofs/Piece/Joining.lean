import LoxLexer.Proofs.Piece.Tiling

/-! # Cutting joined texts

Where two texts meet, the last pieces of the first may run into the second. They do not if each of
them ends before the second text, and the second starts with no digit that a point at the end of
the first could take up (`pieces_append`). A blank or a comma ends every piece but a comment and an
open string, and the end of a line ends comments too (`endsBefore_of_stops`).
-/

set_option autoImplicit false

namespace LoxLexer.Piece

/-! ## Borders -/

/-- More text behind a text that does not continue a piece does not either, if it starts with no
digit. -/
theorem EndsBefore.cons_append {p : Piece} {c : Char} {cs more : List Char}
    (he : p.EndsBefore (c :: cs)) (hd : ∀ c ∈ more.head?, c.isDigit = false) :
    p.EndsBefore (c :: cs ++ more) := by
  cases p with
  | openString body => cases he
  | number whole fraction =>
    cases fraction with
    | cons d ds => exact he
    | nil =>
      obtain ⟨hc, hdot⟩ := he
      refine ⟨hc, fun d after heq => ?_⟩
      -- a point may be the last character of the first text
      cases cs with
      | nil =>
        obtain ⟨-, rfl⟩ : c = '.' ∧ more = d :: after := by simpa using heq
        exact hd d rfl
      | cons e es =>
        obtain ⟨rfl, rfl, -⟩ : c = '.' ∧ e = d ∧ es ++ more = after := by simpa using heq
        exact hdot e es rfl
  | _ => exact he

/-- What neither of two texts continues, the two joined do not. -/
theorem EndsBefore.append {p : Piece} {rest more : List Char} (he : p.EndsBefore rest)
    (hm : p.EndsBefore more) (hd : ∀ c ∈ more.head?, c.isDigit = false) :
    p.EndsBefore (rest ++ more) := by
  cases rest with
  | nil => exact hm
  | cons c cs => exact he.cons_append hd

/-- The character continues no piece but a comment and an open string. -/
def stops (c : Char) : Bool := !(continuesWord c || c == '/' || c == '=' || c == '.')

theorem stops_of_isBlank {c : Char} (h : isBlank c = true) : stops c = true := by
  simp only [isBlank, Bool.or_eq_true, beq_iff_eq] at h
  rcases h with ((rfl | rfl) | rfl) | rfl <;> rfl

theorem not_continued_of_stops {c : Char} (h : stops c = true) :
    c.isDigit = false ∧ continuesWord c = false ∧ c ≠ '/' ∧ c ≠ '=' ∧ c ≠ '.' := by
  simp only [stops, Bool.not_eq_true', Bool.or_eq_false_iff, beq_eq_false_iff_ne] at h
  obtain ⟨⟨⟨hw, hslash⟩, hequal⟩, hdot⟩ := h
  exact ⟨(Bool.or_eq_false_iff.1 hw).2, hw, hslash, hequal, hdot⟩

/-- Such a character ends every piece but a comment and an open string, and the end of a line ends
a comment. -/
theorem endsBefore_of_stops {p : Piece} {c : Char} (hc : stops c = true)
    (hopen : ∀ body, p ≠ openString body) (hcomment : ∀ body, p = comment body → c = '\n')
    (cs : List Char) : p.EndsBefore (c :: cs) := by
  obtain ⟨hd, hw, hslash, hequal, hdot⟩ := not_continued_of_stops hc
  cases p with
  | comment body =>
    intro d hcd
    obtain rfl : c = d := by simpa using hcd
    exact hcomment body rfl
  | operator op => exact ⟨fun _ => by simpa using hslash, fun _ => by simpa using hequal⟩
  | word letters => simpa [EndsBefore] using hw
  | number whole fraction =>
    cases fraction with
    | nil =>
      refine ⟨by simpa using hd, fun d more heq => ?_⟩
      obtain ⟨rfl, -⟩ : c = '.' ∧ cs = d :: more := by simpa using heq
      exact absurd rfl hdot
    | cons d ds => simpa [EndsBefore] using hd
  | openString body => exact absurd rfl (hopen body)
  | _ => trivial

theorem endsBefore_newline {p : Piece} (hopen : ∀ body, p ≠ openString body) (cs : List Char) :
    p.EndsBefore ('\n' :: cs) :=
  endsBefore_of_stops rfl hopen (fun _ _ => rfl) cs

/-! ## Pieces of joined texts -/

theorem Tiles.append {ps qs : List Piece} (hp : Tiles ps) (hq : Tiles qs)
    (hends : ∀ p ∈ ps, p.EndsBefore (textOf qs))
    (hd : ∀ c ∈ (textOf qs).head?, c.isDigit = false) : Tiles (ps ++ qs) := by
  induction ps with
  | nil => exact hq
  | cons p ps ih =>
    obtain ⟨hv, he, ht⟩ := hp
    obtain ⟨hpq, hpsq⟩ := List.forall_mem_cons.1 hends
    refine ⟨hv, ?_, ih ht hpsq⟩
    show p.EndsBefore (textOf (ps ++ qs))
    rw [textOf_append]
    exact he.append hpq hd

/-- **Joined texts are cut apart** where each piece of the first ends before the second. -/
theorem pieces_append {cs ds : List Char} (hends : ∀ p ∈ pieces cs, p.EndsBefore ds)
    (hd : ∀ c ∈ ds.head?, c.isDigit = false) : pieces (cs ++ ds) = pieces cs ++ pieces ds := by
  have ht : Tiles (pieces cs ++ pieces ds) := by
    refine (tiles_pieces cs).append (tiles_pieces ds) ?_ ?_
    · rwa [textOf_pieces]
    · rwa [textOf_pieces]
  rw [pieces_eq_iff, textOf_append, textOf_pieces, textOf_pieces]
  exact ⟨ht, rfl⟩

/-- A piece in front of a text that does not continue it is cut off first. -/
theorem pieces_text_append {p : Piece} {rest : List Char} (hv : p.Valid) (he : p.EndsBefore rest) :
    pieces (p.text ++ rest) = p :: pieces rest := by
  obtain ⟨c, cs, hc, hcut⟩ := exists_cut hv he
  rw [hc, pieces_cons, hcut]

theorem pieces_blank {c : Char} (h : isBlank c = true) (cs : List Char) :
    pieces (c :: cs) = blank c :: pieces cs :=
  pieces_text_append (p := blank c) h trivial

end LoxLexer.Piece
