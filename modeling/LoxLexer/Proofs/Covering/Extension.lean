import LoxLexer.Proofs.Covering.Layout

/-! # Text that is appended

How far a scanner looks ahead is bounded: two characters behind a piece decide whether it ends
(`EndsBefore.append_of_two_le`), whatever may follow them. So an item with two more characters of
the text behind it stays where it is when text is appended, and with it all items in front of it
(`spans_append`). One character does not suffice, because a point behind a number belongs to it if
a digit follows.
-/

set_option autoImplicit false

namespace LoxLexer

/-! ## What follows, with more text behind it -/

/-- **Two characters decide** whether a piece ends. -/
theorem Piece.EndsBefore.append_of_two_le {p : Piece} {rest : List Char} (he : p.EndsBefore rest)
    (hl : 2 ≤ rest.length) (more : List Char) : p.EndsBefore (rest ++ more) := by
  obtain ⟨c, tail, rfl⟩ := List.exists_cons_of_length_pos (Nat.lt_of_lt_of_le Nat.zero_lt_two hl)
  obtain ⟨d, cs, rfl⟩ := List.exists_cons_of_length_pos (Nat.le_of_succ_le_succ hl)
  cases p with
  | openString body => cases he
  | number whole fraction =>
    cases fraction with
    | cons e es => exact he
    | nil =>
      obtain ⟨hc, hdot⟩ := he
      refine ⟨hc, fun e after heq => ?_⟩
      -- the point and the character behind it are both in front of the appended text
      obtain ⟨rfl, rfl, -⟩ : c = '.' ∧ d = e ∧ cs ++ more = after := by simpa using heq
      exact hdot d cs rfl
  | _ => exact he

theorem Trivium.append {rest w : List Char} (h : Trivium rest w) (hne : rest ≠ [])
    (more : List Char) : Trivium (rest ++ more) w := by
  obtain ⟨c, cs, rfl⟩ := List.exists_cons_of_ne_nil hne
  exact h

theorem Trivia.append {rest g : List Char} (h : Trivia rest g) (hne : rest ≠ [])
    (more : List Char) : Trivia (rest ++ more) g := by
  induction h with
  | nil => exact .nil
  | cons hw _ ih =>
    refine .cons ?_ ih
    rw [← List.append_assoc]
    exact hw.append (by simp [hne]) more

/-! ## Spans in front of two characters -/

namespace Covering

/-- A span in front of two characters stays when more text is laid out behind them. -/
theorem Laid.cons_append {line : Nat} {x : Span} {xs : List Span} {last : List Char}
    (h : Laid line ⟨x :: xs, last⟩) (hl : 2 ≤ (chars ⟨xs, last⟩).length) :
    ∃ behind, Laid behind ⟨xs, last⟩ ∧ ∀ (more : List Char) (d : Covering),
      Laid behind d → d.chars = chars ⟨xs, last⟩ ++ more → Laid line ⟨x :: d.spans, d.last⟩ := by
  cases h with
  | @cons _ gap p item _ _ hg hv he hi hxs =>
    refine ⟨_, hxs, fun more d hd hchars => ?_⟩
    have hne : p.text ++ chars ⟨xs, last⟩ ≠ [] := by simp [Piece.text_ne_nil hv]
    have htrivia := hg.append hne more
    have hends := he.append_of_two_le hl more
    rw [List.append_assoc, ← hchars] at htrivia
    rw [← hchars] at hends
    exact .cons htrivia hv hends hi hd

/-- Spans in front of two characters are the first ones of a layout of the longer text. -/
theorem Laid.append {line : Nat} {before after : List Span} {x : Span} {last : List Char}
    (h : Laid line ⟨before ++ x :: after, last⟩) (hl : 2 ≤ (chars ⟨after, last⟩).length)
    (more : List Char) : ∃ after' last', Laid line ⟨before ++ x :: after', last'⟩ ∧
      chars ⟨before ++ x :: after', last'⟩ = chars ⟨before ++ x :: after, last⟩ ++ more := by
  induction before generalizing line with
  | nil =>
    obtain ⟨behind, -, hcons⟩ := h.cons_append hl
    let d := ofPieces behind (Piece.pieces (chars ⟨after, last⟩ ++ more))
    have hchars : d.chars = chars ⟨after, last⟩ ++ more := by
      rw [chars_ofPieces, Piece.textOf_pieces]
    refine ⟨d.spans, d.last, hcons more d (laid_ofPieces (Piece.tiles_pieces _) behind) hchars, ?_⟩
    have hd : chars ⟨d.spans, d.last⟩ = chars ⟨after, last⟩ ++ more := hchars
    simp [hd]
  | cons y before ih =>
    have hle : 2 ≤ (chars ⟨before ++ x :: after, last⟩).length := by
      simp only [chars, List.flatMap_append, List.flatMap_cons, List.length_append] at hl ⊢
      omega
    obtain ⟨behind, hlaid, hcons⟩ := h.cons_append hle
    obtain ⟨after', last', hlaid', hchars⟩ := ih hlaid
    refine ⟨after', last', hcons more _ hlaid' hchars, ?_⟩
    rw [List.cons_append, List.cons_append, chars_cons, chars_cons, hchars]
    simp

/-- The items of a text at the places of its spans. -/
theorem Covers.getElem?_items {c : Covering} {source : String} (h : c.Covers source)
    {before after : List Span} {x : Span} (hs : c.spans = before ++ x :: after) :
    (Scanner.ofString source).items[before.length]? = some x.item := by
  obtain ⟨line, hline⟩ := h.items
  rw [hline, Covering.items, hs]
  simp

/-- **What is appended to a text changes nothing in front of its last two characters**: an item
with at least two characters of the text behind it is an item of the longer text, as the same one in
order, at the same place, on the same line and with the same text, and so are all items before
it. -/
theorem spans_append {a b : String} {c d : Covering} (hc : c.Covers a) (hd : d.Covers (a ++ b))
    {before after : List Span} {x : Span} (hs : c.spans = before ++ x :: after)
    (hl : 2 ≤ (chars ⟨after, c.last⟩).length) :
    (∃ after', d.spans = before ++ x :: after') ∧
      (Scanner.ofString a).items[before.length]? = some x.item ∧
      (Scanner.ofString (a ++ b)).items[before.length]? = some x.item := by
  obtain ⟨spans, last⟩ := c
  obtain rfl : spans = before ++ x :: after := hs
  obtain ⟨hchars, hlaid⟩ := covers_iff_laid.1 hc
  obtain ⟨after', last', hlaid', hchars'⟩ := hlaid.append hl b.toList
  have hcovers : Covers ⟨before ++ x :: after', last'⟩ (a ++ b) := by
    refine covers_iff_laid.2 ⟨?_, hlaid'⟩
    rw [hchars', hchars, String.toList_append]
  have hspans : d.spans = before ++ x :: after' := by rw [hd.unique hcovers]
  exact ⟨⟨after', hspans⟩, hc.getElem?_items rfl, hd.getElem?_items hspans⟩

/-- A comment with a quote stands between two numbers, the second of which has two characters behind
it, a point and a slash; the slash then begins a comment. -/
theorem spans_append_to_slash :
    let a := "1//\"\n2./"
    let one : Span := ⟨[], ['1'], .token ⟨.number ⟨0x3ff0000000000000⟩, "1", 1⟩⟩
    let two : Span := ⟨"//\"\n".toList, ['2'], .token ⟨.number ⟨0x4000000000000000⟩, "2", 2⟩⟩
    let point : Span := ⟨[], ['.'], .token ⟨.operator .dot, ".", 2⟩⟩
    let slash : Span := ⟨[], ['/'], .token ⟨.operator .slash, "/", 2⟩⟩
    let c : Covering := ⟨[one, two, point, slash], []⟩
    let d : Covering := ⟨[one, two, point], "/// ".toList⟩
    c.Covers a ∧ d.Covers (a ++ "// ") ∧ c.spans = [one] ++ two :: [point, slash] ∧
      2 ≤ (chars ⟨[point, slash], c.last⟩).length ∧
      (∃ after', d.spans = [one] ++ two :: after') ∧
      (Scanner.ofString a).items[1]? = some two.item ∧
      (Scanner.ofString (a ++ "// ")).items[1]? = some two.item := by
  intro a one two point slash c d
  have hc : c = ofSource a := by decide +kernel
  have hd : d = ofSource (a ++ "// ") := by decide +kernel
  have hca : c.Covers a := hc ▸ covers_ofSource a
  have hda : d.Covers (a ++ "// ") := hd ▸ covers_ofSource (a ++ "// ")
  have hs : c.spans = [one] ++ two :: [point, slash] := rfl
  have hl : 2 ≤ (chars ⟨[point, slash], c.last⟩).length := by decide
  exact ⟨hca, hda, hs, hl, spans_append hca hda hs hl⟩

/-- One character behind an item is not enough: the number goes on behind the point. -/
example : (Scanner.ofString "1.").items[0]? ≠ (Scanner.ofString "1.5").items[0]? := by
  decide +kernel

end Covering

end LoxLexer
