import LoxLexer.Proofs.Piece.Tiling
import LoxLexer.Proofs.Scanner.Run

/-! # The items of a text

A scanner gives the items of the pieces of its text, each placed by the lines that end before it
(`itemsFrom`), and then the end of the text. So a claim about all items of a text is an induction
over its pieces, and neither steps nor remaining texts occur in it.

* `Scanner.items_eq`: the items of what remains of a text.
* `scan_eq`: a scan as the tokens and the errors among them.
-/

set_option autoImplicit false

namespace LoxLexer

namespace Piece

/-- How many lines end inside pieces in a row. -/
def lines (ps : List Piece) : Nat := (textOf ps).count '\n'

@[simp] theorem lines_nil : lines [] = 0 := rfl

@[simp] theorem lines_cons (p : Piece) (ps : List Piece) : lines (p :: ps) = p.newlines + lines ps := by
  simp [lines, newlines]

@[simp] theorem lines_append (ps qs : List Piece) : lines (ps ++ qs) = lines ps + lines qs := by
  simp [lines]

/-- The items of pieces in a row, the first of which starts on `line`. -/
def itemsFrom (line : Nat) : List Piece → List Item
  | [] => []
  | p :: ps => (p.item? line (line + p.newlines)).toList ++ itemsFrom (line + p.newlines) ps

@[simp] theorem itemsFrom_nil (line : Nat) : itemsFrom line [] = [] := rfl

theorem itemsFrom_skip {p : Piece} {line : Nat} (h : p.item? line (line + p.newlines) = none)
    (ps : List Piece) : itemsFrom line (p :: ps) = itemsFrom (line + p.newlines) ps := by
  simp [itemsFrom, h]

theorem itemsFrom_item {p : Piece} {line : Nat} {item : Item}
    (h : p.item? line (line + p.newlines) = some item) (ps : List Piece) :
    itemsFrom line (p :: ps) = item :: itemsFrom (line + p.newlines) ps := by
  simp [itemsFrom, h]

theorem itemsFrom_append (line : Nat) (ps qs : List Piece) :
    itemsFrom line (ps ++ qs) = itemsFrom line ps ++ itemsFrom (line + lines ps) qs := by
  induction ps generalizing line with
  | nil => rfl
  | cons p ps ih => simp [itemsFrom, ih, Nat.add_assoc]

/-- The items of pieces in a row are those of the single pieces, each on its line. -/
theorem mem_itemsFrom {line : Nat} {ps : List Piece} {item : Item} :
    item ∈ itemsFrom line ps ↔ ∃ before p after, ps = before ++ p :: after ∧
      p.item? (line + lines before) (line + lines before + p.newlines) = some item := by
  constructor
  · intro h
    induction ps generalizing line with
    | nil => simp at h
    | cons p ps ih =>
      rw [itemsFrom, List.mem_append, Option.mem_toList] at h
      rcases h with h | h
      · exact ⟨[], p, ps, rfl, by simpa using h⟩
      · obtain ⟨before, q, after, rfl, hq⟩ := ih h
        refine ⟨p :: before, q, after, rfl, ?_⟩
        rwa [lines_cons, ← Nat.add_assoc]
  · intro h
    obtain ⟨before, p, after, rfl, hp⟩ := h
    rw [itemsFrom_append, itemsFrom_item hp]
    simp

/-- The end of the text is not among the items of its pieces. -/
theorem isEnd_of_mem_itemsFrom {line : Nat} {ps : List Piece} {item : Item}
    (h : item ∈ itemsFrom line ps) : item.isEnd = false := by
  obtain ⟨_, p, _, -, hp⟩ := mem_itemsFrom.1 h
  exact isEnd_of_item? hp

end Piece

namespace Scanner

theorem steps_of_next? {s : Scanner} {step : Step} (h : s.next? = some step) :
    s.steps = step :: step.scanner.steps := by
  rw [steps_eq, h]

theorem items_of_next? {s : Scanner} {step : Step} (h : s.next? = some step) :
    s.items = step.item :: step.scanner.items := by
  rw [items, steps_of_next? h, List.map_cons, items]

theorem items_finished {s : Scanner} (h : s.finished = true) : s.items = [] := by
  rw [items, steps_eq, next?_finished h, List.map_nil]

/-- **The items of what remains of a text**: those of its pieces, and its end. -/
theorem items_eq (s : Scanner) (hf : s.finished = false) :
    s.items = Piece.itemsFrom s.line (Piece.pieces s.rest) ++
      [.token (Token.endOfFile (s.line + s.rest.count '\n'))] := by
  generalize hn : s.rest.length = n
  induction n using Nat.strong_induction_on generalizing s with
  | _ n ih =>
    subst hn
    cases hr : s.rest with
    | nil =>
      rw [items_of_next? (next?_nil hf hr), items_finished rfl]
      simp [finish]
    | cons c cs =>
      have hb : ∀ behind : Scanner, behind.finished = false → behind.rest = (Piece.cut c cs).2 →
          behind.items = Piece.itemsFrom behind.line (Piece.pieces (Piece.cut c cs).2) ++
            [.token (Token.endOfFile (behind.line + (Piece.cut c cs).2.count '\n'))] := by
        intro behind hbf hbr
        rw [← hbr]
        exact ih _ (by rw [hr, hbr]; exact Piece.length_cut_lt c cs) behind hbf rfl
      have hlines : (c :: cs).count '\n' =
          (Piece.cut c cs).1.newlines + (Piece.cut c cs).2.count '\n' := by
        rw [Piece.newlines, ← List.count_append, Piece.text_append_cut]
      rw [Piece.pieces_cons, hlines, ← Nat.add_assoc]
      cases hi : (Piece.cut c cs).1.item? s.line (s.line + (Piece.cut c cs).1.newlines) with
      | none =>
        have hs : s.items = (s.pass (Piece.cut c cs).1 (Piece.cut c cs).2).items := by
          simp only [items, steps_eq s, next?_skip hf hr hi, ← steps_eq]
        rw [hs, hb (s.pass _ _) hf rfl, Piece.itemsFrom_skip hi]
        rfl
      | some item =>
        rw [items_of_next? (next?_item hf hr hi), hb _ (by simpa) (by simp [pass]),
          Piece.itemsFrom_item hi]
        simp [pass]

end Scanner

/-- **A scan** splits the items of a text, its end included, into tokens and errors. -/
theorem scan_eq (source : String) :
    scan source = Scan.ofItems (Piece.itemsFrom 1 (Piece.pieces source.toList) ++
      [.token (Token.endOfFile (1 + source.toList.count '\n'))]) :=
  congrArg Scan.ofItems (Scanner.items_eq (Scanner.ofString source) rfl)

theorem tokens_scan (source : String) :
    (scan source).tokens = (Piece.itemsFrom 1 (Piece.pieces source.toList)).filterMap Item.token? ++
      [Token.endOfFile (1 + source.toList.count '\n')] := by
  simp [scan_eq, Scan.ofItems, Item.token?]

theorem errors_scan (source : String) :
    (scan source).errors = (Piece.itemsFrom 1 (Piece.pieces source.toList)).filterMap Item.error? := by
  simp [scan_eq, Scan.ofItems, Item.error?]

namespace Item

theorem filterMap_token?_map (ts : List Token) : (ts.map token).filterMap token? = ts := by
  rw [List.filterMap_map]
  exact List.filterMap_some

theorem filterMap_error?_map (ts : List Token) : (ts.map token).filterMap error? = [] := by
  simp [error?]

theorem mem_filterMap_token? {items : List Item} {t : Token} :
    t ∈ items.filterMap token? ↔ token t ∈ items := by
  rw [List.mem_filterMap]
  constructor
  · intro h
    obtain ⟨item, hi, ht⟩ := h
    cases item with
    | token u =>
      obtain rfl : u = t := by simpa [token?] using ht
      exact hi
    | error e => cases ht
  · intro h
    exact ⟨_, h, rfl⟩

theorem mem_filterMap_error? {items : List Item} {e : LexError} :
    e ∈ items.filterMap error? ↔ error e ∈ items := by
  rw [List.mem_filterMap]
  constructor
  · intro h
    obtain ⟨item, hi, he⟩ := h
    cases item with
    | token t => cases he
    | error f =>
      obtain rfl : f = e := by simpa [error?] using he
      exact hi
  · intro h
    exact ⟨_, h, rfl⟩

end Item

/-- The tokens of a scan but the end of the text. -/
def Scan.proper (s : Scan) : List Token := s.tokens.filter fun t => !t.isEndOfFile

theorem proper_scan (source : String) :
    (scan source).proper = (Piece.itemsFrom 1 (Piece.pieces source.toList)).filterMap Item.token? := by
  have hproper : ∀ t ∈ (Piece.itemsFrom 1 (Piece.pieces source.toList)).filterMap Item.token?,
      (!t.isEndOfFile) = true := by
    intro t ht
    simpa [Item.isEnd] using Piece.isEnd_of_mem_itemsFrom (Item.mem_filterMap_token?.1 ht)
  rw [Scan.proper, tokens_scan, List.filter_append, List.filter_eq_self.2 hproper]
  simp

theorem tokens_eq_proper (source : String) :
    (scan source).tokens = (scan source).proper ++ [Token.endOfFile (1 + source.toList.count '\n')] := by
  rw [proper_scan, tokens_scan]

end LoxLexer
