import LoxLexer.Proofs.Scanner.Joining

/-! # Scanning line by line

The lines of a text that leaves no string open at the end of a line scan as the text does: its items
are those of the lines, and only say which line they are on (`itemsFrom_lines`). Carriage returns at
the end of a text make no difference to its scan: a comment and a string left open take them up, and
behind other pieces they are blanks (`scan_stripReturns`).
-/

set_option autoImplicit false

namespace LoxLexer

/-! ## Lines of a text -/

namespace Text

/-- The lines of a text, which newlines stand between. -/
def lines (text : String) : List String := (text.toList.splitOn '\n').map String.ofList

/-- A text is a line, or a line in front of a text. -/
theorem lines_induction {motive : List Char → Prop} (last : ∀ cs, '\n' ∉ cs → motive cs)
    (line : ∀ cs ds, '\n' ∉ cs → motive ds → motive (cs ++ '\n' :: ds)) (cs : List Char) :
    motive cs := by
  suffices ∀ start, '\n' ∉ start → motive (start ++ cs) from this [] List.not_mem_nil
  induction cs with
  | nil =>
    intro start hstart
    rw [List.append_nil]
    exact last start hstart
  | cons c cs ih =>
    intro start hstart
    by_cases hc : c = '\n'
    · rw [hc]
      exact line start cs hstart (ih [] List.not_mem_nil)
    · rw [List.append_cons]
      refine ih (start ++ [c]) fun hmem => ?_
      rcases List.mem_append.1 hmem with h | h
      · exact hstart h
      · exact hc (List.mem_singleton.1 h).symm

end Text

/-! ## Items on the first line -/

namespace Item

/-- The item as if it stood on the first line. -/
def onFirstLine : Item → Item
  | token t => token { t with line := 1 }
  | error e => error { e with line := 1 }

@[simp] theorem onFirstLine_shift (n : Nat) (item : Item) :
    (item.shift n).onFirstLine = item.onFirstLine := by
  cases item <;> rfl

@[simp] theorem token?_onFirstLine (item : Item) :
    item.onFirstLine.token? = item.token?.map fun t => { t with line := 1 } := by
  cases item <;> rfl

@[simp] theorem error?_onFirstLine (item : Item) :
    item.onFirstLine.error? = item.error?.map fun e => { e with line := 1 } := by
  cases item <;> rfl

end Item

namespace Piece

theorem onFirstLine_of_item? {p : Piece} {item : Item} (h : p.item? 1 1 = some item) :
    item.onFirstLine = item := by
  cases p with
  | number whole fraction =>
    cases h
    cases (Decimal.read whole fraction).nearest? <;> rfl
  | _ => cases h <;> rfl

/-- The items of a single line are on the first line. -/
theorem itemsFrom_of_line {cs : List Char} (h : '\n' ∉ cs) :
    (itemsFrom 1 (pieces cs)).map Item.onFirstLine = itemsFrom 1 (pieces cs) := by
  have hid : ∀ item ∈ itemsFrom 1 (pieces cs), item.onFirstLine = id item := by
    intro item hitem
    obtain ⟨before, p, after, hps, hp⟩ := mem_itemsFrom.1 hitem
    have htext : textOf before ++ (p.text ++ textOf after) = cs := by
      rw [← textOf_pieces cs, hps, textOf_append, textOf_cons]
    have hbefore : lines before = 0 :=
      List.count_eq_zero.2 fun hm => h (htext ▸ List.mem_append_left _ hm)
    have hpiece : p.newlines = 0 := List.count_eq_zero.2 fun hm =>
      h (htext ▸ List.mem_append_right _ (List.mem_append_left _ hm))
    rw [hbefore, hpiece] at hp
    exact onFirstLine_of_item? hp
  rw [List.map_congr_left hid, List.map_id]

/-- **A text is scanned line by line**, if no line leaves a string open. -/
theorem itemsFrom_lines {cs : List Char}
    (hclosed : ∀ line ∈ cs.splitOn '\n', ∀ p ∈ pieces line, ∀ body, p ≠ openString body) :
    (itemsFrom 1 (pieces cs)).map Item.onFirstLine =
      (cs.splitOn '\n').flatMap fun line => itemsFrom 1 (pieces line) := by
  induction cs using Text.lines_induction with
  | last cs h =>
    rw [List.splitOn_eq_singleton h, List.flatMap_singleton, itemsFrom_of_line h]
  | line cs ds h ih =>
    rw [List.splitOn_append_cons_self_of_not_mem h] at hclosed ⊢
    obtain ⟨hcs, hds⟩ := List.forall_mem_cons.1 hclosed
    have hshift : ∀ items : List Item, (items.map (Item.shift (1 + cs.count '\n'))).map
        Item.onFirstLine = items.map Item.onFirstLine := fun items => by
      rw [List.map_map]
      exact List.map_congr_left fun item _ => item.onFirstLine_shift _
    rw [itemsFrom_append_newline hcs, List.map_append, hshift, itemsFrom_of_line h, ih hds,
      List.flatMap_cons]

/-! ## Carriage returns -/

/-- A carriage return behind the last piece is taken up by it, or is a blank. -/
theorem itemsFrom_text_append_return {p : Piece} (hv : p.Valid) (line : Nat) :
    itemsFrom line (pieces (p.text ++ ['\r'])) = itemsFrom line [p] := by
  by_cases hends : p.EndsBefore ['\r']
  · rw [pieces_text_append hv hends, pieces_blank rfl, pieces_nil, itemsFrom, itemsFrom_skip rfl]
    rfl
  · have htaken : (∃ body, p = comment body) ∨ ∃ body, p = openString body := by
      by_contra hneither
      rw [not_or] at hneither
      exact hends (endsBefore_of_stops rfl (fun body hp => hneither.2 ⟨body, hp⟩)
        (fun body hp => absurd ⟨body, hp⟩ hneither.1) [])
    rcases htaken with ⟨body, rfl⟩ | ⟨body, rfl⟩
    · have hpieces : pieces (text (comment body) ++ ['\r']) = [comment (body ++ ['\r'])] := by
        rw [pieces_eq_iff]
        exact ⟨⟨by simpa [Valid] using hv, endsBefore_nil _, trivial⟩, by simp [text]⟩
      rw [hpieces]
      rfl
    · have hpieces : pieces (text (openString body) ++ ['\r']) = [openString (body ++ ['\r'])] := by
        rw [pieces_eq_iff]
        exact ⟨⟨by simpa [Valid] using hv, endsBefore_nil _, trivial⟩, by simp [text]⟩
      rw [hpieces]
      simp [itemsFrom, item?, newlines, text]

theorem itemsFrom_append_return (cs : List Char) (line : Nat) :
    itemsFrom line (pieces (cs ++ ['\r'])) = itemsFrom line (pieces cs) := by
  suffices ∀ ps, Tiles ps →
      itemsFrom line (pieces (textOf ps ++ ['\r'])) = itemsFrom line ps by
    have h := this (pieces cs) (tiles_pieces cs)
    rwa [textOf_pieces] at h
  intro ps ht
  induction ps generalizing line with
  | nil => rw [textOf_nil, List.nil_append, pieces_blank rfl, pieces_nil]; rfl
  | cons p ps ih =>
    obtain ⟨hv, he, ht⟩ := ht
    rw [textOf_cons, List.append_assoc]
    cases hrest : textOf ps with
    | nil =>
      obtain rfl : ps = [] := (pieces_eq_iff.2 ⟨ht, hrest⟩).symm.trans pieces_nil
      exact itemsFrom_text_append_return hv line
    | cons c rest =>
      have hbehind : p.EndsBefore (textOf ps ++ ['\r']) := by
        rw [hrest] at he ⊢
        exact he.cons_append (by simp)
      rw [← hrest, pieces_text_append hv hbehind, itemsFrom, itemsFrom, ih _ ht]

theorem itemsFrom_append_returns {rs : List Char} (h : ∀ c ∈ rs, c = '\r') (cs : List Char)
    (line : Nat) : itemsFrom line (pieces (cs ++ rs)) = itemsFrom line (pieces cs) := by
  induction rs generalizing cs with
  | nil => rw [List.append_nil]
  | cons r rs ih =>
    obtain ⟨rfl, hrs⟩ := List.forall_mem_cons.1 h
    rw [List.append_cons, ih hrs, itemsFrom_append_return]

end Piece

/-- A text is what remains without the characters of a kind at its end, and those characters. -/
theorem Text.append_trailing (p : Char → Bool) (cs : List Char) :
    (cs.reverse.dropWhile p).reverse ++ (cs.reverse.takeWhile p).reverse = cs := by
  rw [← List.reverse_append, List.takeWhile_append_dropWhile, List.reverse_reverse]

/-- A line without the carriage returns at its end. -/
def stripReturns (line : String) : String :=
  String.ofList (line.toList.reverse.dropWhile (· == '\r')).reverse

theorem exists_returns (line : String) :
    ∃ rs, (∀ c ∈ rs, c = '\r') ∧ line.toList = (stripReturns line).toList ++ rs := by
  refine ⟨(line.toList.reverse.takeWhile (· == '\r')).reverse, fun c hc => ?_, ?_⟩
  · simpa using List.mem_takeWhile_imp (List.mem_reverse.1 hc)
  · rw [stripReturns, String.toList_ofList, Text.append_trailing]

theorem itemsFrom_stripReturns (line : String) :
    Piece.itemsFrom 1 (Piece.pieces (stripReturns line).toList) =
      Piece.itemsFrom 1 (Piece.pieces line.toList) := by
  obtain ⟨rs, hrs, hline⟩ := exists_returns line
  rw [hline, Piece.itemsFrom_append_returns hrs]

/-- **Carriage returns at the end of a line make no difference** to what it scans to. -/
theorem scan_stripReturns (line : String) : scan (stripReturns line) = scan line := by
  obtain ⟨rs, hrs, hline⟩ := exists_returns line
  have hcount : rs.count '\n' = 0 := List.count_eq_zero.2 fun h => by
    have hreturn := hrs _ h
    cases hreturn
  rw [scan_eq, scan_eq, itemsFrom_stripReturns, hline, List.count_append, hcount, Nat.add_zero]

end LoxLexer
