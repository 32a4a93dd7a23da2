import LoxLexer.Proofs.Covering.Pieces
import LoxLexer.Proofs.Lexeme.Basic
import LoxLexer.Proofs.Scanner.Resume

/-! # How an iteration ends

Each item takes at least one character, so a text of `n` characters gives no more than `n` items
before its end. `Returns` counts how often a call goes through its loop, once for everything that it
skips and once for what it gives; the count is bounded by what remains of the text, so each call
ends (`exists_returns`). `calls_shape` says which items any number of calls give.
-/

set_option autoImplicit false

namespace LoxLexer

/-! ## No more items than characters -/

namespace Piece

theorem length_itemsFrom_le (line : Nat) (ps : List Piece) :
    (itemsFrom line ps).length ≤ ps.length := by
  induction ps generalizing line with
  | nil => exact Nat.le_refl 0
  | cons p ps ih =>
    have hle := ih (line + p.newlines)
    cases hi : p.item? line (line + p.newlines) with
    | none =>
      rw [itemsFrom_skip hi, List.length_cons]
      omega
    | some item =>
      rw [itemsFrom_item hi, List.length_cons, List.length_cons]
      omega

theorem length_le_textOf {ps : List Piece} (h : ∀ p ∈ ps, p.Valid) :
    ps.length ≤ (textOf ps).length := by
  induction ps with
  | nil => exact Nat.le_refl 0
  | cons p ps ih =>
    obtain ⟨hp, hps⟩ := List.forall_mem_cons.1 h
    have hle := ih hps
    have hpos := List.length_pos_of_ne_nil (text_ne_nil hp)
    rw [textOf_cons, List.length_cons, List.length_append]
    omega

theorem length_itemsFrom_pieces_le (line : Nat) (cs : List Char) :
    (itemsFrom line (pieces cs)).length ≤ cs.length := by
  have h := length_le_textOf (tiles_pieces cs).valid
  rw [textOf_pieces] at h
  exact (length_itemsFrom_le line (pieces cs)).trans h

end Piece

/-! ## Nothing stands behind an open string -/

namespace Covering

/-- Nothing is laid out in no text. -/
theorem WellPlaced.spans_eq_nil {c : Covering} (h : c.WellPlaced) {before after : List Span}
    {x : Span} (hs : c.spans = before ++ x :: after) (hnil : chars ⟨after, c.last⟩ = []) :
    after = [] := by
  cases after with
  | nil => rfl
  | cons y ys =>
    have hy := (h.spans (before ++ [x]) y ys (by simp [hs])).nonempty
    rw [chars_cons] at hnil
    simp [hy] at hnil

/-- A string left open is the last item of a covering. -/
theorem WellPlaced.eq_nil_of_unterminated {c : Covering} (h : c.WellPlaced)
    {before after : List Item} {e : LexError} (hi : c.items = before ++ .error e :: after)
    (he : e.cause = .unterminatedString) : after = [] := by
  obtain ⟨xs, ys, hspans, -, hys⟩ := List.map_eq_append_iff.1 hi
  obtain ⟨x, zs, rfl, hx, rfl⟩ := List.map_eq_cons_iff.1 hys
  have hspells := (h.spans xs x zs hspans).spells
  obtain ⟨cause, line⟩ := e
  obtain rfl : cause = .unterminatedString := he
  rw [hx] at hspells
  rw [h.spans_eq_nil hspans hspells.2, List.map_nil]

end Covering

namespace Scanner

/-! ## One call -/

/-- A call that goes `n` times through its loop and then gives `result`. -/
inductive Returns : Scanner → Nat → Option Step → Prop
  | done {s : Scanner} : s.finished = true → Returns s 0 none
  | ends {s : Scanner} : s.finished = false → s.rest = [] → Returns s 1 (some s.finish)
  | skips {s : Scanner} {c : Char} {cs : List Char} {n : Nat} {result : Option Step} :
      s.finished = false → s.rest = c :: cs →
      (Piece.cut c cs).1.item? s.line (s.line + (Piece.cut c cs).1.newlines) = none →
      Returns (s.pass (Piece.cut c cs).1 (Piece.cut c cs).2) n result →
        Returns s (n + 1) result
  | finds {s : Scanner} {c : Char} {cs : List Char} {item : Item} :
      s.finished = false → s.rest = c :: cs →
      (Piece.cut c cs).1.item? s.line (s.line + (Piece.cut c cs).1.newlines) = some item →
        Returns s 1 (some ⟨item, item.event,
          (s.pass (Piece.cut c cs).1 (Piece.cut c cs).2).record item⟩)

/-- A call that ends gives the next step. -/
theorem Returns.eq {s : Scanner} {n : Nat} {result : Option Step} (h : Returns s n result) :
    result = s.next? := by
  induction h with
  | done hf => exact (next?_finished hf).symm
  | ends hf hr => exact (next?_nil hf hr).symm
  | skips hf hr hi _ ih => rw [ih, next?_skip hf hr hi]
  | finds hf hr hi => exact (next?_item hf hr hi).symm

/-- **Every call ends**, after no more rounds than there are characters left, and one. -/
theorem exists_returns (s : Scanner) :
    ∃ n, n ≤ s.rest.length + 1 ∧ s.Returns n s.next? := by
  suffices h : ∃ n result, n ≤ s.rest.length + 1 ∧ s.Returns n result by
    obtain ⟨n, result, hn, hr⟩ := h
    exact ⟨n, hn, hr.eq ▸ hr⟩
  generalize hlen : s.rest.length = k
  induction k using Nat.strong_induction_on generalizing s with
  | _ k ih =>
    subst hlen
    cases hf : s.finished with
    | true => exact ⟨0, none, Nat.zero_le _, .done hf⟩
    | false =>
      cases hr : s.rest with
      | nil => exact ⟨1, _, Nat.le_refl 1, .ends hf hr⟩
      | cons c cs =>
        have hlt : (Piece.cut c cs).2.length < (c :: cs).length := Piece.length_cut_lt c cs
        cases hi : (Piece.cut c cs).1.item? s.line (s.line + (Piece.cut c cs).1.newlines) with
        | some item => exact ⟨1, _, Nat.le_add_left 1 _, .finds hf hr hi⟩
        | none =>
          obtain ⟨n, result, hn, hreturns⟩ :=
            ih _ (hr ▸ hlt) (s.pass (Piece.cut c cs).1 (Piece.cut c cs).2) rfl
          have hle : n ≤ (Piece.cut c cs).2.length + 1 := hn
          exact ⟨n + 1, result, by omega, .skips hf hr hi hreturns⟩

/-! ## All calls -/

theorem items_eq_nil_iff {s : Scanner} : s.items = [] ↔ s.next? = none := by
  cases hs : s.next? with
  | none => simp [items, steps_eq, hs]
  | some step => simp [items_of_next? hs]

/-- Calls give the items one by one. -/
theorem calls_eq (s : Scanner) (k : Nat) :
    (s.calls k).1 = s.items.take k ∧ (s.calls k).2.items = s.items.drop k := by
  induction k with
  | zero => exact ⟨rfl, rfl⟩
  | succ k ih =>
    obtain ⟨htaken, hleft⟩ := ih
    cases hs : (s.calls k).2.next? with
    | none =>
      have hall : s.items.length ≤ k := by
        rw [← List.drop_eq_nil_iff, ← hleft]
        exact items_eq_nil_iff.2 hs
      simp only [calls, hs]
      rw [htaken, hleft, List.take_of_length_le hall, List.take_of_length_le (Nat.le_succ_of_le hall),
        List.drop_of_length_le hall, List.drop_of_length_le (Nat.le_succ_of_le hall)]
      exact ⟨rfl, rfl⟩
    | some step =>
      rw [items_of_next? hs] at hleft
      simp only [calls, hs]
      constructor
      · rw [htaken, List.take_add_one, ← List.head?_drop, ← hleft]
        rfl
      · rw [← List.tail_drop, ← hleft]
        rfl

/-- **The shape and the end of an iteration.** The calls give, one by one, no more items than there
are characters, then the end of the text, and nothing after it. None of the items before the end is
an end, each token among them has a text, and a string left open is the last of them. Every call
ends, however much it skips. -/
theorem calls_shape (source : String) :
    ∃ (items : List Item) (last : Token), last.isEndOfFile = true ∧ last.lexeme = "" ∧
      items.length ≤ source.length ∧
      (∀ k, ((ofString source).calls k).1 = (items ++ [Item.token last]).take k) ∧
      (∀ k, ((ofString source).calls k).2.next? = none ↔ items.length < k) ∧
      (∀ item ∈ items, item.isEnd = false) ∧
      (∀ t, .token t ∈ items → t.lexeme ≠ "") ∧
      (∀ before e after, items = before ++ .error e :: after → e.cause = .unterminatedString →
        after = []) ∧
      ∀ k, ∃ n, n ≤ ((ofString source).calls k).2.rest.length + 1 ∧
        ((ofString source).calls k).2.Returns n ((ofString source).calls k).2.next? := by
  let s := ofString source
  let items := Piece.itemsFrom 1 (Piece.pieces source.toList)
  let last := Token.endOfFile (1 + source.toList.count '\n')
  have hitems : s.items = items ++ [.token last] := items_eq s rfl
  refine ⟨items, last, Token.isEndOfFile_endOfFile _, rfl, ?_, fun k => ?_, fun k => ?_,
    fun item => Piece.isEnd_of_mem_itemsFrom, fun t ht => ?_, fun before e after hi he => ?_,
    fun k => exists_returns _⟩
  · rw [← String.length_toList]
    exact Piece.length_itemsFrom_pieces_le 1 source.toList
  · rw [(s.calls_eq k).1, hitems]
  · rw [← items_eq_nil_iff, (s.calls_eq k).2, hitems, List.drop_eq_nil_iff, List.length_append,
      List.length_singleton]
    omega
  · obtain ⟨p, hv, -, hlexeme⟩ := piece_of_token_mem ht
    intro hempty
    rw [hlexeme, String.ofList_eq_empty_iff] at hempty
    exact Piece.text_ne_nil hv hempty
  · have hcovers := Covering.covers_ofSource source
    have hc : (Covering.ofSource source).items = before ++ .error e :: after :=
      (Covering.items_ofPieces 1 _).trans hi
    exact hcovers.toWellPlaced.eq_nil_of_unterminated hc he

/-- Behind a comment and an open string come the end of the text and then nothing more. -/
example : ((ofString "//\n\"a").calls 5).1 =
    [.error ⟨.unterminatedString, 2⟩, .token (Token.endOfFile 2)] := by
  decide +kernel

end Scanner

end LoxLexer
