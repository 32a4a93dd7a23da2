import LoxLexer.Proofs.Scanner.Shift

/-! # Suspending and resuming a scanner

A scanner keeps no mode between two items. Stopped after any number of calls, it finds in what
remains of its text just what a fresh scanner finds there, the lines counted on
(`Run.drain_eq`), and nothing once it gave the end of the text. So it does not matter where a scan
is interrupted (`resume_after_calls`).
-/

set_option autoImplicit false

namespace LoxLexer

namespace Scanner

/-! ## Calls -/

/-- The items that `k` calls give, and the scanner behind them. A call behind the end of the text
gives nothing and leaves the scanner as it is. -/
def calls (s : Scanner) : Nat → List Item × Scanner
  | 0 => ([], s)
  | k + 1 =>
    match (s.calls k).2.next? with
    | none => s.calls k
    | some step => ((s.calls k).1 ++ [step.item], step.scanner)

theorem run_calls (source : String) (k : Nat) :
    Run source ((ofString source).calls k).1 ((ofString source).calls k).2 := by
  induction k with
  | zero => exact .start
  | succ k ih =>
    cases hs : ((ofString source).calls k).2.next? with
    | none => simpa only [calls, hs] using ih
    | some step =>
      have h := Run.step ih hs
      simpa only [calls, hs] using h

/-! ## What remains -/

variable {source : String} {items : List Item} {s : Scanner}

/-- The items that a scanner gave and those that it will give are those of its source. -/
theorem Run.items_append (h : Run source items s) : items ++ s.items = (ofString source).items := by
  induction h with
  | start => rfl
  | @step items s step _ hs ih =>
    rw [items_of_next? hs] at ih
    rw [List.append_assoc]
    exact ih

theorem Run.line_pos (h : Run source items s) : 0 < s.line := by
  obtain ⟨passed, hp⟩ := h.position
  rw [hp.line]
  omega

theorem drain_of_finished (hf : s.finished = true) : s.drain = ⟨[], []⟩ := by
  rw [drain, items_finished hf]
  rfl

/-- An unfinished scanner finds what a fresh one finds in the rest of its text, further down. -/
theorem drain_of_not_finished (hf : s.finished = false) (hl : 0 < s.line) :
    s.drain = (scan (String.ofList s.rest)).shift (s.line - 1) := by
  obtain ⟨n, hn⟩ : ∃ n, s.line = 1 + n := ⟨s.line - 1, by omega⟩
  have hend : Item.token (Token.endOfFile (1 + n + s.rest.count '\n')) =
      (Item.token (Token.endOfFile (1 + s.rest.count '\n'))).shift n := by
    rw [Item.shift_endOfFile]
    congr 2
    omega
  rw [drain, items_eq s hf, scan_eq, ← Scan.ofItems_shift, String.toList_ofList, hn, hend,
    Piece.itemsFrom_shift, Nat.add_sub_cancel_left, List.map_append]
  rfl

/-- **What a scanner finds from any state on**: nothing once it gave the end of the text, and until
then what a fresh scanner finds in the rest of the text, further down. -/
theorem Run.drain_eq (h : Run source items s) :
    s.drain = if items.any Item.isEnd then ⟨[], []⟩
      else (scan (String.ofList s.rest)).shift (s.line - 1) := by
  have hfin : s.finished = items.any Item.isEnd := by
    rw [Bool.eq_iff_iff, h.finished_iff, List.any_eq_true]
  split
  · next hend => exact drain_of_finished (hfin.trans hend)
  · next hend => exact drain_of_not_finished (by simpa [hfin] using hend) h.line_pos

theorem Run.tokens_append_drain (h : Run source items s) :
    items.filterMap Item.token? ++ s.drain.tokens = (scan source).tokens := by
  rw [scan, drain, drain, ← h.items_append]
  exact List.filterMap_append.symm

theorem Run.errors_append_drain (h : Run source items s) :
    items.filterMap Item.error? ++ s.drain.errors = (scan source).errors := by
  rw [scan, drain, drain, ← h.items_append]
  exact List.filterMap_append.symm

/-- **A scanner keeps no mode between items**: after any number of calls its offset cuts the source
in two, and what it then finds is nothing once the end of the text was given, and else what a scan
of the second part finds, further down. What the calls gave and what is found then are together
what a scan of the source finds. -/
theorem resume_after_calls (source : String) (k : Nat) :
    let taken := ((ofString source).calls k).1
    let s := ((ofString source).calls k).2
    ∃ passed rest : String, source = passed ++ rest ∧ passed.utf8ByteSize = s.offset ∧
      s.drain = (if taken.any Item.isEnd then ⟨[], []⟩ else (scan rest).shift (s.line - 1)) ∧
      taken.filterMap Item.token? ++ s.drain.tokens = (scan source).tokens ∧
      taken.filterMap Item.error? ++ s.drain.errors = (scan source).errors := by
  intro taken s
  have hrun : Run source taken s := run_calls source k
  obtain ⟨passed, hp⟩ := hrun.position
  refine ⟨String.ofList passed, String.ofList s.rest, ?_, ?_, ?_, ?_, ?_⟩
  · rw [← String.ofList_append, ← hp.chars, String.ofList_toList]
  · exact hp.offset.symm
  · exact hrun.drain_eq
  · exact hrun.tokens_append_drain
  · exact hrun.errors_append_drain

/-- Stopped behind a string over two lines, in front of a number with a point. -/
example : ((ofString "\"\n\"1.").calls 1).2.drain = (scan "1.").shift 1 := by decide +kernel

end Scanner

end LoxLexer
