import LoxLexer.Scanner
import Mathlib.Data.List.Basic

/-! # Runs of a scanner

`Scanner.Run source items s`: a scanner of `source` gave `items` and is now `s`. What one step does
is said once, by the equations of `next?` at the end of the text, at a piece that is skipped and at
a piece that gives an item; whatever holds of every state of a run is read off them.

* `Run.position`: in every state, what was passed and what remains are the source, and offset and
  line count what was passed.
* `Run.finished_iff`: a scanner is finished when it gave the end of the text.
-/

set_option autoImplicit false

namespace LoxLexer

namespace Item

/-- The end of the text, as an item. -/
def isEnd : Item → Bool
  | token t => t.isEndOfFile
  | error _ => false

@[simp] theorem isEnd_endOfFile (line : Nat) : (token (Token.endOfFile line)).isEnd = true := by
  simp [isEnd]

end Item

/-- No piece stands for the end of the text. -/
theorem Piece.isEnd_of_item? {p : Piece} {first last : Nat} {item : Item}
    (h : p.item? first last = some item) : item.isEnd = false := by
  cases p with
  | word letters =>
    cases h
    simp only [Item.isEnd, Token.isEndOfFile, TokenKind.ofWord]
    split <;> rfl
  | number whole fraction =>
    cases h
    cases (Decimal.read whole fraction).nearest? <;> rfl
  | _ => cases h <;> rfl

namespace Scanner

/-! ## One step -/

section
variable {s : Scanner} (hf : s.finished = false)
include hf

theorem next?_nil (hr : s.rest = []) : s.next? = some s.finish := by
  rw [next?]
  simp only [hf, Bool.false_eq_true, ↓reduceIte]
  split <;> simp_all

variable {c : Char} {cs : List Char} (hr : s.rest = c :: cs)
include hr

theorem next?_cons :
    s.next? = match (Piece.cut c cs).1.item? s.line (s.line + (Piece.cut c cs).1.newlines) with
      | none => (s.pass (Piece.cut c cs).1 (Piece.cut c cs).2).next?
      | some item => some ⟨item, item.event,
          (s.pass (Piece.cut c cs).1 (Piece.cut c cs).2).record item⟩ := by
  rw [next?]
  simp only [hf, Bool.false_eq_true, ↓reduceIte]
  split
  · simp_all
  · next d ds hd =>
    obtain ⟨rfl, rfl⟩ : d = c ∧ ds = cs := by simpa [hr, eq_comm] using hd
    rfl

theorem next?_skip
    (hi : (Piece.cut c cs).1.item? s.line (s.line + (Piece.cut c cs).1.newlines) = none) :
    s.next? = (s.pass (Piece.cut c cs).1 (Piece.cut c cs).2).next? := by
  rw [next?_cons hf hr, hi]

theorem next?_item {item : Item}
    (hi : (Piece.cut c cs).1.item? s.line (s.line + (Piece.cut c cs).1.newlines) = some item) :
    s.next? = some ⟨item, item.event,
      (s.pass (Piece.cut c cs).1 (Piece.cut c cs).2).record item⟩ := by
  rw [next?_cons hf hr, hi]

end

theorem next?_finished {s : Scanner} (hf : s.finished = true) : s.next? = none := by
  rw [next?]
  simp [hf]

/-- An unfinished scanner makes a step. -/
theorem isSome_next? {s : Scanner} (hf : s.finished = false) : s.next?.isSome = true := by
  fun_induction next? s with
  | case1 s h => simp [hf] at h
  | case2 => rfl
  | case3 s _ c cs hr first behind hi ih => exact ih hf
  | case4 => rfl

@[simp] theorem rest_record (s : Scanner) (item : Item) : (s.record item).rest = s.rest := by
  cases item <;> rfl

@[simp] theorem line_record (s : Scanner) (item : Item) : (s.record item).line = s.line := by
  cases item <;> rfl

@[simp] theorem offset_record (s : Scanner) (item : Item) :
    (s.record item).offset = s.offset := by
  cases item <;> rfl

@[simp] theorem finished_record (s : Scanner) (item : Item) :
    (s.record item).finished = s.finished := by
  cases item <;> rfl

/-! ## Positions -/

/-- The scanner has passed the characters `passed` of the source. -/
structure Position (source : String) (passed : List Char) (s : Scanner) : Prop where
  chars : source.toList = passed ++ s.rest
  offset : s.offset = (String.ofList passed).utf8ByteSize
  line : s.line = 1 + passed.count '\n'

theorem position_ofString (source : String) : Position source [] (ofString source) :=
  ⟨rfl, rfl, rfl⟩

variable {source : String} {passed : List Char} {s : Scanner}

theorem Position.pass (h : Position source passed s) {c : Char} {cs : List Char}
    (hr : s.rest = c :: cs) : Position source (passed ++ (Piece.cut c cs).1.text)
      (s.pass (Piece.cut c cs).1 (Piece.cut c cs).2) where
  chars := by
    rw [h.chars, hr, List.append_assoc]
    exact congrArg (passed ++ ·) (Piece.text_append_cut c cs).symm
  offset := by simp [Scanner.pass, h.offset, Piece.byteLength, String.ofList_append]
  line := by simp [Scanner.pass, h.line, Piece.newlines, Nat.add_assoc]

/-- A step goes from one position to a later one. -/
theorem Position.next? {step : Step} (hs : s.next? = some step) : ∀ {passed : List Char},
    Position source passed s → ∃ more, Position source (passed ++ more) step.scanner := by
  fun_induction Scanner.next? s with
  | case1 => cases hs
  | case2 s hf =>
    cases hs
    exact fun h => ⟨[], by simpa using ⟨h.chars, h.offset, h.line⟩⟩
  | case3 s hf c cs hr first behind hi =>
    rename_i ih
    intro passed h
    obtain ⟨more, hm⟩ := ih hs (h.pass hr)
    exact ⟨first.1.text ++ more, by rwa [← List.append_assoc]⟩
  | case4 s hf c cs hr first =>
    cases hs
    intro passed h
    have hp := h.pass hr
    exact ⟨first.1.text, by simpa using hp.chars, by simpa using hp.offset, by simpa using hp.line⟩

/-- A step gives the end of the text or leaves the scanner unfinished. -/
theorem finished_next? {step : Step} (hs : s.next? = some step) :
    step.scanner.finished = step.item.isEnd := by
  fun_induction Scanner.next? s with
  | case1 => cases hs
  | case2 s hf => cases hs; simp [finish]
  | case3 s hf c cs hr first behind hi ih => exact ih hs
  | case4 s hf c cs hr first behind item hi =>
    cases hs
    simpa [behind, Scanner.pass, Piece.isEnd_of_item? hi] using hf

/-! ## Runs -/

/-- A scanner of `source` that gave `items`. -/
inductive Run (source : String) : List Item → Scanner → Prop
  | start : Run source [] (ofString source)
  | step {items : List Item} {s : Scanner} {step : Step} :
      Run source items s → s.next? = some step → Run source (items ++ [step.item]) step.scanner

namespace Run

variable {items : List Item}

theorem position (h : Run source items s) : ∃ passed, Position source passed s := by
  induction h with
  | start => exact ⟨[], position_ofString source⟩
  | step _ hs ih =>
    obtain ⟨passed, hp⟩ := ih
    obtain ⟨more, hm⟩ := Position.next? hs hp
    exact ⟨_, hm⟩

/-- A scanner is finished when it gave the end of the text, and only then. -/
theorem finished_iff (h : Run source items s) :
    s.finished = true ↔ ∃ item ∈ items, item.isEnd = true := by
  induction h with
  | start => simp [ofString]
  | @step items s step hr hs ih =>
    have hf : ¬ s.finished = true := fun hf => by simp [next?_finished hf] at hs
    rw [finished_next? hs]
    simp only [List.mem_append, List.mem_singleton]
    constructor
    · intro he
      exact ⟨step.item, .inr rfl, he⟩
    · intro hend
      obtain ⟨item, hi | rfl, he⟩ := hend
      · exact absurd (ih.2 ⟨item, hi, he⟩) hf
      · exact he

end Run

end Scanner

end LoxLexer
