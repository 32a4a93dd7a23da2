import LoxLexer.Proofs.Cursor.Call

/-! # Walks of a cursor

A `Walk` is any number of calls of a cursor over a text, stopped at any point of the program, be it
between two calls or inside of a loop. `Cursor.InStep` is what holds at each of them: the offsets
are boundaries of characters in the right order, and the iterator is where the second of them is.
`Walk.safe` adds that no step from there goes back or panics, and that the calls give what those of
the scanner give, the one under way included.
-/

set_option autoImplicit false

namespace LoxLexer

open String (utf8Len)

variable {L : Lookahead}

/-- The offsets, the iterator and the text of a cursor agree. -/
structure Cursor.InStep (c : Cursor L) : Prop where
  start_le : c.start ≤ c.current
  current_le : c.current ≤ c.source.utf8ByteSize
  isValid_start : (⟨c.start⟩ : String.Pos.Raw).IsValid c.source
  isValid_current : (⟨c.current⟩ : String.Pos.Raw).IsValid c.source
  /-- The text of the lexeme can be taken. -/
  lexeme : ∃ lexeme, slice? c.source c.start c.current = some lexeme
  /-- What is left is what the iterator gives, and looking ahead shows how it begins. -/
  ahead : ∃ rest, slice? c.source c.current c.source.utf8ByteSize = some rest ∧
    L.Yields c.chars (charIndices c.current rest.toList) ∧
    c.peek.1 = rest.toList[0]? ∧ c.peekSecond.1 = rest.toList[1]?

/-- A new cursor over `source` gets to the point `c` in its call number `n`, counted from zero. The
calls before have given `items`. -/
inductive Walk (L : Lookahead) (source : String) : Nat → List Item → Config L → Prop
  | start : Walk L source 0 [] ⟨.ofString L source, .start⟩
  | on {n : Nat} {items : List Item} {c c' : Config L} :
      Walk L source n items c → c.step = .on c' → Walk L source n items c'
  | gives {n : Nat} {items : List Item} {c : Config L} {result : Option Item} {c' : Cursor L} :
      Walk L source n items c → c.step = .gives result c' →
        Walk L source (n + 1) (items ++ result.toList) ⟨c', .start⟩

namespace Cursor.Shows

variable {source : String} {passed seen : List Char} {s : Scanner} {c : Cursor L}

/-- The text behind the second offset. -/
theorem slice_ahead (h : Shows source passed seen s c) :
    slice? c.source c.current c.source.utf8ByteSize = some (String.ofList s.rest) := by
  have hchars : source.toList = (passed ++ seen) ++ (s.rest ++ []) := by
    rw [List.append_nil, List.append_assoc, h.chars]
  have hcurrent : c.current = utf8Len (passed ++ seen) := by
    rw [String.utf8Len_append, h.current]
  have hsize : source.utf8ByteSize = utf8Len (passed ++ seen) + utf8Len s.rest := by
    rw [← String.utf8Len_append, List.append_assoc, ← h.chars, ← String.utf8ByteSize_ofList,
      String.ofList_toList]
  rw [h.source_eq, hcurrent, hsize]
  exact slice?_eq hchars

theorem inStep (hL : L.Lawful) (h : Shows source passed seen s c) : c.InStep where
  start_le := by
    rw [h.start, h.current]
    exact Nat.le_add_right _ _
  current_le := by
    have hsize : source.utf8ByteSize = utf8Len (passed ++ (seen ++ s.rest)) := by
      rw [← h.chars, ← String.utf8ByteSize_ofList, String.ofList_toList]
    rw [h.source_eq, h.current, hsize, String.utf8Len_append, String.utf8Len_append]
    omega
  isValid_start := by
    rw [h.source_eq, h.start]
    exact isValid_of_toList_eq h.chars
  isValid_current := by
    rw [h.source_eq, h.current, ← String.utf8Len_append]
    exact isValid_of_toList_eq (h.chars.trans (List.append_assoc _ _ _).symm)
  lexeme := ⟨_, h.slice⟩
  ahead := by
    refine ⟨_, h.slice_ahead, ?_⟩
    rw [String.toList_ofList]
    refine ⟨h.ahead, ?_, (h.peekSecond hL).1⟩
    rw [(h.peek hL).1, List.head?_eq_getElem?]

end Cursor.Shows

/-! ## Counts -/

namespace Scanner

variable {source : String} {items : List Item} {s : Scanner}

/-- A step counts no more than one item. -/
theorem counts_next? {step : Step} (hs : s.next? = some step) :
    step.scanner.tokens + step.scanner.errors ≤ s.tokens + s.errors + 1 := by
  fun_induction next? s with
  | case1 => cases hs
  | case2 =>
    cases hs
    exact Nat.le_succ _
  | case3 s hf c cs hr first behind hi ih => exact ih hs
  | case4 s hf c cs hr first behind item hi =>
    cases hs
    cases item <;> simp only [record, behind, pass] <;> omega

theorem Run.counts_le (h : Run source items s) : s.tokens + s.errors ≤ items.length := by
  induction h with
  | start => exact Nat.le_refl 0
  | step _ hs ih =>
    have hcounts := counts_next? hs
    rw [List.length_append, List.length_singleton]
    omega

theorem Run.line_le (h : Run source items s) : s.line ≤ source.length + 1 := by
  obtain ⟨passed, hp⟩ := h.position
  have hchars := congrArg List.length hp.chars
  have hcount : passed.count '\n' ≤ passed.length := List.count_le_length
  rw [String.length_toList, List.length_append] at hchars
  rw [hp.line]
  omega

theorem length_calls_le (source : String) (n : Nat) :
    ((ofString source).calls n).1.length ≤ source.length + 1 := by
  have hlength := Piece.length_itemsFrom_pieces_le 1 source.toList
  have hitems : (ofString source).items = _ := items_eq _ rfl
  rw [String.length_toList] at hlength
  rw [((ofString source).calls_eq n).1, hitems, List.length_take, List.length_append,
    List.length_singleton]
  exact (Nat.min_le_right _ _).trans (Nat.succ_le_succ hlength)

end Scanner

/-- The counts of a cursor are not beyond those at the end of the call. -/
theorem Config.Ends.grows (hL : L.Lawful) {X : Option Item → Cursor L → Prop} {source : String}
    {c : Config L} (h : c.Ends X) (hinvariant : c.Invariant source) :
    ∃ result c', X result c' ∧ c.cursor.Grows c' := by
  induction h with
  | on hstep _ ih =>
    have hsafe := hinvariant.safe_step hL
    rw [hstep] at hsafe
    obtain ⟨result, c', hX, hgrows⟩ := ih hsafe.1
    exact ⟨result, c', hX, hsafe.2.trans hgrows⟩
  | gives hstep hX =>
    have hsafe := hinvariant.safe_step hL
    rw [hstep] at hsafe
    exact ⟨_, _, hX, hsafe.2⟩

/-! ## Walks -/

namespace Walk

variable {source : String} {n : Nat} {items : List Item} {c : Config L}

/-- Every point of a walk keeps the invariant. -/
theorem invariant (hL : L.Lawful) (w : Walk L source n items c) : c.Invariant source := by
  induction w with
  | start => exact ⟨[], [], _, Cursor.shows_ofString hL source, trivial⟩
  | on _ hstep ih | gives _ hstep ih =>
    have hsafe := ih.safe_step hL
    rw [hstep] at hsafe
    exact hsafe.1

/-- The calls of a walk are those of the scanner, and so is the one under way. -/
theorem follows (hL : L.Lawful) (w : Walk L source n items c) :
    items = ((Scanner.ofString source).calls n).1 ∧
      c.Ends fun result c' =>
        items ++ result.toList = ((Scanner.ofString source).calls (n + 1)).1 ∧
          ∃ passed seen,
            c'.Shows source passed seen ((Scanner.ofString source).calls (n + 1)).2 := by
  induction w with
  | start =>
    have hshows := Cursor.shows_ofString hL source
    exact ⟨rfl, Cursor.Shows.ends_call hL (n := 0) hshows⟩
  | on _ hstep ih =>
    obtain ⟨hitems, hends⟩ := ih
    exact ⟨hitems, hends.of_on hstep⟩
  | gives _ hstep ih =>
    obtain ⟨-, hends⟩ := ih
    obtain ⟨hitems, passed, seen, hshows⟩ := hends.of_gives hstep
    rw [hitems]
    exact ⟨rfl, hshows.ends_call hL⟩

/-- No count exceeds the number of characters by more than one. -/
theorem counts_le (hL : L.Lawful) (w : Walk L source n items c) :
    c.cursor.line ≤ source.length + 1 ∧
      c.cursor.tokens + c.cursor.errors ≤ source.length + 1 := by
  obtain ⟨-, hends⟩ := w.follows hL
  obtain ⟨result, c', ⟨-, passed, seen, hshows⟩, hgrows⟩ := hends.grows hL (w.invariant hL)
  have hrun := Scanner.run_calls source (n + 1)
  have hline := hrun.line_le
  have hcounts := hrun.counts_le
  have hlength := Scanner.length_calls_le source (n + 1)
  rw [← hshows.line] at hline
  rw [← hshows.tokens, ← hshows.errors] at hcounts
  have := hgrows.line
  have := hgrows.tokens
  have := hgrows.errors
  omega

/-- **Every point of every walk is safe.** The offsets, the iterator and the text agree there, and
so the text of a lexeme and the value of a string can be taken. No step goes back or panics, no
count exceeds the number of characters by more than one, and the calls end and give what those of
the scanner give. -/
theorem safe (hL : L.Lawful) (w : Walk L source n items c) :
    c.cursor.source = source ∧ c.cursor.InStep ∧
      (∀ firstLine, c.point = .found (.string firstLine) → ∃ lexeme value,
        slice? source c.cursor.start c.cursor.current = some lexeme ∧
          slice? lexeme 1 (lexeme.utf8ByteSize - 1) = some value) ∧
      c.step ≠ .panics ∧
      (∀ c', c.step = .on c' → c.cursor.current ≤ c'.cursor.current) ∧
      (∀ result c', c.step = .gives result c' → c.cursor.current ≤ c'.current) ∧
      (c.cursor.line ≤ source.length + 1 ∧
        c.cursor.tokens + c.cursor.errors ≤ source.length + 1) ∧
      items = ((Scanner.ofString source).calls n).1 ∧
      c.Ends fun result _ =>
        items ++ result.toList = ((Scanner.ofString source).calls (n + 1)).1 := by
  have hsafe := (w.invariant hL).safe_step hL
  obtain ⟨passed, seen, s, hshows, hknows⟩ := w.invariant hL
  obtain ⟨hitems, hends⟩ := w.follows hL
  refine ⟨hshows.source_eq, hshows.inStep hL, fun firstLine hpoint => ?_, fun hstep => ?_,
    fun c' hstep => ?_, fun result c' hstep => ?_, w.counts_le hL, hitems,
    hends.imp fun _ _ h => h.1⟩
  · rw [hpoint] at hknows
    obtain ⟨body, rfl⟩ := hknows
    have hlexeme := hshows.slice
    rw [hshows.source_eq] at hlexeme
    exact ⟨_, _, hlexeme, slice?_quoted body⟩
  · rw [hstep] at hsafe
    exact hsafe
  · rw [hstep] at hsafe
    exact hsafe.2.current
  · rw [hstep] at hsafe
    exact hsafe.2.current

/-- Behind the last quote of a string with a letter of two bytes. -/
theorem safe_found_string :
    ∃ c : Config .buffered, Walk .buffered "\"é\"" 0 [] c ∧ c.point = .found (.string 1) ∧
      c.cursor.current = 4 ∧ c.cursor.InStep ∧ c.step ≠ .panics := by
  have w : Walk .buffered "\"é\"" 0 [] _ :=
    .on (.on (.on (.on (.on (.on (.on .start rfl) rfl) rfl) rfl) rfl) rfl) rfl
  obtain ⟨-, hstep, -, hpanics, -⟩ := w.safe Lookahead.lawful_buffered
  exact ⟨_, w, rfl, rfl, hstep, hpanics⟩

end Walk

end LoxLexer
