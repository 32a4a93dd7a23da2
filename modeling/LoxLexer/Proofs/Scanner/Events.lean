import LoxLexer.Log.Line
import LoxLexer.Proofs.Scanner.Ending

/-! # What a scanner tells the log

A scanner counts what it finds while it tells the log of each item, and tells of its counts once,
at the end of the text. `next?_cases` says what a single step does to the counts and to the log;
`exists_events` puts the steps together: the events are those of the items, followed by the sums.
It does not matter who takes the items, since `k` calls send just the first `k` events
(`sent_eq`).
-/

set_option autoImplicit false

namespace LoxLexer

/-! ## The event of an item -/

/-- The event tells of the item and of nothing else: of a token its kind, its text and its line,
of an error its message and its line. -/
def Item.ToldBy : Item → Log.Event → Prop
  | token t, event => event = .accepted t ∧ event.level = .trace ∧
      event.text = "kind=" ++ Text.quoted t.kind.name ++ " lexeme=" ++ Text.quoted t.lexeme ++
        " line=" ++ t.line.repr
  | error e, event => event = .rejected e ∧ event.level = .debug ∧
      event.text = Log.messageText e.message ++ " line=" ++ e.line.repr

namespace Log

theorem append_countField {name shown : String} (h : " " ++ name ++ "=" = shown) (text : String)
    (value : Nat) : text ++ countField name value = text ++ shown ++ value.repr := by
  rw [countField, h, String.append_assoc]

theorem append_countField_line (text : String) (value : Nat) :
    text ++ countField "line" value = text ++ " line=" ++ value.repr :=
  append_countField (by decide) text value

theorem Event.text_finished (tokens errors line : Nat) :
    (finished tokens errors line).text = "finished scanning tokens=" ++ tokens.repr ++
      " errors=" ++ errors.repr ++ " line=" ++ line.repr := by
  have hfirst : "finished scanning" ++ " tokens=" = "finished scanning tokens=" := by simp
  show "finished scanning" ++ countField "tokens" tokens ++ countField "errors" errors ++
    countField "line" line = _
  rw [append_countField_line, append_countField (by decide : _ = " errors="),
    append_countField (by decide : _ = " tokens="), hfirst]

end Log

theorem Item.toldBy_event (item : Item) : item.ToldBy item.event := by
  cases item with
  | token t => exact ⟨rfl, rfl, Log.append_countField_line _ _⟩
  | error e => exact ⟨rfl, rfl, Log.append_countField_line _ _⟩

namespace Scanner

/-! ## One step -/

/-- **What a step counts and tells**: at the end of the text the counts, and before it the item
found, which is then counted. -/
theorem next?_cases {s : Scanner} {step : Step} (hs : s.next? = some step) :
    (∃ line, step.item = .token (Token.endOfFile line) ∧
      step.event = .finished s.tokens s.errors line ∧ step.scanner.finished = true) ∨
    (step.item.isEnd = false ∧ step.event = step.item.event ∧ step.scanner.finished = false ∧
      step.scanner.tokens = s.tokens + step.item.token?.toList.length ∧
      step.scanner.errors = s.errors + step.item.error?.toList.length) := by
  fun_induction next? s with
  | case1 => cases hs
  | case2 s hf =>
    cases hs
    exact .inl ⟨s.line, rfl, rfl, rfl⟩
  | case3 s hf c cs hr first behind hi ih => exact ih hs
  | case4 s hf c cs hr first behind item hi =>
    cases hs
    refine .inr ⟨Piece.isEnd_of_item? hi, rfl, ?_⟩
    cases item <;> simpa [record, behind, pass, Item.token?, Item.error?] using hf

/-! ## All steps -/

theorem length_filterMap_cons {α β : Type} (f : α → Option β) (x : α) (xs : List α) :
    ((x :: xs).filterMap f).length = (f x).toList.length + (xs.filterMap f).length := by
  cases h : f x <;> simp [h, Nat.add_comm]

theorem events_of_next? {s : Scanner} {step : Step} (h : s.next? = some step) :
    s.events = step.event :: step.scanner.events := by
  rw [events, steps_of_next? h, List.map_cons, events]

theorem events_finished {s : Scanner} (h : s.finished = true) : s.events = [] := by
  rw [events, steps_eq, next?_finished h, List.map_nil]

/-- **The events of what remains of a text**: those of its items, and the sums at its end. -/
theorem exists_events (s : Scanner) (hf : s.finished = false) :
    ∃ items line, s.items = items ++ [.token (Token.endOfFile line)] ∧
      (∀ item ∈ items, item.isEnd = false) ∧
      s.events = items.map Item.event ++
        [.finished (s.tokens + (items.filterMap Item.token?).length)
          (s.errors + (items.filterMap Item.error?).length) line] := by
  generalize hn : s.remaining = n
  induction n using Nat.strong_induction_on generalizing s with
  | _ n ih =>
    obtain ⟨step, hs⟩ := Option.isSome_iff_exists.1 (isSome_next? hf)
    rw [items_of_next? hs, events_of_next? hs]
    rcases next?_cases hs with ⟨line, hitem, hevent, hend⟩ | ⟨hitem, hevent, hgo, ht, he⟩
    · refine ⟨[], line, ?_, by simp, ?_⟩
      · simp [hitem, items_finished hend]
      · simp [hevent, events_finished hend]
    · obtain ⟨items, line, hitems, hproper, hevents⟩ :=
        ih _ (hn ▸ remaining_next? hs) step.scanner hgo rfl
      refine ⟨step.item :: items, line, by simp [hitems], by simpa [hitem] using hproper, ?_⟩
      rw [hevents, hevent, ht, he, length_filterMap_cons, length_filterMap_cons, Nat.add_assoc,
        Nat.add_assoc, List.map_cons, List.cons_append]

/-! ## Calls -/

/-- The events that `k` calls send to the log. -/
def sent (s : Scanner) : Nat → List Log.Event
  | 0 => []
  | k + 1 => s.sent k ++ ((s.calls k).2.next?.map Step.event).toList

theorem head?_events (s : Scanner) : s.events.head? = s.next?.map Step.event := by
  cases hs : s.next? with
  | none => simp [events, steps_eq, hs]
  | some step => simp [events_of_next? hs]

theorem events_calls (s : Scanner) (k : Nat) : (s.calls k).2.events = s.events.drop k := by
  induction k with
  | zero => rfl
  | succ k ih =>
    rw [← List.tail_drop, ← ih]
    cases hs : (s.calls k).2.next? with
    | none => simp [calls, hs, events, steps_eq]
    | some step => simp [calls, hs, events_of_next? hs]

/-- **Calls send the events one by one.** -/
theorem sent_eq (s : Scanner) (k : Nat) : s.sent k = s.events.take k := by
  induction k with
  | zero => rfl
  | succ k ih =>
    rw [sent, ih, List.take_add_one, ← List.head?_drop, ← events_calls, head?_events]

end Scanner

end LoxLexer
