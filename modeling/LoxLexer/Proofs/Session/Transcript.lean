import LoxLexer.Proofs.Scanner.Lines
import LoxLexer.Proofs.Session.Prompt
import LoxLexer.Proofs.Stream.Input

/-! # The transcript of a prompt

`Dialogue` says, from the bytes of an input alone, which texts it has a prompt run and how it ends:
it quits, a line is not text, or the input ends or fails. Every input has one dialogue
(`dialogue_iff`), and on streams that take everything `runPrompt_transcript` says to the byte what
the prompt writes for it. What stands at or behind the line that ends a dialogue is not seen in
either stream.
-/

set_option autoImplicit false

namespace LoxLexer

namespace Session

open Input

/-! ## Dialogues -/

/-- A line that can be read in front of `rest`: it ends at its newline, or with the input. In front
of a failure of the input a line without a newline cannot be read. -/
inductive Line (fault : Option Failure) : List UInt8 → List UInt8 → Prop
  | finished {body : List UInt8} (rest : List UInt8) :
      newline ∉ body → Line fault (body ++ [newline]) rest
  | last {line : List UInt8} : fault = none → line ≠ [] → newline ∉ line → Line fault line []

/-- The text without all the returns and newlines at its end. -/
structure Stripped (text command : String) : Prop where
  ends : ∃ ends : List Char, (∀ c ∈ ends, c = '\r' ∨ c = '\n') ∧
    text.toList = command.toList ++ ends
  last : ∀ c ∈ command.toList.getLast?, c ≠ '\r' ∧ c ≠ '\n'

/-- The texts that an input has a prompt run, and what it fails with: `fault` is what the input
fails with behind its bytes, if it does not end there. -/
inductive Dialogue (fault : Option Failure) :
    List UInt8 → List String → Option Failure → Prop
  | ends : fault = none → Dialogue fault [] [] none
  | readFails {cutOff : List UInt8} {cause : Failure} : fault = some cause → newline ∉ cutOff →
      Dialogue fault cutOff [] (some cause)
  | notText {line rest : List UInt8} : Line fault line rest → text? line = none →
      Dialogue fault (line ++ rest) [] (some .notText)
  | quits {line rest : List UInt8} {text : String} : Line fault line rest →
      text? line = some text → Stripped text "quit" → Dialogue fault (line ++ rest) [] none
  | runs {line rest : List UInt8} {text command : String} {commands : List String}
      {result : Option Failure} : Line fault line rest → text? line = some text →
      Stripped text command → command ≠ "quit" → Dialogue fault rest commands result →
      Dialogue fault (line ++ rest) (command :: commands) result

/-! ## Lines -/

/-- The lines of an input with these bytes. -/
def linesOf (fault : Option Failure) (bytes : List UInt8) : List (List UInt8) :=
  if fault.isSome then (cutLines bytes).filter isFinished else cutLines bytes

theorem linesOf_nil (fault : Option Failure) : linesOf fault [] = [] := by
  rw [linesOf, cutLines_unfinished List.not_mem_nil]
  split <;> rfl

/-- In front of a failure an unfinished line is lost. -/
theorem linesOf_cutOff {bytes : List UInt8} (h : newline ∉ bytes) (cause : Failure) :
    linesOf (some cause) bytes = [] := by
  rw [linesOf, cutLines_unfinished h]
  split
  · split
    · rfl
    · rw [List.filter_cons_of_neg (by simp [isFinished_eq_false h]), List.filter_nil]
  · next hsome => exact absurd rfl hsome

theorem linesOf_line {fault : Option Failure} {line rest : List UInt8} (h : Line fault line rest) :
    linesOf fault (line ++ rest) = line :: linesOf fault rest := by
  cases h with
  | @finished body _ hbody =>
    unfold linesOf
    rw [List.append_assoc, List.singleton_append, cutLines_append_newline hbody]
    split
    · rw [List.filter_cons_of_pos (isFinished_append_newline body)]
    · rfl
  | last hfault hne hline =>
    subst hfault
    rw [linesOf_nil, List.append_nil]
    show cutLines line = [line]
    rw [cutLines_unfinished hline, if_neg hne]

/-! ## The text of a line -/

theorem isLineEnd_iff {c : Char} : isLineEnd c = true ↔ c = '\r' ∨ c = '\n' := by
  simp [isLineEnd]

theorem stripped_iff {text command : String} :
    Stripped text command ↔ stripLineEnd text = command := by
  constructor
  · intro h
    obtain ⟨⟨ends, hends, htext⟩, hlast⟩ := h
    have hkept : command.toList.reverse.dropWhile isLineEnd = command.toList.reverse := by
      rw [List.getLast?_eq_head?_reverse] at hlast
      cases hcs : command.toList.reverse with
      | nil => rfl
      | cons c cs =>
        have hc : ¬ isLineEnd c = true := by
          rw [isLineEnd_iff, not_or]
          exact hlast c (by rw [hcs]; rfl)
        rw [List.dropWhile_cons_of_neg hc]
    have hdropped : ∀ c ∈ ends.reverse, isLineEnd c = true :=
      fun c hc => isLineEnd_iff.2 (hends c (List.mem_reverse.1 hc))
    rw [stripLineEnd, htext, List.reverse_append, List.dropWhile_append_of_pos hdropped, hkept,
      List.reverse_reverse, String.ofList_toList]
  · rintro rfl
    constructor
    · refine ⟨(text.toList.reverse.takeWhile isLineEnd).reverse, fun c hc => ?_, ?_⟩
      · exact isLineEnd_iff.1 (List.mem_takeWhile_imp (List.mem_reverse.1 hc))
      · rw [stripLineEnd, String.toList_ofList, Text.append_trailing]
    · intro c hc
      rw [stripLineEnd, String.toList_ofList, List.getLast?_reverse] at hc
      have hnot := List.head?_dropWhile_not isLineEnd text.toList.reverse
      rw [Option.mem_def.1 hc] at hnot
      rw [← not_or, ← isLineEnd_iff, hnot]
      exact Bool.false_ne_true

theorem command?_of_stripped {line : List UInt8} {text command : String}
    (ht : text? line = some text) (h : Stripped text command) :
    command? line = if command = "quit" then none else some command := by
  rw [command?, ht, Option.bind_some, stripped_iff.1 h]
  rfl

/-! ## Every input has one dialogue -/

section
variable {fault result : Option Failure} {bytes : List UInt8} {cs : List String}

/-- A dialogue runs what the lines have a prompt run, and fails as reading them does. -/
theorem Dialogue.eq (h : Dialogue fault bytes cs result) :
    cs = commands (linesOf fault bytes) ∧ result = readFailure? fault (linesOf fault bytes) := by
  induction h with
  | ends hf =>
    rw [linesOf_nil, hf]
    exact ⟨rfl, rfl⟩
  | readFails hf hcut =>
    rw [hf, linesOf_cutOff hcut]
    exact ⟨rfl, rfl⟩
  | @notText line rest hline ht =>
    have hc : command? line = none := by
      rw [command?, ht]
      rfl
    rw [linesOf_line hline, commands, readFailure?, hc, if_pos ht]
    exact ⟨rfl, rfl⟩
  | quits hline ht hquit =>
    have hc := command?_of_stripped ht hquit
    rw [if_pos rfl] at hc
    rw [linesOf_line hline, commands, readFailure?, hc, if_neg (by simp [ht])]
    exact ⟨rfl, rfl⟩
  | runs hline ht hstrip hne _ ih =>
    have hc := command?_of_stripped ht hstrip
    rw [if_neg hne] at hc
    obtain ⟨hcs, hresult⟩ := ih
    rw [linesOf_line hline, commands, readFailure?, hc]
    exact ⟨congrArg _ hcs, hresult⟩

theorem exists_dialogue_of_line {line rest : List UInt8} (hline : Line fault line rest)
    (h : ∃ cs result, Dialogue fault rest cs result) :
    ∃ cs result, Dialogue fault (line ++ rest) cs result := by
  cases ht : text? line with
  | none => exact ⟨_, _, .notText hline ht⟩
  | some text =>
    have hstrip : Stripped text (stripLineEnd text) := stripped_iff.2 rfl
    by_cases hquit : stripLineEnd text = "quit"
    · exact ⟨_, _, .quits hline ht (hquit ▸ hstrip)⟩
    · obtain ⟨cs, result, h⟩ := h
      exact ⟨_, _, .runs hline ht hstrip hquit h⟩

theorem exists_dialogue_of_cut {lines : List (List UInt8)} (h : Cut lines) :
    ∃ cs result, Dialogue fault lines.flatten cs result := by
  induction h with
  | nil =>
    cases fault with
    | none => exact ⟨_, _, .ends rfl⟩
    | some cause => exact ⟨_, _, .readFails rfl List.not_mem_nil⟩
  | @unfinished line hne hline =>
    rw [List.flatten_cons, List.flatten_nil]
    cases fault with
    | none => exact exists_dialogue_of_line (.last rfl hne hline) ⟨_, _, .ends rfl⟩
    | some cause => exact ⟨_, _, .readFails rfl (by rwa [List.append_nil])⟩
  | finished hline _ ih =>
    rw [List.flatten_cons]
    exact exists_dialogue_of_line (.finished _ hline) ih

/-- **Every input has one dialogue.** -/
theorem dialogue_iff : Dialogue fault bytes cs result ↔
    cs = commands (linesOf fault bytes) ∧ result = readFailure? fault (linesOf fault bytes) := by
  constructor
  · exact Dialogue.eq
  · rintro ⟨rfl, rfl⟩
    have hex : ∃ cs result, Dialogue fault (cutLines bytes).flatten cs result :=
      exists_dialogue_of_cut (cut_cutLines bytes)
    rw [flatten_cutLines] at hex
    obtain ⟨cs, result, h⟩ := hex
    obtain ⟨rfl, rfl⟩ := h.eq
    exact h

/-- Only the end of a line is a newline. -/
theorem Line.eq_nil_of_newline {line rest before after : List UInt8} (h : Line fault line rest)
    (he : line = before ++ newline :: after) : after = [] := by
  cases h with
  | @finished body _ hbody =>
    rcases List.append_eq_append_iff.1 he with ⟨more, rfl, hmore⟩ | ⟨more, rfl, hmore⟩
    · cases more with
      | nil => exact (List.cons.inj hmore).2.symm
      | cons b more => simp at hmore
    · cases more with
      | nil => exact (List.cons.inj hmore).2
      | cons b more =>
        obtain ⟨rfl, -⟩ := List.cons.inj hmore
        exact absurd (by simp) hbody
  | last _ _ hline => exact absurd (he ▸ by simp) hline

/-- The texts that are run are single lines. -/
theorem Dialogue.newline_not_mem (h : Dialogue fault bytes cs result) :
    ∀ command ∈ cs, '\n' ∉ command.toList := by
  induction h with
  | @runs line rest text command commands result hline ht hstrip hne _ ih =>
    rw [List.forall_mem_cons]
    refine ⟨fun hmem => ?_, ih⟩
    obtain ⟨⟨ends, hends, htext⟩, hlast⟩ := hstrip
    obtain ⟨before, after, hsplit⟩ := List.append_of_mem hmem
    have hbytes : line = utf8 before ++ newline :: utf8 (after ++ ends) := by
      rw [← utf8_of_text? ht, htext, hsplit, List.append_assoc, utf8_append]
      rfl
    -- nothing stands behind the newline, so it would be the last character of the command
    have hnil := hline.eq_nil_of_newline hbytes
    obtain ⟨rfl, -⟩ : after = [] ∧ ends = [] := by
      rw [← List.append_eq_nil_iff]
      cases hrest : after ++ ends with
      | nil => rfl
      | cons c rest => exact absurd (hrest ▸ hnil) (by simp [utf8])
    rw [hsplit, List.getLast?_concat] at hlast
    exact (hlast '\n' rfl).2 rfl
  | _ => simp

end

/-! ## The reports of a single line -/

/-- What is wrong with a single line is on the first line. -/
theorem line_eq_one_of_mem_errors {command : String} (h : '\n' ∉ command.toList) :
    ∀ e ∈ (scan command).errors, e.line = 1 := by
  intro e he
  rw [errors_scan, ← Piece.itemsFrom_of_line h, List.filterMap_map] at he
  obtain ⟨item, -, hitem⟩ := List.mem_filterMap.1 he
  rw [Function.comp_apply, Item.error?_onFirstLine, Option.map_eq_some_iff] at hitem
  obtain ⟨first, -, rfl⟩ := hitem
  rfl

/-! ## The transcript -/

/-- **The transcript of a prompt**: the greeting, a mark and the token lines for each text that is
run, and a last mark; the reports of these texts, all on the first line; and the end of the dialogue
as the result. Inputs that have a prompt run the same texts are not told apart in the streams. -/
theorem runPrompt_transcript {s : Session} (hs : s.Settled) (hfree : s.FaultFree) (input : Input) :
    ∃ commands result,
      (∀ cs r, Dialogue input.fault input.bytes.data.toList cs r ↔ cs = commands ∧ r = result) ∧
      Wrote s (s.runPrompt input).session
        ("Welcome to lox-scan\nEnter command or 'quit' to exit\n" ++
          (String.join (commands.map fun command =>
            "> " ++ String.join ((scan command).tokens.map fun t => t.render ++ "\n")) ++
          "> ")).toUTF8
        (String.join ((commands.flatMap fun command => (scan command).errors).map
          fun e => e.render ++ "\n")).toUTF8 ∧
      (s.runPrompt input).failure = result ∧
      (∀ command ∈ commands, ∀ e ∈ (scan command).errors,
        e.render = "[line 1] Error: " ++ e.message) ∧
      ∀ (other : Input) (r : Option Failure),
        Dialogue other.fault other.bytes.data.toList commands r →
        (s.runPrompt other).session.streams = (s.runPrompt input).session.streams := by
  obtain ⟨hwrote, hfailure⟩ := hfree.runPrompt hs input
  rw [printedBy_promptWrites, reportedBy_promptWrites] at hwrote
  have hdialogue : Dialogue input.fault input.bytes.data.toList (commands input.lines)
      (readFailure? input.fault input.lines) := dialogue_iff.2 ⟨rfl, rfl⟩
  refine ⟨_, _, fun cs r => dialogue_iff, hwrote, hfailure, fun command hc e he => ?_,
    fun other r hother => ?_⟩
  · have hline := line_eq_one_of_mem_errors (hdialogue.newline_not_mem command hc) e he
    rw [LexError.render, hline]
    rfl
  · have hsame : commands input.lines = commands other.lines := hother.eq.1
    rw [streams_runPrompt hs, streams_runPrompt hs, promptWrites, promptWrites, hsame]

/-- Returns in a row, a blank behind the word to quit, an error, and a byte behind the line that
quits which is not text. -/
theorem runPrompt_transcript_quit :
    let s : Session := {}
    let bytes := "1\r\r\nquit \n@\nquit\r\n".toUTF8.data.toList ++ [0xFF]
    let input : Input := { bytes := bytes.toByteArray }
    s.Settled ∧ s.FaultFree ∧ Dialogue none bytes ["1", "quit ", "@"] none ∧
      Wrote s (s.runPrompt input).session
        ("Welcome to lox-scan\nEnter command or 'quit' to exit\n" ++ ("> Number: 1, 1.0\n" ++
          "EndOfFile: , \n> Identifier: quit, \nEndOfFile: , \n> EndOfFile: , \n> ")).toUTF8
        "[line 1] Error: Unexpected character '@'\n".toUTF8 ∧
      (s.runPrompt input).failure = none := by
  intro s bytes input
  have hs : s.Settled := rfl
  have hfree : s.FaultFree := ⟨rfl, rfl, rfl⟩
  have hbytes : bytes = [49, 13, 13] ++ [newline] ++ ([113, 117, 105, 116, 32] ++ [newline] ++
      ([64] ++ [newline] ++ ([113, 117, 105, 116, 13] ++ [newline] ++ [0xFF]))) := by decide +kernel
  have hstrip : ∀ {text command : String}, stripLineEnd text = command → Stripped text command :=
    fun h => stripped_iff.2 h
  have hdialogue : Dialogue none bytes ["1", "quit ", "@"] none := by
    rw [hbytes]
    refine .runs (.finished _ (by decide)) (by decide +kernel : _ = some "1\r\r\n")
      (hstrip (by decide +kernel)) (by decide) ?_
    refine .runs (.finished _ (by decide)) (by decide +kernel : _ = some "quit \n")
      (hstrip (by decide +kernel)) (by decide) ?_
    refine .runs (.finished _ (by decide)) (by decide +kernel : _ = some "@\n")
      (hstrip (by decide +kernel)) (by decide) ?_
    exact .quits (.finished _ (by decide)) (by decide +kernel : _ = some "quit\r\n")
      (hstrip (by decide +kernel))
  obtain ⟨commands, result, hiff, hwrote, hfailure, -⟩ := runPrompt_transcript hs hfree input
  have hone : Dialogue input.fault input.bytes.data.toList ["1", "quit ", "@"] none := by
    rwa [show input.bytes.data.toList = bytes from List.toList_data_toByteArray]
  obtain ⟨rfl, rfl⟩ := (hiff _ _).1 hone
  have hprinted : String.join (["1", "quit ", "@"].map fun command =>
        "> " ++ String.join ((scan command).tokens.map fun t => t.render ++ "\n")) ++ "> " =
      "> Number: 1, 1.0\n" ++
        "EndOfFile: , \n> Identifier: quit, \nEndOfFile: , \n> EndOfFile: , \n> " := by
    decide +kernel
  have hreported : String.join ((["1", "quit ", "@"].flatMap fun command =>
        (scan command).errors).map fun e => e.render ++ "\n") =
      "[line 1] Error: Unexpected character '@'\n" := by decide +kernel
  rw [hprinted, hreported] at hwrote
  exact ⟨hs, hfree, hdialogue, hwrote, hfailure⟩

end Session

end LoxLexer
