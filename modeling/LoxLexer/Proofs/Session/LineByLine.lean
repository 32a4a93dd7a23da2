import LoxLexer.Proofs.Scanner.Lines
import LoxLexer.Proofs.Session.Prompt
import LoxLexer.Proofs.Stream.Input

/-! # A text at the prompt

A text that is given to a prompt line by line comes to the same as one that is run at once, if no
line of it says to quit and none leaves a string open: the same token lines are printed, apart from
those for the end of each text, and the same errors are reported, each as one on the first line
(`runPrompt_lines`).
-/

set_option autoImplicit false

namespace LoxLexer

namespace Session

open Input

/-! ## The lines that are run -/

theorem dropWhile_isLineEnd {cs : List Char} (h : '\n' ∉ cs) :
    cs.dropWhile isLineEnd = cs.dropWhile (· == '\r') := by
  induction cs with
  | nil => rfl
  | cons c cs ih =>
    obtain ⟨hc, hcs⟩ : '\n' ≠ c ∧ '\n' ∉ cs := by simpa using h
    have hsame : isLineEnd c = (c == '\r') := by simp [isLineEnd, Ne.symm hc]
    rw [List.dropWhile_cons, List.dropWhile_cons, hsame, ih hcs]

/-- With its newline or without one, a line loses the carriage returns at its end. -/
theorem stripLineEnd_of_line {cs ending : List Char} (h : '\n' ∉ cs)
    (he : ending = [] ∨ ending = ['\n']) :
    stripLineEnd (String.ofList (cs ++ ending)) = stripReturns (String.ofList cs) := by
  have hdrop : (cs ++ ending).reverse.dropWhile isLineEnd = cs.reverse.dropWhile (· == '\r') := by
    rw [← dropWhile_isLineEnd (by simpa using h)]
    rcases he with rfl | rfl
    · rw [List.append_nil]
    · rw [List.reverse_append]
      rfl
  rw [stripLineEnd, stripReturns, String.toList_ofList, String.toList_ofList, hdrop]

theorem command?_of_line {cs ending : List Char} (h : '\n' ∉ cs)
    (he : ending = [] ∨ ending = ['\n'])
    (hquit : stripReturns (String.ofList cs) ≠ quitCommand) :
    command? (utf8 (cs ++ ending)) = some (stripReturns (String.ofList cs)) := by
  rw [command?, text?_utf8, Option.bind_some, stripLineEnd_of_line h he, if_neg hquit]

/-- What the lines of a text have a prompt run scans to the items of the lines. -/
theorem commands_cutLines {cs : List Char}
    (hquit : ∀ line ∈ cs.splitOn '\n', stripReturns (String.ofList line) ≠ quitCommand) :
    readFailure? none (cutLines (utf8 cs)) = none ∧
      ((commands (cutLines (utf8 cs))).flatMap fun command =>
          Piece.itemsFrom 1 (Piece.pieces command.toList)) =
        (cs.splitOn '\n').flatMap fun line => Piece.itemsFrom 1 (Piece.pieces line) := by
  have hitems : ∀ cs : List Char,
      Piece.itemsFrom 1 (Piece.pieces (stripReturns (String.ofList cs)).toList) =
        Piece.itemsFrom 1 (Piece.pieces cs) := fun cs => by
    rw [itemsFrom_stripReturns, String.toList_ofList]
  induction cs using Text.lines_induction with
  | last cs h =>
    rw [List.splitOn_eq_singleton h] at hquit ⊢
    rw [cutLines_utf8_unfinished h]
    split
    · next hnil =>
      subst hnil
      exact ⟨rfl, by simp [commands]⟩
    · have hcommand := command?_of_line h (.inl rfl) (hquit cs List.mem_cons_self)
      rw [List.append_nil] at hcommand
      simp only [commands, readFailure?, hcommand, List.flatMap_singleton, hitems, and_self]
  | line cs ds h ih =>
    rw [List.splitOn_append_cons_self_of_not_mem h] at hquit ⊢
    obtain ⟨hcs, hds⟩ := List.forall_mem_cons.1 hquit
    have hcommand := command?_of_line h (.inr rfl) hcs
    obtain ⟨hread, hmore⟩ := ih hds
    rw [cutLines_utf8_append h]
    simp only [commands, readFailure?, hcommand, List.flatMap_cons, hitems, hmore, hread, and_self]

/-! ## The prompt and the whole text -/

variable {text : String}

/-- The items of the lines that are run are those of the text, but for the lines they are on. -/
theorem items_commands
    (hquit : ∀ line ∈ Text.lines text, stripReturns line ≠ quitCommand)
    (hclosed : ∀ line ∈ Text.lines text, ∀ e ∈ (scan (stripReturns line)).errors,
      e.cause ≠ .unterminatedString) :
    readFailure? none (cutLines text.toUTF8.data.toList) = none ∧
      ((commands (cutLines text.toUTF8.data.toList)).flatMap fun command =>
          Piece.itemsFrom 1 (Piece.pieces command.toList)) =
        (Piece.itemsFrom 1 (Piece.pieces text.toList)).map Item.onFirstLine := by
  have hlines : ∀ line ∈ text.toList.splitOn '\n', ∀ p ∈ Piece.pieces line, ∀ body,
      p ≠ .openString body := by
    intro line hline
    have h := hclosed _ (List.mem_map_of_mem hline)
    rw [scan_stripReturns] at h
    have hopen := ne_openString_of_errors h
    rwa [String.toList_ofList] at hopen
  rw [toUTF8_toList, Piece.itemsFrom_lines hlines]
  exact commands_cutLines fun line hline => hquit _ (List.mem_map_of_mem hline)

/-- **The prompt and the whole text agree**: if no line says to quit or leaves a string open, then
the token lines that a prompt prints for the lines of a text are those that a run of the text prints,
apart from the ends of texts, and the errors that it reports are those of the run, each on the first
line. The carriage returns that a prompt takes off a line never matter. -/
theorem runPrompt_lines {s : Session} (hs : s.Settled)
    (hquit : ∀ line ∈ Text.lines text, stripReturns line ≠ quitCommand)
    (hclosed : ∀ line ∈ Text.lines text, ∀ e ∈ (scan (stripReturns line)).errors,
      e.cause ≠ .unterminatedString) :
    let input : Input := { bytes := text.toUTF8 }
    let prompt := s.unlimited.runPrompt input
    let whole := s.unlimited.run text
    let asked := commands input.lines
    prompt.failure = none ∧ whole.failure = none ∧
      Wrote s prompt.session
        (greeting ++ (String.join (asked.map fun command =>
          promptMark ++ tokenLines (scan command).tokens) ++ promptMark)).toUTF8
        (Reporter.errorLines (asked.flatMap fun command => (scan command).errors)).toUTF8 ∧
      Wrote s whole.session (tokenLines (scan text).tokens).toUTF8
        (Reporter.errorLines (scan text).errors).toUTF8 ∧
      (asked.flatMap fun command => (scan command).proper.map Token.render) =
        (scan text).proper.map Token.render ∧
      (asked.flatMap fun command => (scan command).errors) =
        (scan text).errors.map (fun e => { e with line := 1 }) ∧
      ∀ line, scan (stripReturns line) = scan line := by
  intro input prompt whole asked
  obtain ⟨hread, hitems⟩ := items_commands hquit hclosed
  have hitems : (asked.flatMap fun command => Piece.itemsFrom 1 (Piece.pieces command.toList)) =
      (Piece.itemsFrom 1 (Piece.pieces text.toList)).map Item.onFirstLine := hitems
  obtain ⟨hprompt, hpromptFailure⟩ := runPrompt_unlimited hs input
  obtain ⟨hwhole, hwholeFailure⟩ := run_unlimited hs text
  rw [printedBy_promptWrites, reportedBy_promptWrites] at hprompt
  refine ⟨hpromptFailure.trans hread, hwholeFailure, hprompt, hwhole, ?_, ?_, scan_stripReturns⟩
  · calc (asked.flatMap fun command => (scan command).proper.map Token.render)
        = ((asked.flatMap fun command => Piece.itemsFrom 1 (Piece.pieces command.toList)).filterMap
            Item.token?).map Token.render := by
          simp only [proper_scan, List.filterMap_flatMap, List.map_flatMap]
      _ = (scan text).proper.map Token.render := by
          rw [hitems, proper_scan, List.filterMap_map, List.map_filterMap, List.map_filterMap]
          refine List.filterMap_congr fun item _ => ?_
          rw [Function.comp_apply, Item.token?_onFirstLine, Option.map_map]
          rfl
  · calc (asked.flatMap fun command => (scan command).errors)
        = (asked.flatMap fun command => Piece.itemsFrom 1 (Piece.pieces command.toList)).filterMap
            Item.error? := by
          simp only [errors_scan, List.filterMap_flatMap]
      _ = (scan text).errors.map (fun e => { e with line := 1 }) := by
          rw [hitems, errors_scan, List.filterMap_map, List.map_filterMap]
          exact List.filterMap_congr fun item _ => item.error?_onFirstLine

/-- A point behind a number, a comment that takes up carriage returns, an error further down, and a
text that ends in a newline. -/
theorem runPrompt_lines_with_returns :
    let text := "1.\r\n//c\r\r\n@\n\"a\"\n"
    let s : Session := {}
    let asked := commands (cutLines text.toUTF8.data.toList)
    s.Settled ∧ (∀ line ∈ Text.lines text, stripReturns line ≠ quitCommand) ∧
      (∀ line ∈ Text.lines text, ∀ e ∈ (scan (stripReturns line)).errors,
        e.cause ≠ .unterminatedString) ∧
      (s.unlimited.runPrompt { bytes := text.toUTF8 }).failure = none ∧
      (asked.flatMap fun command => (scan command).proper.map Token.render) =
        (scan text).proper.map Token.render ∧
      (asked.flatMap fun command => (scan command).errors) =
        (scan text).errors.map (fun e => { e with line := 1 }) := by
  intro text s asked
  have hs : s.Settled := rfl
  have hquit : ∀ line ∈ Text.lines text, stripReturns line ≠ quitCommand := by decide +kernel
  have hclosed : ∀ line ∈ Text.lines text, ∀ e ∈ (scan (stripReturns line)).errors,
      e.cause ≠ .unterminatedString := by decide +kernel
  obtain ⟨hprompt, -, -, -, htokens, herrors, -⟩ := runPrompt_lines hs hquit hclosed
  exact ⟨hs, hquit, hclosed, hprompt, htokens, herrors⟩

end Session

end LoxLexer
