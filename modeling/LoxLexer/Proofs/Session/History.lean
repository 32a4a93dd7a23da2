import LoxLexer.Proofs.Session.Delivery

/-! # Histories of a session

A session is used over and over: texts, files and prompts are run in any order, and in between its
streams may be given other limits and faults. A `History` is such a session together with marks of
what was scanned and where the error flag was reset, which the session itself does not keep.

`operation_after_moves` says how the session stands after each operation, whatever came before: no
failure is kept for a later operation, so that one that is answered struck in this very operation,
and the flag tells whether a text scanned since the last reset had an error.
-/

set_option autoImplicit false

namespace LoxLexer

open Session

/-! ## Operations -/

inductive Operation where
  | run (source : String)
  /-- Run the script at a path, `read` being the files that there are by then. -/
  | runFile (read : String → Except Failure ByteArray) (path : String)
  | runPrompt (input : Input)

/-- What an operation gives back. -/
inductive Answer where
  | stream (failure : Option Failure)
  | file (result : Except RunError ExitStatus)

def Answer.failure? : Answer → Option Failure
  | stream failure => failure
  | file (.ok _) => none
  | file (.error e) => some e.cause

namespace Operation

def perform (s : Session) : Operation → Session × Answer
  | run source => ((s.run source).session, .stream (s.run source).failure)
  | runFile read path => ((s.runFile read path).session, .file (s.runFile read path).result)
  | runPrompt input => ((s.runPrompt input).session, .stream (s.runPrompt input).failure)

/-- What an operation does to the streams. -/
def actions : Operation → List Action
  | run source => runActions source
  | runFile read path =>
    match fileText (read path) with
    | .ok source => runActions source
    | .error cause => [.readFails cause]
  | runPrompt input => .print greeting :: promptActions input.fault input.lines

end Operation

namespace Session

variable {s : Session}

/-- A script that was run has the status that the flag then tells. -/
theorem status_runFile {read : String → Except Failure ByteArray} {path : String}
    {status : ExitStatus} (h : (s.runFile read path).result = .ok status) :
    status = if (s.runFile read path).session.hadError then .dataError else .success := by
  cases hf : fileText (read path) with
  | error cause =>
    rw [runFile_of_error hf] at h
    cases h
  | ok source =>
    rw [runFile_of_ok hf] at h ⊢
    cases ho : ((s.log (.scanningFile path)).run source).failure with
    | some cause =>
      simp only [ho] at h
      cases h
    | none =>
      simp only [ho, Except.ok.injEq] at h
      exact h.symm

theorem answer_runFile_of_none {read : String → Except Failure ByteArray} {path : String}
    (h : ((Operation.runFile read path).perform s).2.failure? = none) :
    ((Operation.runFile read path).perform s).2 =
      .file (.ok (if ((Operation.runFile read path).perform s).1.hadError then .dataError
        else .success)) := by
  cases hr : (s.runFile read path).result with
  | error e => simp [Operation.perform, hr, Answer.failure?] at h
  | ok status => simp only [Operation.perform, hr, ← status_runFile hr]

theorem perform_runFile_of_error {read : String → Except Failure ByteArray} {path : String}
    {cause : Failure} (h : fileText (read path) = .error cause) (s : Session) :
    (Operation.runFile read path).perform s =
      (s.log (.scanningFile path), .file (.error (.unreadable path cause))) := by
  simp only [Operation.perform, runFile_of_error h]

/-- **An operation carries out its actions** and leaves no failure behind. -/
theorem delivers_perform (hs : s.Settled) (op : Operation) :
    Outcome.Delivers ⟨(op.perform s).1, (op.perform s).2.failure?⟩ s op.actions := by
  cases op with
  | run source => exact delivers_run hs source
  | runPrompt input => exact delivers_runPrompt hs input
  | runFile read path =>
    cases hf : fileText (read path) with
    | error cause =>
      simp only [Operation.perform, Operation.actions, runFile_of_error hf, hf]
      exact ⟨rfl, rfl, hs⟩
    | ok source =>
      obtain ⟨hstreams, hfailure, hsettled⟩ :=
        delivers_run (s := s.log (.scanningFile path)) hs source
      simp only [Operation.perform, Operation.actions, runFile_of_ok hf, hf]
      refine ⟨hstreams, ?_, hsettled⟩
      rw [← show _ = (s.streams.carryOut (runActions source)).failure from hfailure]
      cases ((s.log (.scanningFile path)).run source).failure <;> rfl

end Session

/-! ## Marks -/

/-- What bears on the error flag. -/
inductive Mark where
  | reset
  | scanned (source : String)
deriving DecidableEq

/-- The texts scanned since the last reset, given those before the mark. -/
def Mark.collect (sources : List String) : Mark → List String
  | reset => []
  | scanned source => sources ++ [source]

def sinceReset (marks : List Mark) : List String := marks.foldl Mark.collect []

namespace Session

/-- The marks of the lines of a prompt. The flag is reset before each line that is run. -/
def lineMarks : List (List UInt8) → Session → List Mark
  | [], _ => []
  | line :: more, s =>
    match s.ask.failure, command? line with
    | none, some command =>
      let o := s.ask.session.reset.run command
      .reset :: .scanned command :: if o.failure = none then lineMarks more o.session else []
    | _, _ => []

end Session

/-- The marks of an operation. A script that cannot be read is not scanned. -/
def Operation.marks (s : Session) : Operation → List Mark
  | run source => [.scanned source]
  | runFile read path =>
    match fileText (read path) with
    | .ok source => [.scanned source]
    | .error _ => []
  | runPrompt input =>
    if (s.print greeting).failure = none then lineMarks input.lines (s.print greeting).session
    else []

namespace Session

/-- The flag tells whether one of the texts has an error. -/
def Flags (s : Session) (sources : List String) : Prop :=
  s.hadError = true ↔ ∃ source ∈ sources, (scan source).errors ≠ []

variable {s : Session} {sources : List String}

theorem Flags.of_hadError {t : Session} (h : s.Flags sources) (he : t.hadError = s.hadError) :
    t.Flags sources := by
  rwa [Flags, he]

theorem flags_run (hs : s.Settled) (h : s.Flags sources) (source : String) :
    (s.run source).session.Flags (sources ++ [source]) := by
  have hflag : s.hadError = true ↔ ∃ source ∈ sources, (scan source).errors ≠ [] := h
  rw [Flags, hadError_run hs, Bool.or_eq_true, hflag]
  simp [or_and_right, exists_or]

/-- Behind a reset the flag tells of one text alone, however its run went. -/
theorem flags_reset_run (hs : s.Settled) (source : String) :
    (s.reset.run source).session.Flags [source] := by
  have hreset : s.reset.Flags [] := by simp [Flags, hadError, reset, Reporter.reset]
  exact flags_run (s := s.reset) hs hreset source

theorem hadError_ask (s : Session) : s.ask.session.hadError = s.hadError := by
  rw [ask, session_andThen_flush]
  rfl

theorem hadError_answer {line : List UInt8} (h : command? line = none) (s : Session) :
    (s.answer line).outcome.session.hadError = s.hadError := by
  by_cases ht : Input.text? line = none
  · rw [answer_of_notText ht]
  · rw [answer_of_quit h ht]
    rfl

section
variable {line : List UInt8} {more : List (List UInt8)} {command : String} {cause : Failure}

/-! A prompt that cannot ask for a line stops, and one that can answers the line. -/

theorem promptLines_of_failure (h : s.ask.failure = some cause) (ending : Option Failure)
    (lines : List (List UInt8)) : promptLines ending lines s = s.ask := by
  cases lines <;> simp only [promptLines, Outcome.andThen, h]

theorem promptLines_cons (h : s.ask.failure = none) (ending : Option Failure) :
    promptLines ending (line :: more) s =
      if (s.ask.session.answer line).quit then (s.ask.session.answer line).outcome
      else (s.ask.session.answer line).outcome.andThen (promptLines ending more) := by
  simp only [promptLines, Outcome.andThen, h]

theorem lineMarks_of_failure (h : s.ask.failure = some cause) (lines : List (List UInt8)) :
    lineMarks lines s = [] := by
  cases lines <;> simp only [lineMarks, h]

theorem lineMarks_of_stop (hc : command? line = none) : lineMarks (line :: more) s = [] := by
  cases h : s.ask.failure <;> simp only [lineMarks, h, hc]

theorem lineMarks_of_command (h : s.ask.failure = none) (hc : command? line = some command) :
    lineMarks (line :: more) s = .reset :: .scanned command ::
      if (s.ask.session.reset.run command).failure = none then
        lineMarks more (s.ask.session.reset.run command).session
      else [] := by
  simp only [lineMarks, h, hc]

/-- A line that is not run ends the prompt and leaves the flag alone. -/
theorem hadError_promptLines_of_stop (h : s.ask.failure = none) (hc : command? line = none)
    (ending : Option Failure) :
    (promptLines ending (line :: more) s).session.hadError = s.hadError := by
  rw [promptLines_cons h, ← hadError_ask s, ← hadError_answer hc s.ask.session]
  by_cases ht : Input.text? line = none
  · rw [answer_of_notText ht]
    rfl
  · rw [answer_of_quit hc ht]
    rfl

end

/-- The flag tells of the last line that was run or, if none was, of the texts before the prompt. -/
theorem flags_promptLines (hs : s.Settled) (h : s.Flags sources) (ending : Option Failure)
    (lines : List (List UInt8)) :
    (promptLines ending lines s).session.Flags ((lineMarks lines s).foldl Mark.collect sources) := by
  induction lines generalizing s sources with
  | nil =>
    refine h.of_hadError ?_
    rw [← hadError_ask s]
    cases hf : s.ask.failure <;> simp only [promptLines, Outcome.andThen, hf]
  | cons line more ih =>
    cases hf : s.ask.failure with
    | some cause =>
      rw [lineMarks_of_failure hf, promptLines_of_failure hf]
      exact h.of_hadError (hadError_ask s)
    | none =>
      cases hc : command? line with
      | none =>
        rw [lineMarks_of_stop hc]
        exact h.of_hadError (hadError_promptLines_of_stop hf hc ending)
      | some command =>
        have hasked : s.ask.session.Settled := (delivers_ask hs).settled
        have hsettled : (s.ask.session.reset.run command).session.Settled :=
          (delivers_run (s := s.ask.session.reset) hasked command).settled
        have hrun := flags_reset_run hasked command
        rw [promptLines_cons hf, answer_of_command hc, if_neg Bool.false_ne_true,
          lineMarks_of_command hf hc]
        cases ho : (s.ask.session.reset.run command).failure with
        | some cause =>
          simp only [Outcome.andThen, ho, reduceCtorEq, if_false]
          exact hrun
        | none =>
          simp only [Outcome.andThen, ho, if_true]
          exact ih hsettled hrun

/-- **The flag follows the marks** through every operation. -/
theorem flags_perform (hs : s.Settled) (h : s.Flags sources) (op : Operation) :
    (op.perform s).1.Flags ((op.marks s).foldl Mark.collect sources) := by
  cases op with
  | run source => exact flags_run hs h source
  | runFile read path =>
    cases hf : fileText (read path) with
    | error cause =>
      simp only [Operation.perform, Operation.marks, runFile_of_error hf, hf]
      exact h
    | ok source =>
      simp only [Operation.perform, Operation.marks, runFile_of_ok hf, hf]
      exact flags_run (s := s.log (.scanningFile path)) hs h source
  | runPrompt input =>
    cases hf : (s.print greeting).failure with
    | some cause =>
      simp only [Operation.perform, Operation.marks, runPrompt, Outcome.andThen, hf, reduceCtorEq,
        if_false]
      exact h
    | none =>
      simp only [Operation.perform, Operation.marks, runPrompt, Outcome.andThen, hf, if_true]
      exact flags_promptLines (s := (s.print greeting).session) (delivers_print hs greeting).settled
        h input.fault input.lines

end Session

/-! ## Histories -/

/-- What may happen to a session. -/
inductive Move where
  | operate (op : Operation)
  | configureOut (settings : Writer.Settings)
  | configureErr (settings : Writer.Settings)

/-- A session, and the marks of all that happened to it. -/
structure History where
  session : Session
  marks : List Mark := []

namespace History

/-- A new session. -/
def start (out err : Writer) : History := { session := { out, reporter := { writer := err } } }

def move (h : History) : Move → History
  | .operate op => ⟨(op.perform h.session).1, h.marks ++ op.marks h.session⟩
  | .configureOut settings => { h with session := h.session.configureOut settings }
  | .configureErr settings => { h with session := h.session.configureErr settings }

def after (out err : Writer) (moves : List Move) : History := moves.foldl move (start out err)

/-- What holds between any two moves. -/
structure Sound (h : History) : Prop where
  settled : h.session.Settled
  flags : h.session.Flags (sinceReset h.marks)

theorem Sound.move {h : History} (hs : h.Sound) (m : Move) : (h.move m).Sound := by
  obtain ⟨hsettled, hflags⟩ := hs
  cases m with
  | operate op =>
    refine ⟨(delivers_perform hsettled op).settled, ?_⟩
    show Flags _ (sinceReset (h.marks ++ op.marks h.session))
    rw [sinceReset, List.foldl_append]
    exact flags_perform hsettled hflags op
  | configureOut settings => exact ⟨hsettled, hflags⟩
  | configureErr settings => exact ⟨hsettled, hflags⟩

theorem sound_after (out err : Writer) (moves : List Move) : (after out err moves).Sound := by
  have hstart : (start out err).Sound :=
    ⟨rfl, by simp [Flags, start, hadError, sinceReset]⟩
  suffices ∀ h : History, h.Sound → (moves.foldl History.move h).Sound from this _ hstart
  induction moves with
  | nil => exact fun h hs => hs
  | cons m moves ih => exact fun h hs => ih _ (hs.move m)

/-- **The state of a session over its whole history**: after any operation, with whatever went
before, no failure is kept, and one that the operation gives back struck while it carried out its
own actions; the flag is set if and only if a text scanned since the last reset has an error; a
script that was run has the status that the flag tells; and a script that cannot be read leaves the
flag and the streams alone. -/
theorem operation_after_moves (out err : Writer) (moves : List Move) (op : Operation) :
    let before := after out err moves
    let behind := before.move (.operate op)
    let answer := (op.perform before.session).2
    behind.session.reporter.failure = none ∧
    (∃ done, done <+: op.actions ∧
      behind.session.streams =
        before.session.streams.receive (Action.printedBy done) (Action.reportedBy done) ∧
      match answer.failure? with
      | none => done = op.actions ∧ before.session.streams.Fits done
      | some cause => before.session.streams.Struck done cause) ∧
    (behind.session.hadError = true ↔
      ∃ source ∈ sinceReset behind.marks, (scan source).errors ≠ []) ∧
    ∀ read path, op = .runFile read path →
      (answer.failure? = none →
        answer = .file (.ok (if behind.session.hadError then .dataError else .success))) ∧
      ∀ cause, fileText (read path) = .error cause →
        answer = .file (.error (.unreadable path cause)) ∧
          behind.session.streams = before.session.streams ∧
          behind.session.hadError = before.session.hadError := by
  intro before behind answer
  have hbefore : before.Sound := sound_after out err moves
  have hbehind : behind.Sound := hbefore.move (.operate op)
  refine ⟨hbehind.settled, (delivers_perform hbefore.settled op).exists_done, hbehind.flags, ?_⟩
  rintro read path rfl
  refine ⟨answer_runFile_of_none, fun cause hread => ?_⟩
  show ((Operation.runFile read path).perform before.session).2 = _ ∧
    ((Operation.runFile read path).perform before.session).1.streams = _ ∧
    ((Operation.runFile read path).perform before.session).1.hadError = _
  rw [perform_runFile_of_error hread]
  exact ⟨rfl, rfl, rfl⟩

/-- The report of an error is lost, and then other streams are in use: the failure is not given back
again, but the error still counts. -/
example :
    let s := (after {} {} [.configureErr { room := some 0 }, .operate (.run "@"),
      .configureErr {}]).session
    s.hadError = true ∧ ((Operation.run "1").perform s).2.failure? = none := by decide +kernel

end History

end LoxLexer
