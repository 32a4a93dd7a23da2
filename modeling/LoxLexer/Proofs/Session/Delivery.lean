import LoxLexer.Proofs.Session.Run
import LoxLexer.Proofs.Stream.Actions
import LoxLexer.Session.Prompt

/-! # Sessions as actions on their streams

What a session does to its streams is known before it starts: a run reports, prints and flushes,
and a prompt does so for each line that it runs. `Outcome.Delivers o s as` says that `o` is what a
session `s` comes to by carrying out `as`, and that no failure is kept for later; such outcomes
follow one another as their actions do (`Delivers.andThen`).

* `delivers_run`, `delivers_runPrompt`: the actions of a run and of a prompt.
-/

set_option autoImplicit false

namespace LoxLexer

namespace Session

def streams (s : Session) : Streams := ⟨s.out, s.reporter.writer⟩

/-- No failure is kept, as it is the case between two operations. -/
def Settled (s : Session) : Prop := s.reporter.failure = none

/-- The outcome is what carrying out the actions in a session leads to, and no failure is kept. -/
structure Outcome.Delivers (o : Outcome) (s : Session) (as : List Action) : Prop where
  streams : o.session.streams = (s.streams.carryOut as).streams
  failure : o.failure = (s.streams.carryOut as).failure
  settled : o.session.Settled

section
variable {s : Session}

/-- Going on carries out further actions. -/
theorem Outcome.Delivers.andThen {o : Outcome} {next : Session → Outcome} {as bs : List Action}
    (h : o.Delivers s as) (hn : o.failure = none → (next o.session).Delivers o.session bs) :
    (o.andThen next).Delivers s (as ++ bs) := by
  cases hf : o.failure with
  | some cause =>
    have hstop := Streams.carryOut_append_of_failure (h.failure.symm.trans hf) bs
    have ho : o.andThen next = o := by simp only [Outcome.andThen, hf]
    rw [ho]
    exact ⟨by rw [hstop, h.streams], by rw [hstop, h.failure], h.settled⟩
  | none =>
    have hgo := Streams.carryOut_append_of_none (h.failure.symm.trans hf) bs
    have ho : o.andThen next = next o.session := by simp only [Outcome.andThen, hf]
    obtain ⟨hstreams, hfailure, hsettled⟩ := hn hf
    rw [h.streams] at hstreams hfailure
    rw [ho]
    exact ⟨by rw [hgo, hstreams], by rw [hgo, hfailure], hsettled⟩

/-- An initial part of the actions is carried out: all of them, or a part that a failure struck. -/
theorem Outcome.Delivers.exists_done {o : Outcome} {as : List Action} (h : o.Delivers s as) :
    ∃ done, done <+: as ∧
      o.session.streams =
        s.streams.receive (Action.printedBy done) (Action.reportedBy done) ∧
      match o.failure with
      | none => done = as ∧ s.streams.Fits done
      | some cause => s.streams.Struck done cause := by
  obtain ⟨done, hprefix, hdone, hcause⟩ := s.streams.exists_done as
  refine ⟨done, hprefix, h.streams.trans hdone, ?_⟩
  rw [h.failure]
  cases hf : (s.streams.carryOut as).failure with
  | none =>
    rw [hf] at hcause
    exact ⟨hcause.1, hcause.1 ▸ hcause.2⟩
  | some cause =>
    rw [hf] at hcause
    exact hcause

/-- The flag does not concern the streams. -/
theorem Outcome.Delivers.of_reset {o : Outcome} {as : List Action} (h : o.Delivers s.reset as) :
    o.Delivers s as := ⟨h.streams, h.failure, h.settled⟩

theorem delivers_nil {t : Session} (hs : t.Settled) (h : t.streams = s.streams) :
    Outcome.Delivers ⟨t, none⟩ s [] := ⟨h, rfl, hs⟩

theorem delivers_readFails (hs : s.Settled) (cause : Failure) :
    Outcome.Delivers ⟨s, some cause⟩ s [.readFails cause] := ⟨rfl, rfl, hs⟩

theorem delivers_print (hs : s.Settled) (text : String) :
    (s.print text).Delivers s [.print text] := by
  obtain ⟨hstreams, hfailure⟩ := s.streams.carryOut_single (.print text)
  exact ⟨hstreams.symm, hfailure.symm, hs⟩

theorem delivers_flush (hs : s.Settled) : s.flush.Delivers s [.flush] := by
  obtain ⟨hstreams, hfailure⟩ := s.streams.carryOut_single .flush
  exact ⟨hstreams.symm, hfailure.symm, hs⟩

/-! ## Runs -/

/-- What a run of a text does. -/
def runActions (source : String) : List Action :=
  [.report (Reporter.errorLines (scan source).errors), .print (tokenLines (scan source).tokens),
    .flush]

/-- The reports of a run are one action, after which the session may keep a failure. -/
theorem announce_eq (hs : s.Settled) (source : String) :
    (s.announce (Scanner.ofString source).steps).streams =
        s.streams.perform (.report (Reporter.errorLines (scan source).errors)) ∧
      (s.announce (Scanner.ofString source).steps).reporter.failure =
        s.streams.failure? (.report (Reporter.errorLines (scan source).errors)) ∧
      (s.announce (Scanner.ofString source).steps).hadError =
        (s.hadError || !(scan source).errors.isEmpty) := by
  obtain ⟨hout, hreporter⟩ := s.announce_streams (Scanner.ofString source).steps
  have hreporter : (s.announce (Scanner.ofString source).steps).reporter =
      s.reporter.reportAll (scan source).errors := hreporter
  rw [Reporter.reportAll_eq] at hreporter
  refine ⟨?_, ?_, ?_⟩
  · rw [streams, hout, hreporter]
    rfl
  · rw [hreporter, hs]
    rfl
  · rw [hadError, hreporter]
    rfl

/-- **What a run does** to the streams of a session. -/
theorem delivers_run (hs : s.Settled) (source : String) :
    (s.run source).Delivers s (runActions source) := by
  obtain ⟨hstreams, hfailure, -⟩ := announce_eq hs source
  cases hf : (s.announce (Scanner.ofString source).steps).reporter.failure with
  | some cause =>
    have hrun : s.run source = ⟨{ s.announce (Scanner.ofString source).steps with
        reporter := (s.announce (Scanner.ofString source).steps).reporter.clearFailure },
        some cause⟩ := by simp only [run, hf]
    have hcarry := Streams.carryOut_cons_of_failure (hfailure.symm.trans hf)
      [.print (tokenLines (scan source).tokens), .flush]
    rw [hrun]
    exact ⟨by rw [runActions, hcarry]; exact hstreams, by rw [runActions, hcarry], rfl⟩
  | none =>
    have hrun : s.run source = Outcome.andThen ⟨s.announce (Scanner.ofString source).steps, none⟩
        fun s => (s.print (tokenLines (scan source).tokens)).andThen flush := by
      simp only [run, hf]
      rfl
    have hreported : Outcome.Delivers ⟨s.announce (Scanner.ofString source).steps, none⟩ s
        [.report (Reporter.errorLines (scan source).errors)] := by
      obtain ⟨hperform, hnone⟩ :=
        s.streams.carryOut_single (.report (Reporter.errorLines (scan source).errors))
      exact ⟨hstreams.trans hperform.symm, (hf.symm.trans hfailure).trans hnone.symm, hf⟩
    rw [hrun]
    exact hreported.andThen fun _ => (delivers_print hf _).andThen fun _ => delivers_flush hf

theorem hadError_run (hs : s.Settled) (source : String) :
    (s.run source).session.hadError = (s.hadError || !(scan source).errors.isEmpty) := by
  obtain ⟨-, -, hflag⟩ := announce_eq hs source
  rw [← hflag]
  cases hf : (s.announce (Scanner.ofString source).steps).reporter.failure with
  | some cause =>
    simp only [run, hf]
    rfl
  | none =>
    simp only [run, hf]
    rw [session_andThen_flush]
    rfl

/-! ## Files -/

theorem runFile_of_error {read : String → Except Failure ByteArray} {path : String}
    {cause : Failure} (h : fileText (read path) = .error cause) (s : Session) :
    s.runFile read path = ⟨s.log (.scanningFile path), .error (.unreadable path cause)⟩ := by
  simp only [runFile, h]

theorem runFile_of_ok {read : String → Except Failure ByteArray} {path source : String}
    (h : fileText (read path) = .ok source) (s : Session) :
    s.runFile read path =
      ⟨((s.log (.scanningFile path)).run source).session,
        match ((s.log (.scanningFile path)).run source).failure with
        | some cause => .error (.stream cause)
        | none =>
          .ok (if ((s.log (.scanningFile path)).run source).session.hadError then .dataError
            else .success)⟩ := by
  simp only [runFile, h]
  cases ((s.log (.scanningFile path)).run source).failure <;> rfl

/-! ## Lines of a prompt -/

/-- The text that a line has a prompt run, if it is text and does not say to quit. -/
def command? (line : List UInt8) : Option String :=
  (Input.text? line).bind fun text =>
    if stripLineEnd text = quitCommand then none else some (stripLineEnd text)

/-- The texts that lines have a prompt run, up to the first line that has it run none. -/
def commands : List (List UInt8) → List String
  | [] => []
  | line :: more =>
    match command? line with
    | some command => command :: commands more
    | none => []

/-- What reading lines fails with: a line that is not text is reached, or the input fails behind
the lines. -/
def readFailure? (ending : Option Failure) : List (List UInt8) → Option Failure
  | [] => ending
  | line :: more =>
    match command? line with
    | some _ => readFailure? ending more
    | none => if Input.text? line = none then some .notText else none

def askActions : List Action := [.print promptMark, .flush]

/-- What asking for lines and answering them does. -/
def promptActions (ending : Option Failure) (lines : List (List UInt8)) : List Action :=
  (commands lines).flatMap (fun command => askActions ++ runActions command) ++
    (askActions ++ ((readFailure? ending lines).map .readFails).toList)

theorem delivers_ask (hs : s.Settled) : s.ask.Delivers s askActions :=
  (delivers_print hs promptMark).andThen fun _ => delivers_flush hs

theorem answer_of_command {line : List UInt8} {command : String}
    (h : command? line = some command) (s : Session) :
    s.answer line = { outcome := s.reset.run command } := by
  obtain ⟨text, htext, hcommand⟩ := Option.bind_eq_some_iff.1 h
  split at hcommand
  · cases hcommand
  · next hquit =>
    obtain rfl : stripLineEnd text = command := Option.some.inj hcommand
    simp only [answer, htext, if_neg hquit]

theorem answer_of_notText {line : List UInt8} (h : Input.text? line = none) (s : Session) :
    s.answer line = { outcome := ⟨s, some .notText⟩ } := by
  simp only [answer, h]

theorem answer_of_quit {line : List UInt8} (h : command? line = none)
    (ht : Input.text? line ≠ none) (s : Session) :
    s.answer line = { outcome := ⟨s.log .quitRequested, none⟩, quit := true } := by
  obtain ⟨text, htext⟩ := Option.ne_none_iff_exists'.1 ht
  have hquit : stripLineEnd text = quitCommand := by simpa [command?, htext] using h
  simp only [answer, htext, if_pos hquit]

/-- **What a prompt does behind its greeting.** -/
theorem delivers_promptLines (hs : s.Settled) (ending : Option Failure)
    (lines : List (List UInt8)) :
    (promptLines ending lines s).Delivers s (promptActions ending lines) := by
  induction lines generalizing s with
  | nil =>
    refine (delivers_ask hs).andThen fun _ => ?_
    cases ending with
    | none => exact delivers_nil (delivers_ask hs).settled rfl
    | some cause => exact delivers_readFails (delivers_ask hs).settled cause
  | cons line more ih =>
    have hasked : s.ask.session.Settled := (delivers_ask hs).settled
    cases hc : command? line with
    | some command =>
      have hactions : promptActions ending (line :: more) =
          askActions ++ (runActions command ++ promptActions ending more) := by
        simp [promptActions, commands, readFailure?, hc]
      rw [hactions]
      refine (delivers_ask hs).andThen fun _ => ?_
      simp only [answer_of_command hc, Bool.false_eq_true, if_false]
      have hrun : (s.ask.session.reset.run command).Delivers s.ask.session (runActions command) :=
        (delivers_run (s := s.ask.session.reset) hasked command).of_reset
      exact hrun.andThen fun _ => ih hrun.settled
    | none =>
      by_cases ht : Input.text? line = none
      · have hactions : promptActions ending (line :: more) =
            askActions ++ [.readFails .notText] := by
          simp [promptActions, commands, readFailure?, hc, ht]
        rw [hactions]
        refine (delivers_ask hs).andThen fun _ => ?_
        simp only [answer_of_notText ht]
        exact delivers_readFails hasked .notText
      · have hactions : promptActions ending (line :: more) = askActions ++ [] := by
          simp [promptActions, commands, readFailure?, hc, ht]
        rw [hactions]
        refine (delivers_ask hs).andThen fun _ => ?_
        simp only [answer_of_quit hc ht]
        exact delivers_nil hasked rfl

/-- **What a prompt does** to the streams of a session. -/
theorem delivers_runPrompt (hs : s.Settled) (input : Input) :
    (s.runPrompt input).Delivers s
      (.print greeting :: promptActions input.fault input.lines) :=
  (delivers_print hs greeting).andThen fun _ =>
    delivers_promptLines (delivers_print hs greeting).settled input.fault input.lines

end

end Session

end LoxLexer
