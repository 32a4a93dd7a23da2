import LoxLexer.CommandLine.Program
import LoxLexer.Proofs.Scanner.Items
import LoxLexer.Proofs.Session.Prompt

/-! # The exit code of a process

Whoever starts a process sees little more of it than its exit code. `code_run` says what that is for
every command line, every file and input, and every choice of output streams that work or are full,
and which of several failures decides it.

A full error stream also refuses log lines, which stops a process (`Program.complete`); it does not
come to that at the default level, since nothing that a session logs is a warning (`isShown_ofLevel`).
-/

set_option autoImplicit false

namespace LoxLexer

open Session

/-! ## Texts that are empty -/

theorem join_lines_eq_empty_iff {α : Type} (f : α → String) (xs : List α) :
    String.join (xs.map fun x => f x ++ "\n") = "" ↔ xs = [] := by
  cases xs with
  | nil => exact ⟨fun _ => rfl, fun _ => rfl⟩
  | cons x xs =>
    rw [List.map_cons, String.join_cons, String.append_eq_empty_iff, String.append_eq_empty_iff]
    simp

theorem Reporter.errorLines_eq_empty_iff (errors : List LexError) :
    errorLines errors = "" ↔ errors = [] := by
  simp only [errorLines, line]
  rw [join_lines_eq_empty_iff]

/-- There is always a line for the end of the text. -/
theorem tokenLines_scan_ne_empty (source : String) : tokenLines (scan source).tokens ≠ "" := by
  rw [tokenLines, ne_eq, join_lines_eq_empty_iff, tokens_scan]
  exact List.append_ne_nil_of_right_ne_nil _ (List.cons_ne_nil _ _)

/-! ## Streams that are full -/

namespace Invocation

/-- The session that a process starts with. -/
def session (inv : Invocation) : Session where
  out := { settings := Program.streamSettings inv.stdoutFull }
  reporter := { writer := { settings := Program.streamSettings inv.stderrFull } }

/-- A full stream takes nothing but the empty text. -/
theorem writeFailure?_streamSettings (full : Bool) (text : String) :
    ({ settings := Program.streamSettings full } : Writer).writeFailure? text.toUTF8 = none ↔
      (full = true → text = "") := by
  rw [Writer.writeFailure?_eq_none_iff]
  cases full <;> simp [Program.streamSettings]

theorem fits_iff (inv : Invocation) (as : List Action) :
    inv.session.streams.Fits as ↔ (inv.stdoutFull = true → Action.printedBy as = "") ∧
      (inv.stderrFull = true → Action.reportedBy as = "") := by
  constructor
  · intro h
    exact ⟨(writeFailure?_streamSettings _ _).1 h.out, (writeFailure?_streamSettings _ _).1 h.err⟩
  · intro h
    exact ⟨(writeFailure?_streamSettings _ _).2 h.1, (writeFailure?_streamSettings _ _).2 h.2⟩

theorem failure_carryOut_eq_none_iff (inv : Invocation) {as : List Action}
    (hread : ∀ cause, .readFails cause ∉ as) :
    (inv.session.streams.carryOut as).failure = none ↔
      (inv.stdoutFull = true → Action.printedBy as = "") ∧
        (inv.stderrFull = true → Action.reportedBy as = "") := by
  have hflush : inv.session.streams.out.flushFailure? = none := by
    cases h : inv.stdoutFull <;>
      simp [streams, session, Writer.flushFailure?, Program.streamSettings, h]
  rw [Streams.failure_carryOut_eq_none_iff hflush hread, fits_iff]

end Invocation

/-! ## Scripts -/

section
variable (inv : Invocation) {s : Session} (hs : s.Settled)
  (hx : s.streams = inv.session.streams) (source : String)
include hs hx

/-- A run fails if there is something to report on a full error stream, or the output stream is
full. -/
theorem failure_run_eq_none_iff :
    (s.run source).failure = none ↔
      inv.stdoutFull = false ∧ (inv.stderrFull = true → (scan source).errors = []) := by
  have hprinted : Action.printedBy (runActions source) ≠ "" := by
    simpa [runActions, Action.printed] using tokenLines_scan_ne_empty source
  have hreported : Action.reportedBy (runActions source) = "" ↔ (scan source).errors = [] := by
    rw [← Reporter.errorLines_eq_empty_iff]
    simp [runActions, Action.reported]
  rw [(delivers_run hs source).failure, hx,
    inv.failure_carryOut_eq_none_iff (by simp [runActions]), hreported]
  simp [hprinted]

/-- Nothing is printed when the errors cannot be reported. -/
theorem accepted_run_of_lost_report (hfull : inv.stderrFull = true)
    (herrors : (scan source).errors ≠ []) :
    (s.run source).session.out.accepted = inv.session.out.accepted := by
  have hlost : inv.session.streams.failure? (.report (Reporter.errorLines (scan source).errors)) ≠
      none := by
    intro hnone
    exact herrors ((Reporter.errorLines_eq_empty_iff _).1
      ((Invocation.writeFailure?_streamSettings _ _).1 hnone hfull))
  obtain ⟨cause, hcause⟩ := Option.ne_none_iff_exists'.1 hlost
  have hstreams := (delivers_run hs source).streams
  rw [hx, runActions, Streams.carryOut_cons_of_failure hcause] at hstreams
  exact congrArg (·.out.accepted) hstreams

end

namespace Invocation

variable {inv : Invocation}

/-! ## The prompt -/

/-- The lines that a prompt gets to read. -/
def lines (inv : Invocation) : List (List UInt8) := ({ bytes := inv.stdin } : Input).lines

/-- What keeps a prompt from succeeding: it cannot print, it cannot report an error in a line that
it runs, or it comes to a line that is not text. -/
inductive PromptFails (inv : Invocation) : Prop
  | print : inv.stdoutFull = true → PromptFails inv
  | report {command : String} : inv.stderrFull = true →
      command ∈ commands inv.lines → (scan command).errors ≠ [] → PromptFails inv
  | read {before after : List (List UInt8)} {line : List UInt8} :
      inv.lines = before ++ line :: after →
      (∀ earlier ∈ before, (command? earlier).isSome) → Input.text? line = none → PromptFails inv

theorem failure_runPrompt_ne_none_iff :
    (inv.session.runPrompt { bytes := inv.stdin }).failure ≠ none ↔ inv.PromptFails := by
  have hprinted : ∀ lines, Action.printedBy (promptWrites lines) ≠ "" := fun lines => by
    rw [printedBy_promptWrites, ne_eq, String.append_eq_empty_iff]
    exact fun h => absurd h.1 (by decide)
  have hwrites : (inv.session.streams.carryOut (promptWrites inv.lines)).failure = none ↔
      inv.stdoutFull = false ∧ (inv.stderrFull = true →
        ∀ command ∈ commands inv.lines, (scan command).errors = []) := by
    rw [inv.failure_carryOut_eq_none_iff (readFails_not_mem_promptWrites _),
      reportedBy_promptWrites, Reporter.errorLines_eq_empty_iff, List.flatMap_eq_nil_iff]
    simp [hprinted]
  have hfailure : (inv.session.runPrompt { bytes := inv.stdin }).failure =
      (inv.session.streams.carryOut (promptWrites inv.lines)).failure.or
        (readFailure? none inv.lines) := failure_runPrompt (s := inv.session) rfl _
  rw [hfailure, ne_eq, Option.or_eq_none_iff, not_and_or, hwrites, ← ne_eq,
    readFailure?_ne_none_iff]
  constructor
  · rintro (hfull | ⟨before, line, after, hlines, hbefore, hline⟩)
    · by_cases hout : inv.stdoutFull = true
      · exact .print hout
      · obtain ⟨herr, hall⟩ := Classical.not_imp.1 fun h => hfull ⟨Bool.eq_false_iff.2 hout, h⟩
        obtain ⟨command, hcommand, herrors⟩ : ∃ command,
            command ∈ commands inv.lines ∧ (scan command).errors ≠ [] := by simpa using hall
        exact .report herr hcommand herrors
    · exact .read hlines hbefore hline
  · rintro (hout | ⟨herr, hcommand, herrors⟩ | ⟨hlines, hbefore, hline⟩)
    · exact .inl fun h => by simp [hout] at h
    · exact .inl fun h => herrors (h.2 herr _ hcommand)
    · exact .inr ⟨_, _, _, hlines, hbefore, hline⟩

/-! ## Logging -/

/-- The log is to show nothing that matters less than `level`. -/
def LogsUpTo (inv : Invocation) (level : Log.Level) : Prop :=
  ∀ options, Request.parse inv.arguments = .ok (.run options) →
    ∃ shown, options.filter inv.logSetting = .ofLevel (some shown) ∧ shown.rank ≤ level.rank

/-- The default level is that of warnings. -/
theorem logsUpTo_warn_of_default (hsetting : inv.logSetting = none)
    (hverbosity : ∀ options, Request.parse inv.arguments = .ok (.run options) →
      options.verbosity = 0) : inv.LogsUpTo .warn := by
  intro options hoptions
  refine ⟨options.level, by rw [hsetting]; rfl, ?_⟩
  rw [Options.level, hverbosity options hoptions]
  cases options.quiet <;> decide

theorem isShown_ofLevel {shown : Log.Level} (h : shown.rank ≤ Log.Level.warn.rank)
    (entry : Journal.Entry) : entry.isShown (.ofLevel (some shown)) = false := by
  cases entry with
  | logged event =>
    have hrank : Log.Level.warn.rank < event.level.rank := by
      cases event <;> simp [Log.Event.level, Log.Level.rank]
    rw [Journal.Entry.isShown, Log.Filter.shows_ofLevel, Log.Event.isWithin, Option.any_some,
      decide_eq_false_iff_not]
    omega
  | reported text => rfl
  | printed text => rfl

/-- Where no log line is lost, a process leaves what its session comes to. -/
theorem complete_eq (inv : Invocation) {options : Options}
    (hparse : Request.parse inv.arguments = .ok (.run options))
    (hlog : inv.stderrFull = true → inv.LogsUpTo .warn) :
    (Program.run inv).code = (Program.exitStatus (Program.runSession inv options).result).code ∧
      (Program.run inv).stdout = (Program.runSession inv options).session.out.accepted := by
  have hkept : (inv.stderrFull && (Program.runSession inv options).session.journal.toList.any
      (·.isShown (options.filter inv.logSetting))) = false := by
    cases hfull : inv.stderrFull with
    | false => rfl
    | true =>
      obtain ⟨shown, hfilter, hrank⟩ := hlog hfull options hparse
      rw [Bool.true_and, List.any_eq_false, hfilter]
      exact fun entry _ => by rw [isShown_ofLevel hrank]; exact Bool.false_ne_true
  simp only [Program.run, hparse, Program.complete, hkept, Bool.false_eq_true, if_false, and_self]

/-! ## The code -/

theorem runSession_of_script {options : Options} {path : String}
    (h : options.script = some path) :
    Program.runSession inv options = inv.session.runFile inv.read path := by
  simp only [Program.runSession, h]
  rfl

/-- A prompt succeeds or fails, and says nothing else. -/
theorem code_runSession_of_none {options : Options} (h : options.script = none) :
    (inv.PromptFails → (Program.exitStatus (Program.runSession inv options).result).code = 74) ∧
      (¬ inv.PromptFails → (Program.exitStatus (Program.runSession inv options).result).code = 0) := by
  rw [← failure_runPrompt_ne_none_iff]
  cases hf : (inv.session.runPrompt { bytes := inv.stdin }).failure with
  | none =>
    have hresult : (Program.runSession inv options).result = .ok .success := by
      rw [session] at hf
      simp only [Program.runSession, h, hf]
    rw [hresult]
    exact ⟨fun hne => absurd rfl hne, fun _ => rfl⟩
  | some cause =>
    have hresult : (Program.runSession inv options).result = .error (.stream cause) := by
      rw [session] at hf
      simp only [Program.runSession, h, hf]
    rw [hresult]
    exact ⟨fun _ => rfl, fun hnot => absurd (Option.some_ne_none cause) hnot⟩

/-- The code of a script that could be read. -/
theorem code_runFile {path source : String} (h : fileText (inv.read path) = .ok source) :
    (Program.exitStatus (inv.session.runFile inv.read path).result).code =
      if inv.stderrFull = true ∧ (scan source).errors ≠ [] then 74
      else if inv.stdoutFull = true then 74
      else if (scan source).errors ≠ [] then 65
      else 0 := by
  have hs : (inv.session.log (.scanningFile path)).Settled := rfl
  have hfailure := failure_run_eq_none_iff inv hs rfl source
  rw [runFile_of_ok h]
  cases hf : ((inv.session.log (.scanningFile path)).run source).failure with
  | some cause =>
    have hlost : ¬ (inv.stdoutFull = false ∧
        (inv.stderrFull = true → (scan source).errors = [])) := by
      rw [← hfailure, hf]
      exact Option.some_ne_none cause
    show 74 = _
    by_cases hreport : inv.stderrFull = true ∧ (scan source).errors ≠ []
    · rw [if_pos hreport]
    · have hout : inv.stdoutFull = true := by
        cases hout : inv.stdoutFull with
        | true => rfl
        | false =>
          refine absurd ⟨hout, fun hfull => ?_⟩ hlost
          exact Classical.not_not.1 fun herrors => hreport ⟨hfull, herrors⟩
      rw [if_neg hreport, if_pos hout]
  | none =>
    obtain ⟨hout, herr⟩ := hfailure.1 hf
    have hflag : ((inv.session.log (.scanningFile path)).run source).session.hadError =
        !(scan source).errors.isEmpty := hadError_run hs source
    have hreported : ¬ (inv.stderrFull = true ∧ (scan source).errors ≠ []) :=
      fun h => h.2 (herr h.1)
    have hprinted : ¬ inv.stdoutFull = true := by simp [hout]
    rw [if_neg hreported, if_neg hprinted, hflag]
    cases (scan source).errors <;> rfl

/-- **The exit code of a process**, if a log line is not what a full error stream refuses.

A wrong command line comes first, whatever the files and the input hold. With a script, what comes
next is that it cannot be read, then that its errors cannot be reported, then that its tokens cannot
be printed, and then that it has errors; nothing is printed in the first two of these. Without one
only the prompt itself can fail, and errors in its lines do not count. As long as the error stream
works, how much is logged makes no difference. -/
theorem code_run (inv : Invocation) (hlog : inv.stderrFull = true → inv.LogsUpTo .warn) :
    (∀ e, Request.parse inv.arguments = .error e →
      (Program.run inv).code = 64 ∧ (Program.run inv).stdout = .empty) ∧
    ∀ options, Request.parse inv.arguments = .ok (.run options) →
      (∀ path cause, options.script = some path → fileText (inv.read path) = .error cause →
        (Program.run inv).code = 66 ∧ (Program.run inv).stdout = .empty) ∧
      (∀ path source, options.script = some path → fileText (inv.read path) = .ok source →
        ((Program.run inv).code =
          if inv.stderrFull = true ∧ (scan source).errors ≠ [] then 74
          else if inv.stdoutFull = true then 74
          else if (scan source).errors ≠ [] then 65
          else 0) ∧
        (inv.stderrFull = true → (scan source).errors ≠ [] →
          (Program.run inv).stdout = .empty)) ∧
      (options.script = none →
        (inv.PromptFails → (Program.run inv).code = 74) ∧
        (¬ inv.PromptFails → (Program.run inv).code = 0)) ∧
      (inv.stderrFull = false → ∀ arguments logSetting options',
        Request.parse arguments = .ok (.run options') → options'.script = options.script →
        (Program.run { inv with arguments, logSetting }).code = (Program.run inv).code ∧
        (Program.run { inv with arguments, logSetting }).stdout = (Program.run inv).stdout) := by
  refine ⟨fun e he => ?_, fun options hparse => ?_⟩
  · rw [Program.run, he]
    exact ⟨rfl, rfl⟩
  obtain ⟨hcode, hstdout⟩ := complete_eq inv hparse hlog
  rw [hcode, hstdout]
  refine ⟨?unreadable, ?script, ?prompt, ?logging⟩
  case unreadable =>
    intro path cause hscript hread
    rw [runSession_of_script hscript, runFile_of_error hread]
    exact ⟨rfl, rfl⟩
  case script =>
    intro path source hscript hread
    rw [runSession_of_script hscript]
    refine ⟨code_runFile hread, fun hfull herrors => ?_⟩
    rw [runFile_of_ok hread]
    exact accepted_run_of_lost_report inv (s := inv.session.log (.scanningFile path)) rfl rfl source
      hfull herrors
  case prompt => exact code_runSession_of_none
  case logging =>
    intro hworks arguments logSetting options' hparse' hscript
    have hother : ({ inv with arguments, logSetting } : Invocation).stderrFull = true →
        ({ inv with arguments, logSetting } : Invocation).LogsUpTo .warn :=
      fun hfull => absurd (hworks.symm.trans hfull) Bool.false_ne_true
    obtain ⟨hcode', hstdout'⟩ := complete_eq { inv with arguments, logSetting } hparse' hother
    have hsame : Program.runSession { inv with arguments, logSetting } options' =
        Program.runSession inv options := by
      simp only [Program.runSession, hscript]
    rw [hcode', hstdout', hsame]
    exact ⟨rfl, rfl⟩

/-- A script with an error, both streams being full. -/
theorem code_run_with_full_streams :
    let inv : Invocation := {
      arguments := ["a.lox"], read := fun _ => .ok "1 @".toUTF8
      stdoutFull := true, stderrFull := true }
    (inv.stderrFull = true → inv.LogsUpTo .warn) ∧
      (Program.run inv).code = 74 ∧ (Program.run inv).stdout = .empty := by
  intro inv
  have hparse : Request.parse inv.arguments = .ok (.run { script := some "a.lox" }) := by rfl
  have hread : fileText (inv.read "a.lox") = .ok "1 @" := by rfl
  have herrors : (scan "1 @").errors ≠ [] := by decide +kernel
  have hlog : inv.stderrFull = true → inv.LogsUpTo .warn := fun _ =>
    logsUpTo_warn_of_default rfl fun options hoptions => by
      rw [hparse] at hoptions
      cases hoptions
      rfl
  obtain ⟨-, hscript, -⟩ := (code_run inv hlog).2 _ hparse
  obtain ⟨hcode, hstdout⟩ := hscript "a.lox" "1 @" rfl hread
  refine ⟨hlog, ?_, hstdout rfl herrors⟩
  rw [hcode, if_pos ⟨rfl, herrors⟩]

end Invocation

end LoxLexer
