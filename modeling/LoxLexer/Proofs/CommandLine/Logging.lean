import LoxLexer.Proofs.CommandLine.ExitCode
import LoxLexer.Proofs.Session.Journal

/-! # Log lines

Where log lines and reports share a stream, the log lines of a text stand in front of its reports. A
filter that asks for a level leaves out the events that matter less, and changes neither the order
of the others nor the reports (`Journal.errorText_logged`, `Invocation.stderr_of_script`).
`log_mirrors_scan` follows the log of a text from the calls of its scanner to the error stream of a
process.
-/

set_option autoImplicit false

namespace LoxLexer

/-! ## What the error stream shows of a journal -/

namespace Journal

theorem errorText_append (filter : Log.Filter) (xs ys : List Entry) :
    errorText filter (xs ++ ys) = errorText filter xs ++ errorText filter ys := by
  rw [errorText, List.map_append, String.join_append, errorText, errorText]

theorem errorText_logged (level : Option Log.Level) (events : List Log.Event) :
    errorText (.ofLevel level) (events.map .logged) =
      String.join ((events.filter (·.isWithin level)).map Log.Event.line) := by
  induction events with
  | nil => rfl
  | cons event events ih =>
    unfold errorText at ih ⊢
    rw [List.map_cons, List.map_cons, String.join_cons, ih, Entry.errorText,
      Log.Filter.shows_ofLevel]
    by_cases h : event.isWithin level = true <;> simp [h]

theorem errorText_reported (filter : Log.Filter) (texts : List String) :
    errorText filter (texts.map .reported) = String.join texts := by
  rw [errorText, List.map_map]
  exact congrArg String.join (List.map_id _)

theorem errorText_printed (filter : Log.Filter) (texts : List String) :
    errorText filter (texts.map .printed) = "" := by
  induction texts with
  | nil => rfl
  | cons text texts ih =>
    unfold errorText at ih ⊢
    rw [List.map_cons, List.map_cons, String.join_cons, ih]
    rfl

end Journal

/-! ## The error stream of a process -/

namespace Invocation

/-- A script that could be read is logged, then its log lines follow, then its reports, and last
what keeps its tokens from being printed. -/
theorem stderr_of_script {inv : Invocation} {options : Options} {path source : String}
    {level : Option Log.Level} (hparse : Request.parse inv.arguments = .ok (.run options))
    (hscript : options.script = some path)
    (hread : Session.fileText (inv.read path) = .ok source) (hworks : inv.stderrFull = false)
    (hfilter : options.filter inv.logSetting = .ofLevel level) :
    ∃ ending, (Program.run inv).stderr =
        String.join (((Log.Event.scanningFile path :: (Scanner.ofString source).events).filter
          (·.isWithin level)).map Log.Event.line) ++
        String.join ((scan source).errors.map fun e => e.render ++ "\n") ++ ending ∧
      (inv.stdoutFull = false → ending = "") := by
  have hs : (inv.session.log (.scanningFile path)).Settled := rfl
  obtain ⟨printed, hjournal⟩ := (inv.session.log (.scanningFile path)).journal_run source
  have hentries : ((inv.session.log (.scanningFile path)).run source).session.journal.toList =
      (Log.Event.scanningFile path :: (Scanner.ofString source).events).map .logged ++
        (((scan source).errors.map fun e => e.render ++ "\n").map .reported ++
          printed.map .printed) := hjournal
  have hrun : (Program.run inv).stderr =
      Journal.errorText (.ofLevel level)
        ((inv.session.log (.scanningFile path)).run source).session.journal.toList ++
        Program.failureText (inv.session.runFile inv.read path).result := by
    simp only [Program.run, hparse, Program.complete, hworks, Bool.false_and, Bool.false_eq_true,
      if_false, hfilter, runSession_of_script hscript]
    rw [Session.runFile_of_ok hread]
  refine ⟨Program.failureText (inv.session.runFile inv.read path).result, ?_, fun hout => ?_⟩
  · rw [hrun, hentries, Journal.errorText_append, Journal.errorText_append,
      Journal.errorText_logged, Journal.errorText_reported, Journal.errorText_printed,
      String.append_empty]
  · have hnone : ((inv.session.log (.scanningFile path)).run source).failure = none :=
      (failure_run_eq_none_iff inv hs rfl source).2 ⟨hout, fun h => by simp [hworks] at h⟩
    rw [Session.runFile_of_ok hread, hnone]
    rfl

end Invocation

/-! ## The log of a text -/

/-- The events of a text are those of its items, then one with the numbers of its tokens and errors
and its last line. -/
theorem events_ofString (source : String) :
    ∃ items last, (Scanner.ofString source).items = items ++ [.token (Token.endOfFile last)] ∧
      (∀ item ∈ items, item.isEnd = false) ∧
      (Scanner.ofString source).events = items.map Item.event ++
        [.finished (scan source).proper.length (scan source).errors.length last] := by
  obtain ⟨items, last, hitems, hproper, hevents⟩ :=
    (Scanner.ofString source).exists_events rfl
  have hpieces : (Scanner.ofString source).items = _ := Scanner.items_eq _ rfl
  obtain ⟨hsame, -⟩ := List.append_inj' (hitems.symm.trans hpieces) rfl
  have htokens : (scan source).proper = items.filterMap Item.token? := by
    rw [proper_scan, hsame]
    rfl
  have herrors : (scan source).errors = items.filterMap Item.error? := by
    rw [errors_scan, hsame]
    rfl
  refine ⟨items, last, hitems, hproper, ?_⟩
  rw [hevents, htokens, herrors]
  simp [Scanner.ofString]

/-- **The log mirrors the scan.** However a text is scanned, by calls or by calls and then all at
once, the log is told of each item, one by one, and then once of the sums; later calls tell it
nothing. A run in a session has told the log everything before it reports anything. A filter that
asks for a level shows the events at this level or more severe, in their order, and a process shows
these in front of the reports. -/
theorem log_mirrors_scan (source : String) :
    ∃ (items : List Item) (last : Nat) (told : List Log.Event) (sums : Log.Event),
      (Scanner.ofString source).items = items ++ [.token (Token.endOfFile last)] ∧
      (∀ item ∈ items, item.isEnd = false) ∧
      List.Forall₂ Item.ToldBy items told ∧
      (sums = .finished (scan source).proper.length (scan source).errors.length last ∧
        sums.level = .debug ∧
        sums.text = "finished scanning tokens=" ++ (scan source).proper.length.repr ++
          " errors=" ++ (scan source).errors.length.repr ++ " line=" ++ last.repr) ∧
      (∀ k, (Scanner.ofString source).sent k ++ ((Scanner.ofString source).calls k).2.events =
        told ++ [sums]) ∧
      (∀ k, items.length < k → (Scanner.ofString source).sent k = told ++ [sums]) ∧
      (∀ s : Session, ∃ printed : List String, (s.run source).session.journal.toList =
        s.journal.toList ++ ((told ++ [sums]).map .logged ++
          (((scan source).errors.map fun e => e.render ++ "\n").map .reported ++
            printed.map .printed))) ∧
      ∀ level : Option Log.Level,
        Journal.errorText (.ofLevel level) ((told ++ [sums]).map .logged) =
          String.join (((told ++ [sums]).filter (·.isWithin level)).map Log.Event.line) ∧
        ∀ (inv : Invocation) (options : Options) (path : String),
          Request.parse inv.arguments = .ok (.run options) → options.script = some path →
          Session.fileText (inv.read path) = .ok source → inv.stderrFull = false →
          options.filter inv.logSetting = .ofLevel level →
          ∃ ending, (Program.run inv).stderr =
              String.join (((.scanningFile path :: (told ++ [sums])).filter
                (·.isWithin level)).map Log.Event.line) ++
              String.join ((scan source).errors.map fun e => e.render ++ "\n") ++ ending ∧
            (inv.stdoutFull = false → ending = "") := by
  obtain ⟨items, last, hitems, hproper, hevents⟩ := events_ofString source
  refine ⟨items, last, items.map Item.event, _, hitems, hproper, ?told,
    ⟨rfl, rfl, Log.Event.text_finished _ _ _⟩, ?_⟩
  case told =>
    rw [List.forall₂_map_right_iff, List.forall₂_same]
    exact fun item _ => item.toldBy_event
  rw [← hevents]
  refine ⟨fun k => ?calls, fun k hk => ?behind, fun s => s.journal_run source,
    fun level => ⟨Journal.errorText_logged level _, fun inv options path hparse hscript hread
      hworks hfilter => Invocation.stderr_of_script hparse hscript hread hworks hfilter⟩⟩
  case calls =>
    rw [Scanner.sent_eq, Scanner.events_calls, List.take_append_drop]
  case behind =>
    rw [Scanner.sent_eq, hevents]
    apply List.take_of_length_le
    rw [List.length_append, List.length_map, List.length_singleton]
    omega

/-- A token and an error that stand on different lines, a call in front of the rest, and a process
that shows no tokens. -/
theorem log_mirrors_scan_debug :
    let source := "1\n@"
    let inv : Invocation := { arguments := ["-v", "a"], read := fun _ => .ok source.toUTF8 }
    Request.parse inv.arguments = .ok (.run { script := some "a", verbosity := 1 }) ∧
      Session.fileText (inv.read "a") = .ok source ∧
      (Scanner.ofString source).sent 1 =
        [.accepted ⟨.number ⟨0x3FF0000000000000⟩, "1", 1⟩] ∧
      (Program.run inv).stderr = " INFO lox_scan::lox: scanning file path=a\n" ++
        "DEBUG lox_scan::scanner: Unexpected character '@' line=2\n" ++
        "DEBUG lox_scan::scanner: finished scanning tokens=1 errors=1 line=2\n" ++
        "[line 2] Error: Unexpected character '@'\n" := by
  intro source inv
  have hparse : Request.parse inv.arguments =
      .ok (.run { script := some "a", verbosity := 1 }) := by decide +kernel
  have hread : Session.fileText (inv.read "a") = .ok source := by decide +kernel
  obtain ⟨items, last, told, sums, -, -, -, -, hcalls, -, -, hlevel⟩ :=
    log_mirrors_scan source
  have hevents : told ++ [sums] = (Scanner.ofString source).events :=
    (hcalls 0).symm
  obtain ⟨-, hprocess⟩ := hlevel (some .debug)
  obtain ⟨ending, hstderr, hending⟩ := hprocess inv _ "a" hparse rfl hread rfl rfl
  refine ⟨hparse, hread, by decide +kernel, ?_⟩
  rw [hstderr, hending rfl, hevents]
  decide +kernel

end LoxLexer
