import LoxLexer.Proofs.Session.Delivery

/-! # What a prompt writes and what it reads

A prompt writes as if its lines were known from the start (`promptWrites`), and reading fails only
behind all of that: a prompt fails with what writing failed with or, if it did not, with what
reading does (`failure_runPrompt`). First lines that are all run stay the first ones whatever stands
behind them (`commands_append`), so what the prompt writes for them comes first, too
(`promptWrites_prefix`).

Streams without limits and faults take all that is written: `FaultFree.runPrompt` and
`FaultFree.run` say what that is.
-/

set_option autoImplicit false

namespace LoxLexer

namespace Streams

variable {x : Streams} {as : List Action}

/-- A read that fails behind a row ends it, if nothing did before. -/
theorem carryOut_append_readFails (x : Streams) (as : List Action) (cause? : Option Failure) :
    x.carryOut (as ++ (cause?.map .readFails).toList) =
      ⟨(x.carryOut as).streams, (x.carryOut as).failure.or cause?⟩ := by
  cases hf : (x.carryOut as).failure with
  | some cause =>
    rw [carryOut_append_of_failure hf, Option.some_or, ← hf]
  | none =>
    rw [carryOut_append_of_none hf, Option.none_or]
    cases cause? with
    | none => rfl
    | some cause => exact carryOut_cons_of_failure rfl []

end Streams

namespace Session

/-- What a prompt does before it is through with reading. -/
def promptWrites (lines : List (List UInt8)) : List Action :=
  .print greeting ::
    ((commands lines).flatMap (fun command => askActions ++ runActions command) ++ askActions)

theorem readFails_not_mem_promptWrites (lines : List (List UInt8)) (cause : Failure) :
    .readFails cause ∉ promptWrites lines := by
  simp [promptWrites, askActions, runActions]

theorem printedBy_promptWrites (lines : List (List UInt8)) :
    Action.printedBy (promptWrites lines) = greeting ++ (String.join ((commands lines).map
      fun command => promptMark ++ tokenLines (scan command).tokens) ++ promptMark) := by
  have hcommands : ∀ cs : List String, Action.printedBy
      (cs.flatMap fun command => askActions ++ runActions command) =
        String.join (cs.map fun command => promptMark ++ tokenLines (scan command).tokens) := by
    intro cs
    induction cs with
    | nil => rfl
    | cons c cs ih =>
      rw [List.flatMap_cons, Action.printedBy_append, ih, List.map_cons, String.join_cons]
      simp [askActions, runActions, Action.printed]
  rw [promptWrites, Action.printedBy_cons, Action.printedBy_append, hcommands]
  simp [askActions, Action.printed]

theorem reportedBy_promptWrites (lines : List (List UInt8)) :
    Action.reportedBy (promptWrites lines) =
      Reporter.errorLines ((commands lines).flatMap fun command => (scan command).errors) := by
  have hcommands : ∀ cs : List String, Action.reportedBy
      (cs.flatMap fun command => askActions ++ runActions command) =
        Reporter.errorLines (cs.flatMap fun command => (scan command).errors) := by
    intro cs
    induction cs with
    | nil => rfl
    | cons c cs ih =>
      rw [List.flatMap_cons, Action.reportedBy_append, ih, List.flatMap_cons]
      simp [askActions, runActions, Action.reported, Reporter.errorLines]
  rw [promptWrites, Action.reportedBy_cons, Action.reportedBy_append, hcommands]
  simp [askActions, Action.reported]

theorem promptWrites_append_readFails (ending : Option Failure) (lines : List (List UInt8)) :
    promptWrites lines ++ ((readFailure? ending lines).map .readFails).toList =
      .print greeting :: promptActions ending lines := by
  simp only [promptActions, promptWrites, List.cons_append, List.append_assoc]

section
variable {s : Session} (hs : s.Settled) (input : Input)
include hs

theorem streams_runPrompt :
    (s.runPrompt input).session.streams =
      (s.streams.carryOut (promptWrites input.lines)).streams := by
  rw [(delivers_runPrompt hs input).streams, ← promptWrites_append_readFails,
    Streams.carryOut_append_readFails]

/-- **A prompt fails** with what its writing fails with, else with what its reading does. -/
theorem failure_runPrompt :
    (s.runPrompt input).failure =
      (s.streams.carryOut (promptWrites input.lines)).failure.or
        (readFailure? input.fault input.lines) := by
  rw [(delivers_runPrompt hs input).failure, ← promptWrites_append_readFails,
    Streams.carryOut_append_readFails]

end

/-! ## Streams that take everything -/

/-- The streams have room for everything, and no flush fails. -/
structure FaultFree (s : Session) : Prop where
  out : s.out.settings.room = none
  err : s.reporter.writer.settings.room = none
  flush : s.out.settings.failsFlush = false

/-- The session with streams that never fail. -/
def unlimited (s : Session) : Session := (s.configureOut {}).configureErr {}

theorem faultFree_unlimited (s : Session) : s.unlimited.FaultFree := ⟨rfl, rfl, rfl⟩

/-- What reached the streams between two states of a session. -/
structure Wrote (s t : Session) (out err : ByteArray) : Prop where
  out : t.out.accepted = s.out.accepted ++ out
  err : t.reporter.writer.accepted = s.reporter.writer.accepted ++ err

theorem Wrote.of_unlimited {s t : Session} {out err : ByteArray} (h : Wrote s.unlimited t out err) :
    Wrote s t out err := ⟨h.out, h.err⟩

section
variable {s : Session} (hfree : s.FaultFree)
include hfree

theorem FaultFree.carryOut {as : List Action} (hread : ∀ cause, .readFails cause ∉ as) :
    s.streams.carryOut as =
      ⟨s.streams.receive (Action.printedBy as) (Action.reportedBy as), none⟩ := by
  have hflush : s.streams.out.flushFailure? = none := by
    show s.out.flushFailure? = none
    rw [Writer.flushFailure?, hfree.flush]
    rfl
  have hfits : s.streams.Fits as :=
    ⟨(s.out.writeFailure?_eq_none_iff _).2 fun r hr => by simp [hfree.out] at hr,
      (s.reporter.writer.writeFailure?_eq_none_iff _).2 fun r hr => by simp [hfree.err] at hr⟩
  exact Streams.carryOut_of_fits hflush hread hfits

theorem FaultFree.wrote {t : Session} {printed reported : String}
    (h : t.streams = s.streams.receive printed reported) :
    Wrote s t printed.toUTF8 reported.toUTF8 :=
  ⟨(congrArg (·.out.accepted) h).trans (Writer.accepted_write_of_none hfree.out _),
    (congrArg (·.err.accepted) h).trans (Writer.accepted_write_of_none hfree.err _)⟩

variable (hs : s.Settled)
include hs

theorem FaultFree.run (source : String) :
    Wrote s (s.run source).session (tokenLines (scan source).tokens).toUTF8
        (Reporter.errorLines (scan source).errors).toUTF8 ∧
      (s.run source).failure = none := by
  obtain ⟨hstreams, hfailure, -⟩ := delivers_run hs source
  rw [hfree.carryOut (by simp [runActions])] at hstreams hfailure
  have hprinted : Action.printedBy (runActions source) = tokenLines (scan source).tokens := by
    simp [runActions, Action.printed]
  have hreported : Action.reportedBy (runActions source) =
      Reporter.errorLines (scan source).errors := by
    simp [runActions, Action.reported]
  rw [hprinted, hreported] at hstreams
  exact ⟨hfree.wrote hstreams, hfailure⟩

theorem FaultFree.runPrompt (input : Input) :
    Wrote s (s.runPrompt input).session
        (Action.printedBy (promptWrites input.lines)).toUTF8
        (Action.reportedBy (promptWrites input.lines)).toUTF8 ∧
      (s.runPrompt input).failure = readFailure? input.fault input.lines := by
  have hstreams := streams_runPrompt hs input
  have hfailure := failure_runPrompt hs input
  rw [hfree.carryOut (readFails_not_mem_promptWrites input.lines)] at hstreams hfailure
  exact ⟨hfree.wrote hstreams, hfailure⟩

end

section
variable {s : Session} (hs : s.Settled)
include hs

theorem run_unlimited (source : String) :
    Wrote s (s.unlimited.run source).session (tokenLines (scan source).tokens).toUTF8
        (Reporter.errorLines (scan source).errors).toUTF8 ∧
      (s.unlimited.run source).failure = none :=
  (s.faultFree_unlimited.run hs source).imp_left Wrote.of_unlimited

theorem runPrompt_unlimited (input : Input) :
    Wrote s (s.unlimited.runPrompt input).session
        (Action.printedBy (promptWrites input.lines)).toUTF8
        (Action.reportedBy (promptWrites input.lines)).toUTF8 ∧
      (s.unlimited.runPrompt input).failure = readFailure? input.fault input.lines :=
  (s.faultFree_unlimited.runPrompt hs input).imp_left Wrote.of_unlimited

end

/-! ## First lines -/

theorem isSome_command?_of_mem_take {lines : List (List UInt8)} {n : Nat}
    (h : n ≤ (commands lines).length) : ∀ line ∈ lines.take n, (command? line).isSome := by
  induction lines generalizing n with
  | nil => simp
  | cons line more ih =>
    cases n with
    | zero => simp
    | succ n =>
      cases hc : command? line with
      | none => simp [commands, hc] at h
      | some command =>
        have hmore : n ≤ (commands more).length := by simpa [commands, hc] using h
        rw [List.take_succ_cons, List.forall_mem_cons]
        exact ⟨by simp [hc], ih hmore⟩

theorem commands_take (lines : List (List UInt8)) :
    commands (lines.take (commands lines).length) = commands lines := by
  induction lines with
  | nil => rfl
  | cons line more ih =>
    cases hc : command? line with
    | none => simp only [commands, hc, List.length_nil, List.take_zero]
    | some command => simp only [commands, hc, List.length_cons, List.take_succ_cons, ih]

variable {first : List (List UInt8)} (h : ∀ line ∈ first, (command? line).isSome)
include h

theorem commands_append (more : List (List UInt8)) :
    commands (first ++ more) = commands first ++ commands more := by
  induction first with
  | nil => rfl
  | cons line first ih =>
    obtain ⟨hline, hfirst⟩ := List.forall_mem_cons.1 h
    obtain ⟨command, hc⟩ := Option.isSome_iff_exists.1 hline
    simp only [List.cons_append, commands, hc, ih hfirst]

theorem readFailure?_append (ending : Option Failure) (more : List (List UInt8)) :
    readFailure? ending (first ++ more) = readFailure? ending more := by
  induction first with
  | nil => rfl
  | cons line first ih =>
    obtain ⟨hline, hfirst⟩ := List.forall_mem_cons.1 h
    obtain ⟨command, hc⟩ := Option.isSome_iff_exists.1 hline
    simp only [List.cons_append, readFailure?, hc, ih hfirst]

omit h in
/-- Reading fails at a line that is not text, behind lines that are all run. -/
theorem readFailure?_ne_none_iff {lines : List (List UInt8)} :
    readFailure? none lines ≠ none ↔ ∃ before line after, lines = before ++ line :: after ∧
      (∀ earlier ∈ before, (command? earlier).isSome) ∧ Input.text? line = none := by
  constructor
  · intro h
    induction lines with
    | nil => exact absurd rfl h
    | cons line more ih =>
      cases hc : command? line with
      | none =>
        refine ⟨[], line, more, rfl, by simp, ?_⟩
        cases ht : Input.text? line with
        | none => rfl
        | some text => simp [readFailure?, hc, ht] at h
      | some command =>
        simp only [readFailure?, hc] at h
        obtain ⟨before, bad, after, rfl, hbefore, hbad⟩ := ih h
        refine ⟨line :: before, bad, after, rfl, ?_, hbad⟩
        rw [List.forall_mem_cons]
        exact ⟨by simp [hc], hbefore⟩
  · intro h
    obtain ⟨before, line, after, rfl, hbefore, hline⟩ := h
    rw [readFailure?_append hbefore]
    simp [readFailure?, command?, hline]

/-- **What a prompt writes for its first lines comes first**, whatever lines follow. -/
theorem promptWrites_prefix (more : List (List UInt8)) :
    promptWrites first <+: promptWrites (first ++ more) := by
  have hasked : ∀ lines, askActions <+: (commands lines).flatMap
      (fun command => askActions ++ runActions command) ++ askActions := by
    intro lines
    cases commands lines with
    | nil => exact List.prefix_refl askActions
    | cons command commands =>
      rw [List.flatMap_cons, List.append_assoc, List.append_assoc]
      exact List.prefix_append askActions _
  rw [promptWrites, promptWrites, commands_append h, List.flatMap_append, List.append_assoc,
    List.cons_prefix_cons]
  exact ⟨rfl, (List.prefix_append_right_inj _).2 (hasked more)⟩

end Session

end LoxLexer
