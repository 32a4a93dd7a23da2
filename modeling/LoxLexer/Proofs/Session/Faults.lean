import LoxLexer.Proofs.Session.Delivery

/-! # Runs on streams that fail

`run_faults` says how a run ends on any two streams: each may have room for so many bytes, and a
flush of the output may fail. The reports come first. If they do not fit, the error stream keeps as
much as it has room for and the output is not touched, neither by a write nor by a flush. If they
fit, the tokens are printed and, if these fit too, flushed. It does not matter in how many pieces a
text is written, and a stream may be full in the middle of a character.
-/

set_option autoImplicit false

namespace LoxLexer

/-! ## The three ways in which a run ends -/

namespace Streams

variable {x : Streams} {reports tokens : String}

theorem carryOut_of_report_fails {cause : Failure}
    (h : x.err.writeFailure? reports.toUTF8 = some cause) :
    x.carryOut [.report reports, .print tokens, .flush] =
      ⟨⟨x.out, x.err.write reports.toUTF8⟩, some cause⟩ := by
  have hreport : x.failure? (.report reports) = some cause := h
  rw [carryOut_cons_of_failure hreport]
  rfl

variable (hreports : x.err.writeFailure? reports.toUTF8 = none)
include hreports

theorem carryOut_of_print_fails {cause : Failure}
    (h : x.out.writeFailure? tokens.toUTF8 = some cause) :
    x.carryOut [.report reports, .print tokens, .flush] =
      ⟨⟨x.out.write tokens.toUTF8, x.err.write reports.toUTF8⟩, some cause⟩ := by
  have hreport : x.failure? (.report reports) = none := hreports
  have hprint : (x.perform (.report reports)).failure? (.print tokens) = some cause := h
  rw [carryOut_cons_of_none hreport, carryOut_cons_of_failure hprint]
  rfl

theorem carryOut_of_texts_fit (h : x.out.writeFailure? tokens.toUTF8 = none) :
    x.carryOut [.report reports, .print tokens, .flush] =
      ⟨⟨x.out.write tokens.toUTF8, x.err.write reports.toUTF8⟩, x.out.flushFailure?⟩ := by
  have hreport : x.failure? (.report reports) = none := hreports
  have hprint : (x.perform (.report reports)).failure? (.print tokens) = none := h
  have hflush : ((x.perform (.report reports)).perform (.print tokens)).failure? .flush =
      x.out.flushFailure? := rfl
  rw [carryOut_cons_of_none hreport, carryOut_cons_of_none hprint]
  cases hcause : x.out.flushFailure? with
  | some cause => exact carryOut_cons_of_failure (hflush.trans hcause) []
  | none => exact carryOut_cons_of_none (hflush.trans hcause) []

end Streams

namespace Session

variable {s : Session} {source : String}

/-! ## The output of a run whose reports fail -/

/-- The session with another output stream. -/
def withOut (s : Session) (out : Writer) : Session := { s with out := out }

/-- Announcing what was found does not look at the output. -/
theorem announce_withOut (s : Session) (out : Writer) (steps : List Scanner.Step) :
    (s.withOut out).announce steps = (s.announce steps).withOut out := by
  have hlog : steps.foldl (fun s step => s.log step.event) (s.withOut out) =
      (steps.foldl (fun s step => s.log step.event) s).withOut out :=
    List.foldl_hom (fun s : Session => s.withOut out) fun _ _ => rfl
  unfold announce
  rw [hlog]
  exact List.foldl_hom (fun s : Session => s.withOut out) fun _ _ => rfl

theorem run_of_failure {cause : Failure}
    (h : (s.announce (Scanner.ofString source).steps).reporter.failure = some cause) :
    s.run source = ⟨{ s.announce (Scanner.ofString source).steps with
      reporter := (s.announce (Scanner.ofString source).steps).reporter.clearFailure },
      some cause⟩ := by
  simp only [run, h]

/-- Where a report fails, a run is the same for every output. -/
theorem run_withOut {cause : Failure}
    (h : (s.announce (Scanner.ofString source).steps).reporter.failure = some cause)
    (out : Writer) :
    (s.withOut out).run source = ⟨(s.run source).session.withOut out, (s.run source).failure⟩ := by
  have hout : ((s.withOut out).announce (Scanner.ofString source).steps).reporter.failure =
      some cause := by
    rw [announce_withOut]
    exact h
  rw [run_of_failure hout, run_of_failure h, announce_withOut]
  rfl

/-- **A run may write in any pieces**: line by line, or each line in fragments, down to the first
piece that fails. -/
theorem delivers_run_pieces (hs : s.Settled) {reports tokens : List String}
    (hreports : String.join reports = Reporter.errorLines (scan source).errors)
    (htokens : String.join tokens = tokenLines (scan source).tokens) :
    (s.run source).Delivers s (reports.map .report ++ (tokens.map .print ++ [.flush])) := by
  have hsame : s.streams.carryOut (reports.map .report ++ (tokens.map .print ++ [.flush])) =
      s.streams.carryOut (runActions source) := by
    rw [Streams.carryOut_pieces .report, hreports]
    refine Streams.carryOut_cons_congr (fun x => ?_) _ _
    rw [Streams.carryOut_pieces .print, htokens]
  obtain ⟨hstreams, hfailure, hsettled⟩ := delivers_run hs source
  exact ⟨hsame ▸ hstreams, hsame ▸ hfailure, hsettled⟩

/-- **How a run ends**, whatever its streams have room for. -/
theorem run_faults (hs : s.Settled) (source : String) :
    let err := s.reporter.writer
    let reports := (String.join ((scan source).errors.map fun e => e.render ++ "\n")).toUTF8
    let tokens := (String.join ((scan source).tokens.map fun t => t.render ++ "\n")).toUTF8
    let o := s.run source
    (∀ n, err.StopsAt reports n →
      o.failure = some err.settings.fault ∧
      o.session.reporter.writer.accepted = err.accepted ++ reports.extract 0 n ∧
      o.session.out = s.out ∧
      ∀ out, (s.withOut out).run source = ⟨o.session.withOut out, o.failure⟩) ∧
    ((∀ n, ¬ err.StopsAt reports n) →
      o.session.reporter.writer.accepted = err.accepted ++ reports ∧
      (∀ n, s.out.StopsAt tokens n →
        o.failure = some s.out.settings.fault ∧
        o.session.out.accepted = s.out.accepted ++ tokens.extract 0 n) ∧
      ((∀ n, ¬ s.out.StopsAt tokens n) →
        o.failure = (if s.out.settings.failsFlush then some s.out.settings.fault else none) ∧
        o.session.out.accepted = s.out.accepted ++ tokens)) ∧
    o.session.Settled := by
  intro err reports tokens o
  obtain ⟨hstreams, hfailure, hsettled⟩ := delivers_run hs source
  rw [runActions] at hstreams hfailure
  refine ⟨fun n hn => ?_, fun hfits => ?_, hsettled⟩
  · have hkept := (announce_eq hs source).2.1.trans hn.writeFailure?
    rw [Streams.carryOut_of_report_fails hn.writeFailure?] at hstreams hfailure
    refine ⟨hfailure, ?_, congrArg (·.out) hstreams, run_withOut hkept⟩
    exact (congrArg (·.err.accepted) hstreams).trans hn.accepted_write
  · have hreports := (err.writeFailure?_eq_none_iff_not_stopsAt reports).2 hfits
    cases hprint : s.out.writeFailure? tokens with
    | some cause =>
      rw [Streams.carryOut_of_print_fails hreports hprint] at hstreams hfailure
      refine ⟨(congrArg (·.err.accepted) hstreams).trans (err.accepted_write_of_fits hreports),
        fun n hn => ?_, fun hroom => ?_⟩
      · rw [hn.writeFailure?] at hprint
        exact ⟨hfailure.trans hprint.symm,
          (congrArg (·.out.accepted) hstreams).trans hn.accepted_write⟩
      · rw [(s.out.writeFailure?_eq_none_iff_not_stopsAt tokens).2 hroom] at hprint
        cases hprint
    | none =>
      rw [Streams.carryOut_of_texts_fit hreports hprint] at hstreams hfailure
      refine ⟨(congrArg (·.err.accepted) hstreams).trans (err.accepted_write_of_fits hreports),
        fun n hn => ?_, fun _ => ⟨hfailure, ?_⟩⟩
      · exact absurd hn ((s.out.writeFailure?_eq_none_iff_not_stopsAt tokens).1 hprint n)
      · exact (congrArg (·.out.accepted) hstreams).trans (s.out.accepted_write_of_fits hprint)

/-- The error stream is full in the middle of a character, and a flush would fail. -/
theorem run_faults_in_character :
    let err : Writer := { settings := { room := some 39, fault := .nothingWritten } }
    let out : Writer := { settings := { failsFlush := true } }
    let s : Session := { out := out, reporter := { writer := err } }
    let reports := "[line 1] Error: Unexpected character 'é'\n".toUTF8
    s.Settled ∧ err.StopsAt reports 39 ∧
      (s.run "é").failure = some .nothingWritten ∧
      (s.run "é").session.reporter.writer.accepted = reports.extract 0 39 ∧
      (s.run "é").session.out = out ∧
      ∀ other, (s.withOut other).run "é" =
        ⟨(s.run "é").session.withOut other, (s.run "é").failure⟩ := by
  intro err out s reports
  have hs : s.Settled := rfl
  have hreports : String.join ((scan "é").errors.map fun e => e.render ++ "\n") =
      "[line 1] Error: Unexpected character 'é'\n" := by decide +kernel
  have hn : err.StopsAt reports 39 := ⟨rfl, by decide +kernel⟩
  have h := (run_faults hs "é").1 39 (by rw [hreports]; exact hn)
  rw [hreports] at h
  obtain ⟨hfailure, haccepted, hout⟩ := h
  exact ⟨hs, hn, hfailure, haccepted.trans ByteArray.empty_append, hout⟩

end Session

end LoxLexer
