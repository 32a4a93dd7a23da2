import LoxLexer.Proofs.Stream.Writer
import LoxLexer.Session.Basic

/-! # What a run writes

A run reports the errors of a text one by one and prints its tokens at once; on its two streams
this is one text each. `Reporter.reportAll_eq` says what reporting errors does to a reporter that
may fail, and `Session.accepted_run` what a run adds to two streams with room for it.
-/

set_option autoImplicit false

namespace LoxLexer

/-! ## Reports -/

namespace Reporter

/-- The lines that report some errors. -/
def errorLines (errors : List LexError) : String :=
  String.join (errors.map fun e => line e.line e.message)

theorem errorLines_cons (e : LexError) (errors : List LexError) :
    errorLines (e :: errors) = line e.line e.message ++ errorLines errors := by
  rw [errorLines, List.map_cons, String.join_cons, errorLines]

theorem reportAll_cons (r : Reporter) (e : LexError) (errors : List LexError) :
    r.reportAll (e :: errors) = (r.report e.line e.message).reportAll errors := rfl

/-- **Errors are reported as one text**: the lines go to the writer as if they were written at
once, and of the failures the first is kept. -/
theorem reportAll_eq (r : Reporter) (errors : List LexError) :
    r.reportAll errors =
      { writer := r.writer.write (errorLines errors).toUTF8
        hadError := r.hadError || !errors.isEmpty
        failure := r.failure.or (r.writer.writeFailure? (errorLines errors).toUTF8) } := by
  induction errors generalizing r with
  | nil =>
    have hwrite : r.writer.write (errorLines []).toUTF8 = r.writer := r.writer.write_empty
    have hfail : r.writer.writeFailure? (errorLines []).toUTF8 = none :=
      r.writer.writeFailure?_empty
    rw [hwrite, hfail, Option.or_none]
    simp [reportAll]
  | cons e errors ih =>
    have hbytes : (errorLines (e :: errors)).toUTF8 =
        (line e.line e.message).toUTF8 ++ (errorLines errors).toUTF8 := by
      rw [errorLines_cons]
      exact String.toByteArray_append
    rw [reportAll_cons, ih, hbytes, ← Writer.write_write, Writer.writeFailure?_append,
      ← Option.or_assoc]
    simp [report]

end Reporter

/-! ## Runs -/

namespace Session

theorem foldl_log (s : Session) (steps : List Scanner.Step) :
    (steps.foldl (fun s step => s.log step.event) s).out = s.out ∧
      (steps.foldl (fun s step => s.log step.event) s).reporter = s.reporter := by
  induction steps generalizing s with
  | nil => exact ⟨rfl, rfl⟩
  | cons step steps ih => exact ih (s.log step.event)

theorem foldl_report (s : Session) (errors : List LexError) :
    (errors.foldl report s).out = s.out ∧
      (errors.foldl report s).reporter = s.reporter.reportAll errors := by
  induction errors generalizing s with
  | nil => exact ⟨rfl, rfl⟩
  | cons e errors ih => exact ih (s.report e)

/-- Announcing what was found reports its errors and prints nothing. -/
theorem announce_streams (s : Session) (steps : List Scanner.Step) :
    (s.announce steps).out = s.out ∧ (s.announce steps).reporter =
      s.reporter.reportAll (Scan.ofItems (steps.map Scanner.Step.item)).errors := by
  obtain ⟨hout, hreporter⟩ := s.foldl_log steps
  have h := (steps.foldl (fun s step => s.log step.event) s).foldl_report
    (Scan.ofItems (steps.map Scanner.Step.item)).errors
  rwa [hout, hreporter] at h

theorem session_andThen_flush (o : Outcome) : (o.andThen flush).session = o.session := by
  unfold Outcome.andThen
  cases o.failure <;> rfl

/-- A run whose reports fit goes on to print the tokens. -/
theorem session_run_of_reported {s : Session} {source : String}
    (h : (s.reporter.reportAll (scan source).errors).failure = none) :
    (s.run source).session = ((s.announce (Scanner.ofString source).steps).print
      (tokenLines (scan source).tokens)).session := by
  have hreported : (s.announce (Scanner.ofString source).steps).reporter.failure = none := by
    rw [(s.announce_streams _).2]
    exact h
  rw [← session_andThen_flush (print _ _)]
  simp only [run, hreported]
  rfl

/-- **What a run writes** on streams without a limit: the lines of all tokens, and of all errors. -/
theorem accepted_run {s : Session} (hout : s.out.settings.room = none)
    (herr : s.reporter.writer.settings.room = none) (hf : s.reporter.failure = none)
    (source : String) :
    (s.run source).session.out.accepted =
        s.out.accepted ++ (tokenLines (scan source).tokens).toUTF8 ∧
      (s.run source).session.reporter.writer.accepted =
        s.reporter.writer.accepted ++ (Reporter.errorLines (scan source).errors).toUTF8 := by
  have hfits : s.reporter.writer.writeFailure?
      (Reporter.errorLines (scan source).errors).toUTF8 = none :=
    (s.reporter.writer.writeFailure?_eq_none_iff _).2 (by simp [herr])
  have hreported : (s.reporter.reportAll (scan source).errors).failure = none := by
    rw [Reporter.reportAll_eq]
    show s.reporter.failure.or _ = none
    rw [hf, hfits]
    rfl
  obtain ⟨haout, hareporter⟩ := s.announce_streams (Scanner.ofString source).steps
  rw [session_run_of_reported hreported]
  constructor
  · show ((s.announce _).out.write _).accepted = _
    rw [haout, Writer.accepted_write_of_none hout]
  · show (s.announce _).reporter.writer.accepted = _
    rw [hareporter, Reporter.reportAll_eq]
    exact Writer.accepted_write_of_none herr _

end Session

end LoxLexer
