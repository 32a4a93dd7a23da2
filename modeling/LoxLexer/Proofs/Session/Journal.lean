import LoxLexer.Proofs.Scanner.Events
import LoxLexer.Proofs.Session.Run

/-! # The journal of a run

A run tells the log of everything that its scanner found before it reports the first error, and it
reports all errors before it prints (`journal_run`). Where streams share a screen, they are laid out
in this order.
-/

set_option autoImplicit false

namespace LoxLexer

namespace Session

theorem journal_foldl_log (s : Session) (steps : List Scanner.Step) :
    (steps.foldl (fun s step => s.log step.event) s).journal.toList =
      s.journal.toList ++ (steps.map Scanner.Step.event).map .logged := by
  induction steps generalizing s with
  | nil => simp
  | cons step steps ih =>
    rw [List.foldl_cons, ih, log, Array.toList_push, List.append_assoc]
    rfl

theorem journal_foldl_report (s : Session) (errors : List LexError) :
    (errors.foldl report s).journal.toList =
      s.journal.toList ++ (errors.map fun e => e.render ++ "\n").map .reported := by
  induction errors generalizing s with
  | nil => simp
  | cons e errors ih =>
    rw [List.foldl_cons, ih, report, Array.toList_push, List.append_assoc]
    rfl

/-- **What a run leaves in the journal**: all events of its scan, then the reports of all errors,
then what was printed, if anything was. -/
theorem journal_run (s : Session) (source : String) : ∃ printed : List String,
    (s.run source).session.journal.toList = s.journal.toList ++
      ((Scanner.ofString source).events.map .logged ++
        (((scan source).errors.map fun e => e.render ++ "\n").map .reported ++
          printed.map .printed)) := by
  have hannounced : (s.announce (Scanner.ofString source).steps).journal.toList =
      s.journal.toList ++ ((Scanner.ofString source).events.map .logged ++
        ((scan source).errors.map fun e => e.render ++ "\n").map .reported) := by
    rw [announce, journal_foldl_report, journal_foldl_log, List.append_assoc]
    rfl
  cases hf : (s.announce (Scanner.ofString source).steps).reporter.failure with
  | some cause =>
    refine ⟨[], ?_⟩
    simp only [run, hf]
    rw [hannounced, List.map_nil, List.append_nil]
  | none =>
    refine ⟨[tokenLines (scan source).tokens], ?_⟩
    simp only [run, hf]
    rw [session_andThen_flush, print, Array.toList_push, hannounced, List.append_assoc,
      List.append_assoc]
    rfl

end Session

end LoxLexer
