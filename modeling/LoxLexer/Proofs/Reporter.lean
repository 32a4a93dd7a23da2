import Mathlib.Data.List.Induction
import LoxLexer.Reporter
import LoxLexer.Proofs.Stream.Actions

/-! # The life of a reporter

Reports, resets, takes and new settings of the writer come in any order. What a reporter then tells
goes back to one operation of the past: the flag to a report since the last reset, a taken failure
to the first report since the last take that could not be written. Both are of a kind: some
operations set a thing and only one clears it (`iff_exists_since`).

`state_after` says how a reporter stands at any time, and what the next report does to its writer.
-/

set_option autoImplicit false

namespace LoxLexer

namespace Reporter

inductive Op where
  | report (line : Nat) (message : String)
  | reset
  | take
  /-- Give the writer other limits and faults. -/
  | configure (settings : Writer.Settings)

/-- Give the kept failure away. -/
def take (r : Reporter) : Option Failure × Reporter := (r.failure, r.clearFailure)

def perform (r : Reporter) : Op → Reporter
  | .report line message => r.report line message
  | .reset => r.reset
  | .take => r.take.2
  | .configure settings => r.configure settings

/-- A reporter that was made with a writer, behind some operations. -/
def after (w : Writer) (ops : List Op) : Reporter := ops.foldl perform { writer := w }

theorem after_concat (w : Writer) (ops : List Op) (op : Op) :
    after w (ops ++ [op]) = (after w ops).perform op := by
  simp only [after, List.foldl_append, List.foldl_cons, List.foldl_nil]

/-- The errors of a scan are reported one after the other. -/
theorem reportAll_after (w : Writer) (ops : List Op) (errors : List LexError) :
    (after w ops).reportAll errors =
      after w (ops ++ errors.map fun e => .report e.line e.message) := by
  simp only [after, reportAll, List.foldl_append, List.foldl_map, perform]

/-! ## One report -/

/-- The failure of a report behind some operations. -/
def fault? (w : Writer) (before : List Op) (line : Nat) (message : String) : Option Failure :=
  (after w before).writer.writeFailure? (Reporter.line line message).toUTF8

/-- What an attempt to write a text does: `w` becomes `w'`, and `fault` is what it fails with. -/
structure Attempt (w : Writer) (text : String) (w' : Writer) (fault : Option Failure) : Prop where
  unlimited : w.settings.room = none →
    w'.accepted = w.accepted ++ text.toUTF8 ∧ w'.settings = w.settings ∧ fault = none
  /-- As much of the text is kept as there is room for. It fails if that is not all of it. -/
  limited : ∀ room, w.settings.room = some room →
    w'.accepted = w.accepted ++ text.toUTF8.extract 0 (min room text.toUTF8.size) ∧
    w'.settings = { w.settings with room := some (room - text.toUTF8.size) } ∧
    fault = if room < text.toUTF8.size then some w.settings.fault else none
  /-- It does not matter in which pieces the text is handed over, up to the first that fails. -/
  pieces : ∀ out pieces, String.join pieces = text →
    (Streams.mk out w).carryOut (pieces.map .report) = ⟨⟨out, w'⟩, fault⟩

theorem attempt_write (w : Writer) (text : String) :
    Attempt w text (w.write text.toUTF8) (w.writeFailure? text.toUTF8) where
  unlimited := by
    intro h
    refine ⟨Writer.accepted_write_of_none h _, ?_, ?_⟩
    · simp only [Writer.write, Writer.Settings.spend, h, Option.map_none]
      rw [← h]
    · rw [Writer.writeFailure?_eq_none_iff, h]
      simp
  limited := by
    intro room h
    refine ⟨?_, ?_, ?_⟩
    · rw [Writer.accepted_write, Writer.Settings.taken, h, Nat.min_comm]
    · have hleft : room - min text.toUTF8.size room = room - text.toUTF8.size := by omega
      simp only [Writer.write, Writer.Settings.spend, Writer.Settings.taken, h, Option.map_some,
        hleft]
    · split
      · next hless =>
        have hstops : w.StopsAt text.toUTF8 room := ⟨h, hless⟩
        exact hstops.writeFailure?
      · next hfits =>
        rw [Writer.writeFailure?_eq_none_iff, h]
        rintro r ⟨⟩
        exact Nat.not_lt.1 hfits
  pieces := by
    rintro out pieces rfl
    have hwhole := Streams.carryOut_pieces .report ⟨out, w⟩ pieces []
    obtain ⟨hstreams, hfailure⟩ :=
      (Streams.mk out w).carryOut_single (.report (String.join pieces))
    rw [List.append_nil] at hwhole
    rw [hwhole]
    exact congrArg₂ Delivery.mk hstreams hfailure

/-! ## Looking back -/

/-- `op` was performed behind `before`, and no `stop` since. -/
def Since (stop : Op) (ops before : List Op) (op : Op) : Prop :=
  ∃ later, ops = before ++ op :: later ∧ stop ∉ later

theorem not_since_nil (stop : Op) (before : List Op) (op : Op) : ¬ Since stop [] before op := by
  rintro ⟨later, h, -⟩
  simp at h

theorem since_concat {stop : Op} {ops : List Op} {last : Op} {before : List Op} {op : Op} :
    Since stop (ops ++ [last]) before op ↔
      before = ops ∧ op = last ∨ last ≠ stop ∧ Since stop ops before op := by
  constructor
  · rintro ⟨later, h, hstop⟩
    obtain rfl | ⟨more, last', rfl⟩ := later.eq_nil_or_concat
    · obtain ⟨rfl, hlast⟩ := List.append_inj' h rfl
      exact .inl ⟨rfl, (List.singleton_inj.1 hlast).symm⟩
    · rw [List.concat_eq_append] at h hstop
      rw [← List.cons_append, ← List.append_assoc] at h
      obtain ⟨rfl, hlast⟩ := List.append_inj' h rfl
      obtain rfl := List.singleton_inj.1 hlast
      rw [List.mem_append, not_or, List.mem_singleton] at hstop
      exact .inr ⟨Ne.symm hstop.2, more, rfl, hstop.1⟩
  · rintro (⟨rfl, rfl⟩ | ⟨hlast, more, rfl, hstop⟩)
    · exact ⟨[], rfl, List.not_mem_nil⟩
    · refine ⟨more ++ [last], by simp, ?_⟩
      simpa [hstop] using Ne.symm hlast

/-- **What only reports set and only `stop` clears** holds if there was a report since the last
`stop` that set it. -/
theorem iff_exists_since {stop : Op} (Holds : List Op → Prop)
    (Sets : List Op → Nat → String → Prop) (hstart : ¬ Holds [])
    (hstep : ∀ ops op, Holds (ops ++ [op]) ↔
      (∃ line message, op = .report line message ∧ Sets ops line message) ∨
        op ≠ stop ∧ Holds ops)
    (ops : List Op) :
    Holds ops ↔ ∃ before line message,
      Since stop ops before (.report line message) ∧ Sets before line message := by
  -- From the right: what a step does is said of the last operation.
  induction ops using List.reverseRecOn with
  | nil => simp only [hstart, not_since_nil, false_and, exists_false]
  | append_singleton ops last ih =>
    rw [hstep, ih]
    constructor
    · rintro (⟨line, message, rfl, hsets⟩ | ⟨hlast, before, line, message, hsince, hsets⟩)
      · exact ⟨ops, line, message, since_concat.2 (.inl ⟨rfl, rfl⟩), hsets⟩
      · exact ⟨before, line, message, since_concat.2 (.inr ⟨hlast, hsince⟩), hsets⟩
    · rintro ⟨before, line, message, hsince, hsets⟩
      obtain ⟨rfl, rfl⟩ | ⟨hlast, hsince⟩ := since_concat.1 hsince
      · exact .inl ⟨line, message, rfl, hsets⟩
      · exact .inr ⟨hlast, before, line, message, hsince, hsets⟩

/-! ## What a reporter tells -/

/-- The flag is up if there was a report since the last reset. -/
theorem hadError_iff (w : Writer) (ops : List Op) :
    (after w ops).hadError = true ↔
      ∃ before line message, Since .reset ops before (.report line message) := by
  have hstep (ops : List Op) (op : Op) : (after w (ops ++ [op])).hadError = true ↔
      (∃ line message, op = .report line message ∧ True) ∨
        op ≠ .reset ∧ (after w ops).hadError = true := by
    rw [after_concat]
    cases op <;> simp [perform, reset, take, clearFailure, configure]
  simpa only [and_true] using iff_exists_since (fun ops => (after w ops).hadError = true)
    (fun _ _ _ => True) Bool.false_ne_true hstep ops

/-- The failure kept behind one more operation. -/
theorem failure_concat (w : Writer) (ops : List Op) (op : Op) :
    (after w (ops ++ [op])).failure =
      match op with
      | .report line message => (after w ops).failure.or (fault? w ops line message)
      | .take => none
      | .reset | .configure _ => (after w ops).failure := by
  rw [after_concat]
  cases op <;> rfl

/-- Something is kept if a report since the last take failed. -/
theorem failure_ne_none_iff (w : Writer) (ops : List Op) :
    (after w ops).failure ≠ none ↔
      ∃ before line message, Since .take ops before (.report line message) ∧
        fault? w before line message ≠ none := by
  have hstep (ops : List Op) (op : Op) : (after w (ops ++ [op])).failure ≠ none ↔
      (∃ line message, op = .report line message ∧ fault? w ops line message ≠ none) ∨
        op ≠ .take ∧ (after w ops).failure ≠ none := by
    rw [failure_concat]
    cases op with
    | report line message => cases (after w ops).failure <;> simp
    | reset | take | configure settings => simp
  exact iff_exists_since (fun ops => (after w ops).failure ≠ none)
    (fun before line message => fault? w before line message ≠ none) (fun h => h rfl) hstep ops

/-- What is kept is the failure of a report before which nothing was kept. -/
theorem failure_eq_some_iff (w : Writer) (ops : List Op) (cause : Failure) :
    (after w ops).failure = some cause ↔
      ∃ before line message, Since .take ops before (.report line message) ∧
        (after w before).failure = none ∧ fault? w before line message = some cause := by
  have hstep (ops : List Op) (op : Op) : (after w (ops ++ [op])).failure = some cause ↔
      (∃ line message, op = .report line message ∧
        (after w ops).failure = none ∧ fault? w ops line message = some cause) ∨
        op ≠ .take ∧ (after w ops).failure = some cause := by
    rw [failure_concat]
    cases op with
    | report line message => cases (after w ops).failure <;> simp
    | reset | take | configure settings => simp
  exact iff_exists_since (fun ops => (after w ops).failure = some cause)
    (fun before line message =>
      (after w before).failure = none ∧ fault? w before line message = some cause)
    (fun h => by cases h) hstep ops

/-- **A reporter at any time**: its flag is up if something was reported since the last reset; a
take gives the fault of the first report since the last take that could not be written, if there is
one; and what the next report does to the writer is an attempt to write its line. -/
theorem state_after (w : Writer) (ops : List Op) :
    ((after w ops).hadError = true ↔
      ∃ before line message, Since .reset ops before (.report line message)) ∧
    (∀ cause, (after w ops).take.1 = some cause ↔
      ∃ before line message, Since .take ops before (.report line message) ∧
        fault? w before line message = some cause ∧
        ∀ earlier line message, Since .take before earlier (.report line message) →
          fault? w earlier line message = none) ∧
    ((after w ops).take.1 = none ↔
      ∀ before line message, Since .take ops before (.report line message) →
        fault? w before line message = none) ∧
    ∀ line message, Attempt (after w ops).writer
      ("[line " ++ line.repr ++ "] Error: " ++ message ++ "\n")
      (after w (ops ++ [.report line message])).writer (fault? w ops line message) := by
  have hnone (ops : List Op) : (after w ops).failure = none ↔
      ∀ before line message, Since .take ops before (.report line message) →
        fault? w before line message = none := by
    rw [← not_iff_not, ← ne_eq, failure_ne_none_iff]
    push Not
    rfl
  refine ⟨hadError_iff w ops, fun cause => ?_, hnone ops, fun line message => ?_⟩
  · rw [take, failure_eq_some_iff]
    simp only [hnone, and_comm]
  · rw [after_concat]
    exact attempt_write _ _

example : (after ⟨.empty, ⟨some 9, .noSpace, false⟩⟩
      [.report 1 "a", .reset, .configure ⟨some 0, .closed, false⟩, .report 2 "b"]).take.1 =
    some .noSpace := by
  decide +kernel

end Reporter

end LoxLexer
