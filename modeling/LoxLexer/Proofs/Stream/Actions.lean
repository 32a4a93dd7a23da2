import LoxLexer.Proofs.Stream.Writer

/-! # Actions on two streams

Whatever is done to an output stream and an error stream is a row of actions that does not depend
on them: reports, prints, flushes, and reads that fail. A row is carried out up to the first action
that fails (`Streams.carryOut`). So what reaches the streams is what an initial part of the row
writes, and the failure is one that struck there (`exists_done`); a row whose texts fit is carried
out whole (`carryOut_of_fits`), else a stream is filled (`exists_kept`). Neither what stands behind a
failure matters (`carryOut_append_of_failure`) nor the pieces in which a text is written
(`carryOut_pieces`).
-/

set_option autoImplicit false

namespace LoxLexer

structure Streams where
  out : Writer
  err : Writer

inductive Action where
  /-- Write to the error stream. -/
  | report (text : String)
  /-- Write to the output stream. -/
  | print (text : String)
  /-- Flush the output stream. -/
  | flush
  | readFails (cause : Failure)

namespace Action

def printed : Action → String
  | print text => text
  | report _ | flush | readFails _ => ""

def reported : Action → String
  | report text => text
  | print _ | flush | readFails _ => ""

/-- What actions in a row print. -/
def printedBy (as : List Action) : String := String.join (as.map printed)

/-- What actions in a row report. -/
def reportedBy (as : List Action) : String := String.join (as.map reported)

@[simp] theorem printedBy_nil : printedBy [] = "" := rfl

@[simp] theorem reportedBy_nil : reportedBy [] = "" := rfl

@[simp] theorem printedBy_cons (a : Action) (as : List Action) :
    printedBy (a :: as) = a.printed ++ printedBy as := by
  simp [printedBy]

@[simp] theorem reportedBy_cons (a : Action) (as : List Action) :
    reportedBy (a :: as) = a.reported ++ reportedBy as := by
  simp [reportedBy]

@[simp] theorem printedBy_append (as bs : List Action) :
    printedBy (as ++ bs) = printedBy as ++ printedBy bs := by
  simp [printedBy]

@[simp] theorem reportedBy_append (as bs : List Action) :
    reportedBy (as ++ bs) = reportedBy as ++ reportedBy bs := by
  simp [reportedBy]

end Action

/-- The streams behind a row of actions, and the failure that ended it early. -/
structure Delivery where
  streams : Streams
  failure : Option Failure

namespace Streams

open LoxLexer.Action

/-! ## One action -/

def perform (x : Streams) : Action → Streams
  | .report text => { x with err := x.err.write text.toUTF8 }
  | .print text => { x with out := x.out.write text.toUTF8 }
  | .flush | .readFails _ => x

def failure? (x : Streams) : Action → Option Failure
  | .report text => x.err.writeFailure? text.toUTF8
  | .print text => x.out.writeFailure? text.toUTF8
  | .flush => x.out.flushFailure?
  | .readFails cause => some cause

/-- The streams behind attempts to write a text to each. -/
def receive (x : Streams) (printed reported : String) : Streams :=
  ⟨x.out.write printed.toUTF8, x.err.write reported.toUTF8⟩

@[simp] theorem receive_empty (x : Streams) : x.receive "" "" = x := by
  show Streams.mk (x.out.write .empty) (x.err.write .empty) = x
  rw [Writer.write_empty, Writer.write_empty]

theorem receive_receive (x : Streams) (p p' r r' : String) :
    (x.receive p r).receive p' r' = x.receive (p ++ p') (r ++ r') := by
  simp only [receive, Writer.write_write, String.toUTF8, String.toByteArray_append]

/-- An action writes what it prints and what it reports. -/
theorem perform_eq (x : Streams) (a : Action) : x.perform a = x.receive a.printed a.reported := by
  have hout : x.out.write ("" : String).toUTF8 = x.out := x.out.write_empty
  have herr : x.err.write ("" : String).toUTF8 = x.err := x.err.write_empty
  cases a <;> simp only [perform, receive, Action.printed, Action.reported, hout, herr]

/-! ## Actions in a row -/

/-- Carry actions out up to the first that fails. -/
def carryOut (x : Streams) : List Action → Delivery
  | [] => ⟨x, none⟩
  | a :: as =>
    match x.failure? a with
    | some cause => ⟨x.perform a, some cause⟩
    | none => (x.perform a).carryOut as

theorem carryOut_cons_of_failure {x : Streams} {a : Action} {cause : Failure}
    (h : x.failure? a = some cause) (as : List Action) :
    x.carryOut (a :: as) = ⟨x.perform a, some cause⟩ := by
  simp only [carryOut, h]

theorem carryOut_cons_of_none {x : Streams} {a : Action} (h : x.failure? a = none)
    (as : List Action) : x.carryOut (a :: as) = (x.perform a).carryOut as := by
  simp only [carryOut, h]

theorem carryOut_single (x : Streams) (a : Action) :
    (x.carryOut [a]).streams = x.perform a ∧ (x.carryOut [a]).failure = x.failure? a := by
  cases h : x.failure? a with
  | some cause => simp only [carryOut_cons_of_failure h, and_self]
  | none =>
    rw [carryOut_cons_of_none h]
    exact ⟨rfl, rfl⟩

/-- A row behind one that was carried out. -/
theorem carryOut_append_of_none {x : Streams} {as : List Action}
    (h : (x.carryOut as).failure = none) (bs : List Action) :
    x.carryOut (as ++ bs) = (x.carryOut as).streams.carryOut bs := by
  induction as generalizing x with
  | nil => rfl
  | cons a as ih =>
    cases ha : x.failure? a with
    | some cause =>
      rw [carryOut_cons_of_failure ha] at h
      cases h
    | none =>
      rw [carryOut_cons_of_none ha] at h
      rw [List.cons_append, carryOut_cons_of_none ha, carryOut_cons_of_none ha, ih h]

/-- **What stands behind a failure does not matter.** -/
theorem carryOut_append_of_failure {x : Streams} {as : List Action} {cause : Failure}
    (h : (x.carryOut as).failure = some cause) (bs : List Action) :
    x.carryOut (as ++ bs) = x.carryOut as := by
  induction as generalizing x with
  | nil => cases h
  | cons a as ih =>
    cases ha : x.failure? a with
    | some cause => rw [List.cons_append, carryOut_cons_of_failure ha, carryOut_cons_of_failure ha]
    | none =>
      rw [carryOut_cons_of_none ha] at h
      rw [List.cons_append, carryOut_cons_of_none ha, carryOut_cons_of_none ha, ih h]

/-! ## Texts in pieces -/

theorem carryOut_cons_congr {as bs : List Action}
    (h : ∀ x : Streams, x.carryOut as = x.carryOut bs) (x : Streams) (a : Action) :
    x.carryOut (a :: as) = x.carryOut (a :: bs) := by
  cases ha : x.failure? a with
  | some cause => rw [carryOut_cons_of_failure ha, carryOut_cons_of_failure ha]
  | none => rw [carryOut_cons_of_none ha, carryOut_cons_of_none ha, h]

/-- The actions that hand a text to a stream. -/
inductive Writes : (String → Action) → Prop
  | report : Writes .report
  | print : Writes .print

section
variable {write : String → Action} (hw : Writes write)
include hw

theorem perform_write_write (x : Streams) (a b : String) :
    (x.perform (write a)).perform (write b) = x.perform (write (a ++ b)) := by
  rw [perform_eq, perform_eq, receive_receive, perform_eq]
  cases hw <;> rfl

theorem perform_write_of_failure {x : Streams} {a : String} {cause : Failure}
    (h : x.failure? (write a) = some cause) (b : String) :
    (x.perform (write a)).perform (write b) = x.perform (write a) := by
  cases hw with
  | report =>
    have hfull := Writer.write_of_failure (Option.ne_none_iff_exists'.2 ⟨cause, h⟩) b.toUTF8
    simp only [perform, hfull]
  | print =>
    have hfull := Writer.write_of_failure (Option.ne_none_iff_exists'.2 ⟨cause, h⟩) b.toUTF8
    simp only [perform, hfull]

theorem failure?_write_append (x : Streams) (a b : String) :
    x.failure? (write (a ++ b)) =
      (x.failure? (write a)).or ((x.perform (write a)).failure? (write b)) := by
  have hbytes : (a ++ b).toUTF8 = a.toUTF8 ++ b.toUTF8 := String.toByteArray_append
  cases hw with
  | report => exact (congrArg _ hbytes).trans (x.err.writeFailure?_append _ _)
  | print => exact (congrArg _ hbytes).trans (x.out.writeFailure?_append _ _)

/-- A text is written as two texts are that it consists of. -/
theorem carryOut_write_append (x : Streams) (a b : String) (as : List Action) :
    x.carryOut (write (a ++ b) :: as) = x.carryOut (write a :: write b :: as) := by
  have hboth := failure?_write_append hw x a b
  cases ha : x.failure? (write a) with
  | some cause =>
    rw [ha, Option.some_or] at hboth
    rw [carryOut_cons_of_failure hboth, carryOut_cons_of_failure ha, ← perform_write_write hw,
      perform_write_of_failure hw ha]
  | none =>
    rw [ha, Option.none_or] at hboth
    rw [carryOut_cons_of_none ha]
    cases hb : (x.perform (write a)).failure? (write b) with
    | some cause =>
      rw [carryOut_cons_of_failure (hboth.trans hb), carryOut_cons_of_failure hb,
        perform_write_write hw]
    | none =>
      rw [carryOut_cons_of_none (hboth.trans hb), carryOut_cons_of_none hb, perform_write_write hw]

/-- **The pieces in which a text is written do not matter.** -/
theorem carryOut_pieces (x : Streams) (texts : List String) (as : List Action) :
    x.carryOut (texts.map write ++ as) = x.carryOut (write (String.join texts) :: as) := by
  induction texts generalizing x with
  | nil =>
    have hnone : x.failure? (write "") = none := by
      cases hw with
      | report => exact x.err.writeFailure?_empty
      | print => exact x.out.writeFailure?_empty
    have hempty : x.perform (write "") = x := by
      rw [perform_eq]
      cases hw <;> exact receive_empty x
    have hgo := carryOut_cons_of_none hnone as
    rw [hempty] at hgo
    exact hgo.symm
  | cons text texts ih =>
    rw [List.map_cons, List.cons_append, String.join_cons, carryOut_write_append hw]
    exact carryOut_cons_congr ih x (write text)

end

/-! ## What is carried out -/

/-- There is room on the streams for all that the actions write. -/
structure Fits (x : Streams) (as : List Action) : Prop where
  out : x.out.writeFailure? (printedBy as).toUTF8 = none
  err : x.err.writeFailure? (reportedBy as).toUTF8 = none

/-- A failure that struck while `as` were carried out: one of their texts did not fit, a flush
failed, or a read did. -/
inductive Struck (x : Streams) (as : List Action) (cause : Failure) : Prop
  | print : x.out.writeFailure? (printedBy as).toUTF8 = some cause → Struck x as cause
  | report : x.err.writeFailure? (reportedBy as).toUTF8 = some cause → Struck x as cause
  | flush : x.out.flushFailure? = some cause → .flush ∈ as → Struck x as cause
  | read : .readFails cause ∈ as → Struck x as cause

theorem writeFailure?_append (w : Writer) (text more : String) :
    w.writeFailure? (text ++ more).toUTF8 =
      (w.writeFailure? text.toUTF8).or ((w.write text.toUTF8).writeFailure? more.toUTF8) := by
  rw [← Writer.writeFailure?_append]
  exact congrArg w.writeFailure? String.toByteArray_append

/-- No text of an action that does not fail is too long. -/
theorem fits_single {x : Streams} {a : Action} (h : x.failure? a = none) :
    x.out.writeFailure? a.printed.toUTF8 = none ∧ x.err.writeFailure? a.reported.toUTF8 = none := by
  cases a with
  | report text => exact ⟨x.out.writeFailure?_empty, h⟩
  | print text => exact ⟨h, x.err.writeFailure?_empty⟩
  | flush => exact ⟨x.out.writeFailure?_empty, x.err.writeFailure?_empty⟩
  | readFails cause => cases h

theorem fits_cons_iff {x : Streams} {a : Action} (h : x.failure? a = none) (as : List Action) :
    x.Fits (a :: as) ↔ (x.perform a).Fits as := by
  obtain ⟨hout, herr⟩ := fits_single h
  have hprinted : x.out.writeFailure? (printedBy (a :: as)).toUTF8 =
      (x.perform a).out.writeFailure? (printedBy as).toUTF8 := by
    rw [printedBy_cons, writeFailure?_append, hout, Option.none_or, perform_eq]
    rfl
  have hreported : x.err.writeFailure? (reportedBy (a :: as)).toUTF8 =
      (x.perform a).err.writeFailure? (reportedBy as).toUTF8 := by
    rw [reportedBy_cons, writeFailure?_append, herr, Option.none_or, perform_eq]
    rfl
  constructor
  · intro hf
    exact ⟨hprinted ▸ hf.out, hreported ▸ hf.err⟩
  · intro hf
    exact ⟨hprinted.trans hf.out, hreported.trans hf.err⟩

theorem Struck.cons {x : Streams} {a : Action} (h : x.failure? a = none) {as : List Action}
    {cause : Failure} (hs : Struck (x.perform a) as cause) : Struck x (a :: as) cause := by
  obtain ⟨hout, herr⟩ := fits_single h
  cases hs with
  | print hp =>
    refine .print ?_
    rw [printedBy_cons, writeFailure?_append, hout, Option.none_or]
    rwa [perform_eq] at hp
  | report hr =>
    refine .report ?_
    rw [reportedBy_cons, writeFailure?_append, herr, Option.none_or]
    rwa [perform_eq] at hr
  | flush hf hm =>
    refine .flush ?_ (List.mem_cons_of_mem a hm)
    rwa [perform_eq] at hf
  | read hm => exact .read (List.mem_cons_of_mem a hm)

theorem struck_single {x : Streams} {a : Action} {cause : Failure}
    (h : x.failure? a = some cause) : Struck x [a] cause := by
  cases a with
  | report text =>
    refine .report ?_
    rw [reportedBy_cons, reportedBy_nil, String.append_empty]
    exact h
  | print text =>
    refine .print ?_
    rw [printedBy_cons, printedBy_nil, String.append_empty]
    exact h
  | flush => exact .flush h List.mem_cons_self
  | readFails c =>
    obtain rfl : c = cause := Option.some.inj h
    exact .read List.mem_cons_self

/-- **An initial part of a row is carried out**: the whole row and without a failure, or a part
that a failure struck. -/
theorem exists_done (as : List Action) (x : Streams) :
    ∃ done, done <+: as ∧
      (x.carryOut as).streams = x.receive (printedBy done) (reportedBy done) ∧
      match (x.carryOut as).failure with
      | none => done = as ∧ x.Fits as
      | some cause => Struck x done cause := by
  induction as generalizing x with
  | nil =>
    exact ⟨[], List.prefix_refl _, (receive_empty x).symm, rfl, x.out.writeFailure?_empty,
      x.err.writeFailure?_empty⟩
  | cons a as ih =>
    cases ha : x.failure? a with
    | some cause =>
      refine ⟨[a], by simp, ?_, ?_⟩
      · rw [carryOut_cons_of_failure ha, perform_eq]
        simp
      · rw [carryOut_cons_of_failure ha]
        exact struck_single ha
    | none =>
      obtain ⟨done, hprefix, hstreams, hfailure⟩ := ih (x.perform a)
      refine ⟨a :: done, List.cons_prefix_cons.2 ⟨rfl, hprefix⟩, ?_, ?_⟩
      · rw [carryOut_cons_of_none ha, hstreams, perform_eq, receive_receive, printedBy_cons,
          reportedBy_cons]
      · rw [carryOut_cons_of_none ha]
        cases hf : ((x.perform a).carryOut as).failure with
        | none =>
          rw [hf] at hfailure
          obtain ⟨rfl, hfits⟩ := hfailure
          exact ⟨rfl, (fits_cons_iff ha _).2 hfits⟩
        | some cause =>
          rw [hf] at hfailure
          exact hfailure.cons ha

/-! ## Running out of room

Where no flush and no read fails, all that can fail is a stream that has no room for its text. -/

section
variable {x : Streams} {as : List Action} (hflush : x.out.flushFailure? = none)
  (hread : ∀ cause, .readFails cause ∉ as)
include hflush hread

/-- **A row that fits is carried out whole.** -/
theorem carryOut_of_fits (h : x.Fits as) :
    x.carryOut as = ⟨x.receive (printedBy as) (reportedBy as), none⟩ := by
  obtain ⟨done, hprefix, hstreams, hfailure⟩ := exists_done as x
  cases hf : (x.carryOut as).failure with
  | none =>
    rw [hf] at hfailure
    obtain ⟨rfl, -⟩ := hfailure
    rw [← hstreams, ← hf]
  | some cause =>
    rw [hf] at hfailure
    obtain ⟨more, rfl⟩ := hprefix
    obtain ⟨hout, herr⟩ := h
    rw [printedBy_append, writeFailure?_append] at hout
    rw [reportedBy_append, writeFailure?_append] at herr
    cases hfailure with
    | print hp =>
      rw [hp] at hout
      cases hout
    | report hr =>
      rw [hr] at herr
      cases herr
    | flush hf =>
      rw [hflush] at hf
      cases hf
    | read hm => exact absurd (List.mem_append_left more hm) (hread cause)

theorem failure_carryOut_eq_none_iff : (x.carryOut as).failure = none ↔ x.Fits as := by
  constructor
  · intro h
    obtain ⟨done, -, -, hdone⟩ := x.exists_done as
    rw [h] at hdone
    exact hdone.1 ▸ hdone.2
  · intro h
    rw [carryOut_of_fits hflush hread h]

/-- **What streams keep of a row** is a beginning of its texts: all of them, or as much as fills the
stream that fails. -/
theorem exists_kept :
    ∃ out err outRest errRest,
      (x.carryOut as).streams.out.accepted = x.out.accepted ++ out ∧
      (x.carryOut as).streams.err.accepted = x.err.accepted ++ err ∧
      (printedBy as).toUTF8 = out ++ outRest ∧ (reportedBy as).toUTF8 = err ++ errRest ∧
      match (x.carryOut as).failure with
      | none => out = (printedBy as).toUTF8 ∧ err = (reportedBy as).toUTF8
      | some cause =>
        cause = x.out.settings.fault ∧ x.out.settings.room = some out.size ∧
            out.size < (printedBy as).toUTF8.size ∨
          cause = x.err.settings.fault ∧ x.err.settings.room = some err.size ∧
            err.size < (reportedBy as).toUTF8.size := by
  obtain ⟨done, ⟨more, hmore⟩, hstreams, hfailure⟩ := x.exists_done as
  obtain ⟨out, outRest, hout, houtKept, houtFull⟩ := x.out.exists_kept (printedBy done).toUTF8
  obtain ⟨err, errRest, herr, herrKept, herrFull⟩ := x.err.exists_kept (reportedBy done).toUTF8
  have hprinted : (printedBy as).toUTF8 = (printedBy done).toUTF8 ++ (printedBy more).toUTF8 := by
    rw [← hmore, printedBy_append]
    exact String.toByteArray_append
  have hreported : (reportedBy as).toUTF8 =
      (reportedBy done).toUTF8 ++ (reportedBy more).toUTF8 := by
    rw [← hmore, reportedBy_append]
    exact String.toByteArray_append
  have houtSize := congrArg ByteArray.size hprinted
  have herrSize := congrArg ByteArray.size hreported
  rw [ByteArray.size_append] at houtSize herrSize
  refine ⟨out, err, outRest ++ (printedBy more).toUTF8, errRest ++ (reportedBy more).toUTF8,
    (congrArg (·.out.accepted) hstreams).trans houtKept,
    (congrArg (·.err.accepted) hstreams).trans herrKept, ?_, ?_, ?_⟩
  · rw [hprinted, ← ByteArray.append_assoc, ← hout]
  · rw [hreported, ← ByteArray.append_assoc, ← herr]
  · cases hf : (x.carryOut as).failure with
    | none =>
      rw [hf] at hfailure
      obtain ⟨rfl, hfits⟩ := hfailure
      rw [hfits.out] at houtFull
      rw [hfits.err] at herrFull
      exact ⟨houtFull, herrFull⟩
    | some cause =>
      rw [hf] at hfailure
      cases hfailure with
      | print hp =>
        rw [hp] at houtFull
        obtain ⟨hcause, hroom, hless⟩ := houtFull
        exact .inl ⟨hcause, hroom, by omega⟩
      | report hr =>
        rw [hr] at herrFull
        obtain ⟨hcause, hroom, hless⟩ := herrFull
        exact .inr ⟨hcause, hroom, by omega⟩
      | flush hf =>
        rw [hflush] at hf
        cases hf
      | read hm => exact absurd (hmore ▸ List.mem_append_left more hm) (hread cause)

end

end Streams

end LoxLexer
