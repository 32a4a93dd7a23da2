import LoxLexer.Proofs.Session.Prompt
import LoxLexer.Proofs.Stream.Input
import Mathlib.Data.Nat.Find

/-! # Prompts with limited streams

Streams that run out of room only cut a prompt short. `runPrompt_limited` compares a prompt whose
streams take everything with one whose streams take so many bytes each: what is written is the
beginning of what would be; if there is room for all of it nothing else changes; and if there is
not, then the prompt fails with the fault of a stream that is filled to its limit, and no line that
was not reached by then has a part in it.
-/

set_option autoImplicit false

namespace LoxLexer

namespace Session

/-! ## Limits -/

/-- How many more bytes each stream takes, and what it fails with then. -/
structure Limits where
  out : Nat
  err : Nat
  outFault : Failure
  errFault : Failure

def limited (s : Session) (l : Limits) : Session :=
  (s.configureOut { room := some l.out, fault := l.outFault }).configureErr
    { room := some l.err, fault := l.errFault }

variable {s : Session}

/-- Limited streams carry a row of writes out if and only if there is room for its texts. -/
theorem failure_limited_iff (s : Session) (l : Limits) {as : List Action}
    (hread : ∀ cause, .readFails cause ∉ as) :
    ((s.limited l).streams.carryOut as).failure = none ↔
      (Action.printedBy as).toUTF8.size ≤ l.out ∧ (Action.reportedBy as).toUTF8.size ≤ l.err := by
  have hlimit : ∀ (w : Writer) (room : Nat) (fault : Failure) (bytes : ByteArray),
      (w.configure { room := some room, fault }).writeFailure? bytes = none ↔
        bytes.size ≤ room := by
    intro w room fault bytes
    rw [Writer.writeFailure?_eq_none_iff]
    simp [Writer.configure]
  rw [Streams.failure_carryOut_eq_none_iff rfl hread]
  constructor
  · intro h
    exact ⟨(hlimit _ _ _ _).1 h.out, (hlimit _ _ _ _).1 h.err⟩
  · intro h
    exact ⟨(hlimit _ _ _ _).2 h.1, (hlimit _ _ _ _).2 h.2⟩

/-! ## Lines that are reached -/

/-- **The lines behind a failure have no part in it.** The number of lines that are reached is the
least for which writing fails if the input ends behind them. -/
theorem exists_reached (hs : s.Settled) {input : Input} {cause : Failure}
    (h : (s.streams.carryOut (promptWrites input.lines)).failure = some cause) :
    ∃ k, (∀ j < k, (s.runPrompt (input.take j)).failure = none) ∧
      ∀ other : Input, other.lines.take k = input.lines.take k →
        (s.runPrompt other).failure = some cause ∧
        (s.runPrompt other).session.streams = (s.runPrompt input).session.streams := by
  classical
  have hlast : (s.streams.carryOut (promptWrites
      (input.lines.take (commands input.lines).length))).failure ≠ none := by
    rw [promptWrites, commands_take, ← promptWrites, h]
    exact Option.some_ne_none cause
  have hex : ∃ k, (s.streams.carryOut (promptWrites (input.lines.take k))).failure ≠ none :=
    ⟨_, hlast⟩
  have hle : Nat.find hex ≤ (commands input.lines).length := Nat.find_min' hex hlast
  refine ⟨Nat.find hex, fun j hj => ?_, ?_⟩
  · have hnone := not_not.1 (Nat.find_min hex hj)
    have hread := readFailure?_append (isSome_command?_of_mem_take (hj.le.trans hle)) none []
    rw [List.append_nil] at hread
    rw [failure_runPrompt hs, Input.lines_take, hnone, Option.none_or]
    exact hread
  · obtain ⟨reached, hreached⟩ := Option.ne_none_iff_exists'.1 (Nat.find_spec hex)
    -- what is written for the lines that are reached fails, so nothing behind it is written
    have hsame : ∀ other : Input, other.lines.take (Nat.find hex) =
        input.lines.take (Nat.find hex) → s.streams.carryOut (promptWrites other.lines) =
          s.streams.carryOut (promptWrites (input.lines.take (Nat.find hex))) := by
      intro other hother
      obtain ⟨more, hmore⟩ := promptWrites_prefix (isSome_command?_of_mem_take hle)
        (other.lines.drop (Nat.find hex))
      rw [← hother, List.take_append_drop, hother] at hmore
      rw [← hmore, Streams.carryOut_append_of_failure hreached]
    intro other hother
    rw [failure_runPrompt hs, streams_runPrompt hs, streams_runPrompt hs, hsame other hother,
      ← hsame input rfl, h]
    exact ⟨rfl, rfl⟩

/-- **Limits only cut a prompt short.** Compared with streams that never fail, what is written is a
beginning of what would be. With room for all of that the prompt ends as it would. Without, it fails
with the fault of a stream that had no room and is filled, and what the input has behind the lines
that were reached by then leaves no trace. -/
theorem runPrompt_limited (hs : s.Settled) (l : Limits) (input : Input) :
    let whole := s.unlimited.runPrompt input
    let cut := (s.limited l).runPrompt input
    ∃ out err out' err' outRest errRest : ByteArray,
      Wrote s whole.session out err ∧ Wrote s cut.session out' err' ∧
      out = out' ++ outRest ∧ err = err' ++ errRest ∧
      (out.size ≤ l.out ∧ err.size ≤ l.err →
        out' = out ∧ err' = err ∧ cut.failure = whole.failure) ∧
      (¬ (out.size ≤ l.out ∧ err.size ≤ l.err) →
        (cut.failure = some l.outFault ∧ l.out < out.size ∧ out'.size = l.out ∨
          cut.failure = some l.errFault ∧ l.err < err.size ∧ err'.size = l.err) ∧
        ∃ k, (∀ j < k, ((s.limited l).runPrompt (input.take j)).failure = none) ∧
          ∀ other : Input, other.lines.take k = input.lines.take k →
            ((s.limited l).runPrompt other).failure = cut.failure ∧
            ((s.limited l).runPrompt other).session.streams = cut.session.streams) := by
  intro whole cut
  have hread := readFails_not_mem_promptWrites input.lines
  obtain ⟨hwhole, hwholeFailure⟩ := runPrompt_unlimited hs input
  obtain ⟨out', err', outRest, errRest, hout, herr, houtRest, herrRest, hkept⟩ :=
    Streams.exists_kept (x := (s.limited l).streams) rfl hread
  have hcutStreams : cut.session.streams = _ := streams_runPrompt (s := s.limited l) hs input
  have hcutFailure : cut.failure = _ := failure_runPrompt (s := s.limited l) hs input
  refine ⟨_, _, out', err', outRest, errRest, hwhole,
    ⟨(congrArg (·.out.accepted) hcutStreams).trans hout,
      (congrArg (·.err.accepted) hcutStreams).trans herr⟩, houtRest, herrRest, ?_, ?_⟩
  · intro hroom
    have hnone := (failure_limited_iff s l hread).2 hroom
    rw [hnone] at hkept hcutFailure
    exact ⟨hkept.1, hkept.2, hcutFailure.trans hwholeFailure.symm⟩
  · intro hfull
    cases hf : ((s.limited l).streams.carryOut (promptWrites input.lines)).failure with
    | none => exact absurd ((failure_limited_iff s l hread).1 hf) hfull
    | some cause =>
      rw [hf] at hkept hcutFailure
      have hcause : cut.failure = some cause := hcutFailure
      constructor
      · obtain ⟨rfl, hroom, hless⟩ | ⟨rfl, hroom, hless⟩ := hkept
        · have hsize : out'.size = l.out := (Option.some.inj hroom).symm
          exact .inl ⟨hcause, hsize ▸ hless, hsize⟩
        · have hsize : err'.size = l.err := (Option.some.inj hroom).symm
          exact .inr ⟨hcause, hsize ▸ hless, hsize⟩
      · rw [hcause]
        exact exists_reached (s := s.limited l) hs hf

/-- The report of a line is cut off behind five bytes, and the lines behind that one do not
matter. -/
theorem runPrompt_limited_in_report :
    let s : Session := {}
    let limits : Limits := ⟨100, 5, .closed, .noSpace⟩
    let input : Input := { bytes := "1\n@\n2".toUTF8 }
    let cut := (s.limited limits).runPrompt input
    s.Settled ∧ cut.failure = some .noSpace ∧
      ∃ out err, s.Wrote cut.session out err ∧ err.size = 5 ∧
        ∃ k, ∀ other : Input, other.lines.take k = input.lines.take k →
          ((s.limited limits).runPrompt other).session.streams = cut.session.streams := by
  intro s limits input cut
  have hs : s.Settled := rfl
  have hcut : cut.failure = some .noSpace := by decide +kernel
  have hwhole : (s.unlimited.runPrompt input).failure = none := by decide +kernel
  obtain ⟨_, _, out, err, _, _, _, hwrote, _, _, hroom, hfull⟩ := runPrompt_limited hs limits input
  refine ⟨hs, hcut, out, err, hwrote, ?_⟩
  obtain ⟨hcause, k, -, hk⟩ := hfull fun hfits => by
    have hsame : cut.failure = _ := (hroom hfits).2.2
    rw [hcut, hwhole] at hsame
    cases hsame
  obtain ⟨hclosed, -⟩ | ⟨-, -, hsize⟩ := hcause
  · have habsurd : some limits.outFault = some Failure.noSpace := hclosed.symm.trans hcut
    exact absurd habsurd (by decide)
  · exact ⟨hsize, k, fun other hother => (hk other hother).2⟩

end Session

end LoxLexer
