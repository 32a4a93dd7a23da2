import LoxLexer.Stream.Failure

/-! # Writers that may fail

A writer keeps the bytes it accepts. It may have room for only so many, and then fails on the
first byte too many with its fault; the bytes before that one are kept. Writing nothing never
fails.

* `Writer.accepted_write`: a write adds the bytes that there is room for.
* `Writer.writeFailure?_eq_none_iff`: it succeeds when there is room for all of them.
-/

set_option autoImplicit false

namespace LoxLexer

namespace Writer

/-- How a writer behaves from now on. -/
structure Settings where
  /-- How many more bytes are accepted; there is no limit without it. -/
  room : Option Nat := none
  fault : Failure := .closed
  /-- Whether every flush fails, too. -/
  failsFlush : Bool := false

end Writer

structure Writer where
  accepted : ByteArray := .empty
  settings : Writer.Settings := {}

namespace Writer

def configure (w : Writer) (settings : Settings) : Writer := { w with settings := settings }

/-- How many of `n` bytes there is room for. -/
def Settings.taken (s : Settings) (n : Nat) : Nat :=
  match s.room with
  | none => n
  | some r => min n r

/-- What remains after `n` bytes were accepted. -/
def Settings.spend (s : Settings) (n : Nat) : Settings :=
  { s with room := s.room.map (· - n) }

/-- The writer after an attempt to write all of `bytes`. -/
def write (w : Writer) (bytes : ByteArray) : Writer :=
  let n := w.settings.taken bytes.size
  { accepted := w.accepted ++ bytes.extract 0 n, settings := w.settings.spend n }

/-- The failure of writing all of `bytes`. -/
def writeFailure? (w : Writer) (bytes : ByteArray) : Option Failure :=
  if w.settings.taken bytes.size = bytes.size then none else some w.settings.fault

def flushFailure? (w : Writer) : Option Failure :=
  if w.settings.failsFlush then some w.settings.fault else none

theorem accepted_write (w : Writer) (bytes : ByteArray) :
    (w.write bytes).accepted = w.accepted ++ bytes.extract 0 (w.settings.taken bytes.size) :=
  rfl

theorem writeFailure?_eq_none_iff (w : Writer) (bytes : ByteArray) :
    w.writeFailure? bytes = none ↔ ∀ r, w.settings.room = some r → bytes.size ≤ r := by
  unfold writeFailure? Settings.taken
  cases w.settings.room with
  | none => simp
  | some r =>
    simp only [ite_eq_left_iff, reduceCtorEq, imp_false, Decidable.not_not, Option.some.injEq,
      forall_eq']
    omega

theorem accepted_write_of_none {w : Writer} (h : w.settings.room = none) (bytes : ByteArray) :
    (w.write bytes).accepted = w.accepted ++ bytes := by
  simp [accepted_write, Settings.taken, h]

end Writer

end LoxLexer
