import LoxLexer.Stream.Failure

/-! # Input by lines

An input is a run of bytes that ends or, instead of ending, fails. It is read line by line; a line
reaches up to and including its newline, and the last one may do without. If the input fails, what
was read of an unfinished line is lost.

* `Input.flatten_cutLines`: cutting loses nothing.
-/

set_option autoImplicit false

namespace LoxLexer

structure Input where
  bytes : ByteArray
  /-- What the input fails with where it would end. -/
  fault : Option Failure := none

namespace Input

def newline : UInt8 := 10

/-- Cut bytes behind each newline. -/
def cutLines (bytes : List UInt8) : List (List UInt8) :=
  match _h : bytes.dropWhile (· != newline) with
  | [] => if bytes.isEmpty then [] else [bytes]
  | _ :: rest => (bytes.takeWhile (· != newline) ++ [newline]) :: cutLines rest
termination_by bytes.length
decreasing_by
  have := (List.dropWhile_sublist (l := bytes) (· != newline)).length_le
  rw [_h, List.length_cons] at this
  omega

theorem flatten_cutLines (bytes : List UInt8) : (cutLines bytes).flatten = bytes := by
  fun_induction cutLines bytes with
  | case1 bytes _ h => simp_all
  | case2 bytes _ h => simp
  | case3 bytes c rest hd ih =>
    have hc : c = newline := by
      have := List.head?_dropWhile_not (· != newline) bytes
      rw [hd] at this
      simpa using this
    have h := List.takeWhile_append_dropWhile (p := (· != newline)) (l := bytes)
    rw [hd, hc] at h
    simp [ih, h]

def isFinished (line : List UInt8) : Bool := line.getLast? == some newline

/-- The lines that can be read before the input ends or fails. -/
def lines (i : Input) : List (List UInt8) :=
  let all := cutLines i.bytes.data.toList
  if i.fault.isSome then all.filter isFinished else all

/-- The text of some bytes, if they are valid UTF-8. -/
def text? (bytes : List UInt8) : Option String := String.fromUTF8? bytes.toByteArray

end Input

end LoxLexer
