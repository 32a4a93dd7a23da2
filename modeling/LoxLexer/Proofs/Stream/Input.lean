import LoxLexer.Stream.Input
import Mathlib.Data.List.TakeWhile

/-! # Lines of an input

Where lines are cut is seen from the lines: each ends at its first newline, and only the last may do
without one (`Input.Cut`). Lines of this form are those of the bytes that they are joined to
(`cutLines_flatten`), so that there is an input with any first lines of another (`lines_take`), and
the lines of a text in UTF-8 are the lines of its characters, since no other character has a byte
that looks like a newline (`cutLines_utf8_append`).
-/

set_option autoImplicit false

namespace LoxLexer.Input

/-! ## Where lines are cut -/

theorem cutLines_append_newline {line : List UInt8} (h : newline ∉ line) (rest : List UInt8) :
    cutLines (line ++ newline :: rest) = (line ++ [newline]) :: cutLines rest := by
  have hpos : ∀ b ∈ line, (b != newline) = true := fun b hb => by
    simpa using fun he : b = newline => h (he ▸ hb)
  have hdrop : (line ++ newline :: rest).dropWhile (· != newline) = newline :: rest := by
    rw [List.dropWhile_append_of_pos hpos]
    simp
  have htake : (line ++ newline :: rest).takeWhile (· != newline) = line := by
    rw [List.takeWhile_append_of_pos hpos]
    simp
  rw [cutLines]
  split
  · next hd =>
    rw [hdrop] at hd
    cases hd
  · next b more hd =>
    rw [hdrop] at hd
    obtain ⟨-, rfl⟩ := List.cons.inj hd
    rw [htake]

theorem cutLines_unfinished {line : List UInt8} (h : newline ∉ line) :
    cutLines line = if line = [] then [] else [line] := by
  have hdrop : line.dropWhile (· != newline) = [] := by
    rw [List.dropWhile_eq_nil_iff]
    intro b hb
    simpa using fun he : b = newline => h (he ▸ hb)
  rw [cutLines]
  split
  · simp
  · next hd =>
    rw [hdrop] at hd
    cases hd

theorem isFinished_append_newline (line : List UInt8) : isFinished (line ++ [newline]) = true := by
  simp [isFinished]

theorem isFinished_eq_false {line : List UInt8} (h : newline ∉ line) : isFinished line = false := by
  rw [isFinished, beq_eq_false_iff_ne]
  exact fun he => h (List.mem_of_getLast? he)

/-- Lines as they are cut. -/
inductive Cut : List (List UInt8) → Prop
  | nil : Cut []
  | unfinished {line : List UInt8} : line ≠ [] → newline ∉ line → Cut [line]
  | finished {line : List UInt8} {lines : List (List UInt8)} : newline ∉ line → Cut lines →
      Cut ((line ++ [newline]) :: lines)

theorem cut_cutLines (bytes : List UInt8) : Cut (cutLines bytes) := by
  fun_induction cutLines bytes with
  | case1 => exact .nil
  | case2 bytes hd hne =>
    refine .unfinished (by simpa using hne) fun hmem => ?_
    simpa using List.dropWhile_eq_nil_iff.1 hd _ hmem
  | case3 bytes b rest hd ih =>
    refine .finished (fun hmem => ?_) ih
    simpa using List.mem_takeWhile_imp hmem

/-- **Lines as they are cut are those of the bytes that they make up.** -/
theorem cutLines_flatten {lines : List (List UInt8)} (h : Cut lines) :
    cutLines lines.flatten = lines := by
  induction h with
  | nil => exact cutLines_unfinished List.not_mem_nil
  | @unfinished line hne hline =>
    rw [List.flatten_cons, List.flatten_nil, List.append_nil, cutLines_unfinished hline, if_neg hne]
  | @finished line lines hline _ ih =>
    rw [List.flatten_cons, List.append_assoc, List.singleton_append, cutLines_append_newline hline,
      ih]

theorem Cut.take {lines : List (List UInt8)} (h : Cut lines) (n : Nat) : Cut (lines.take n) := by
  induction h generalizing n with
  | nil =>
    rw [List.take_nil]
    exact .nil
  | unfinished hne hline =>
    cases n with
    | zero => exact .nil
    | succ n =>
      rw [List.take_succ_cons, List.take_nil]
      exact .unfinished hne hline
  | finished hline _ ih =>
    cases n with
    | zero => exact .nil
    | succ n => exact .finished hline (ih n)

theorem Cut.finishedLines {lines : List (List UInt8)} (h : Cut lines) :
    Cut (lines.filter isFinished) := by
  induction h with
  | nil => exact .nil
  | unfinished hne hline =>
    rw [List.filter_cons_of_neg (by simp [isFinished_eq_false hline])]
    exact .nil
  | finished hline _ ih =>
    rw [List.filter_cons_of_pos (isFinished_append_newline _)]
    exact .finished hline ih

theorem cut_lines (i : Input) : Cut i.lines := by
  unfold lines
  split
  · exact (cut_cutLines _).finishedLines
  · exact cut_cutLines _

/-- The input that ends behind the first `n` lines. -/
def take (i : Input) (n : Nat) : Input := { bytes := (i.lines.take n).flatten.toByteArray }

@[simp] theorem lines_take (i : Input) (n : Nat) : (i.take n).lines = i.lines.take n := by
  show cutLines (i.lines.take n).flatten.toByteArray.data.toList = i.lines.take n
  rw [List.toList_data_toByteArray, cutLines_flatten (i.cut_lines.take n)]

/-! ## Lines of a text -/

/-- The bytes of some characters. -/
def utf8 (cs : List Char) : List UInt8 := cs.flatMap String.utf8EncodeChar

@[simp] theorem utf8_append (cs ds : List Char) : utf8 (cs ++ ds) = utf8 cs ++ utf8 ds :=
  List.flatMap_append

theorem toUTF8_toList (text : String) : text.toUTF8.data.toList = utf8 text.toList := by
  have hbytes : text.toUTF8 = (utf8 text.toList).toByteArray := by
    rw [String.toUTF8_eq_toByteArray, ← String.utf8Encode_toList]
    rfl
  rw [hbytes, List.toList_data_toByteArray]

/-- A byte that looks like a newline is one. -/
theorem newline_mem_utf8EncodeChar {c : Char} (h : newline ∈ String.utf8EncodeChar c) :
    c = '\n' := by
  have hbyte : ∀ n, newline = UInt8.ofNat n → n % 256 = 10 := fun n hn => by
    have := congrArg UInt8.toNat hn
    rw [UInt8.toNat_ofNat'] at this
    exact this.symm
  revert h
  fun_cases String.utf8EncodeChar c with
  | case1 v hv =>
    intro h
    have hn := hbyte _ (List.mem_singleton.1 h)
    apply Char.toNat_inj.1
    show v = 10
    omega
  | case2 v =>
    intro h
    simp only [List.mem_cons, List.not_mem_nil, or_false] at h
    rcases h with h | h <;> have hn := hbyte _ h <;> omega
  | case3 v =>
    intro h
    simp only [List.mem_cons, List.not_mem_nil, or_false] at h
    rcases h with h | h | h <;> have hn := hbyte _ h <;> omega
  | case4 v =>
    intro h
    simp only [List.mem_cons, List.not_mem_nil, or_false] at h
    rcases h with h | h | h | h <;> have hn := hbyte _ h <;> omega

theorem newline_not_mem_utf8 {cs : List Char} (h : '\n' ∉ cs) : newline ∉ utf8 cs := by
  intro hmem
  obtain ⟨c, hc, hbyte⟩ := List.mem_flatMap.1 hmem
  obtain rfl := newline_mem_utf8EncodeChar hbyte
  exact h hc

theorem toByteArray_utf8 (cs : List Char) : (utf8 cs).toByteArray = (String.ofList cs).toByteArray :=
  String.toByteArray_ofList.symm

/-- What was encoded is text. -/
theorem text?_utf8 (cs : List Char) : text? (utf8 cs) = some (String.ofList cs) := by
  have hvalid : (utf8 cs).toByteArray.IsValidUTF8 := ByteArray.isValidUTF8_utf8Encode
  rw [text?, String.fromUTF8?, dif_pos hvalid]
  exact congrArg some (String.toByteArray_inj.1 (toByteArray_utf8 cs))

/-- What is text was encoded. -/
theorem utf8_of_text? {bytes : List UInt8} {text : String} (h : text? bytes = some text) :
    utf8 text.toList = bytes := by
  unfold text? String.fromUTF8? at h
  split at h
  · obtain rfl := Option.some.inj h
    rw [← toUTF8_toList]
    exact List.toList_data_toByteArray
  · cases h

/-- **The lines of a text** are those of its characters, in bytes. -/
theorem cutLines_utf8_append {cs : List Char} (h : '\n' ∉ cs) (ds : List Char) :
    cutLines (utf8 (cs ++ '\n' :: ds)) = utf8 (cs ++ ['\n']) :: cutLines (utf8 ds) := by
  have hline : utf8 (cs ++ ['\n']) = utf8 cs ++ [newline] := utf8_append cs ['\n']
  have hbytes : utf8 (cs ++ '\n' :: ds) = utf8 cs ++ newline :: utf8 ds :=
    utf8_append cs ('\n' :: ds)
  rw [hline, hbytes, cutLines_append_newline (newline_not_mem_utf8 h)]

theorem cutLines_utf8_unfinished {cs : List Char} (h : '\n' ∉ cs) :
    cutLines (utf8 cs) = if cs = [] then [] else [utf8 cs] := by
  rw [cutLines_unfinished (newline_not_mem_utf8 h)]
  cases cs with
  | nil => rfl
  | cons c cs =>
    have hne : utf8 (c :: cs) ≠ [] := by simp [utf8]
    rw [if_neg hne, if_neg (List.cons_ne_nil c cs)]

end LoxLexer.Input
