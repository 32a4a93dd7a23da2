import LoxLexer.Stream.Writer

/-! # Writing in parts

Where a writer cuts a text off depends on its bytes alone, not on how they were handed over:
writing two texts is writing them joined (`write_write`), and it fails when one of the two does
(`writeFailure?_append`). So whatever holds of one write holds of a row of them. `Writer.StopsAt`
says where a text is cut off, if it is.
-/

set_option autoImplicit false

namespace LoxLexer

namespace Writer

namespace Settings

/-- A writer takes of two texts what it takes of them joined. -/
theorem taken_add (s : Settings) (m n : Nat) :
    s.taken (m + n) = s.taken m + (s.spend (s.taken m)).taken n := by
  unfold taken spend
  cases s.room with
  | none => rfl
  | some r =>
    show min (m + n) r = min m r + min n (r - min m r)
    omega

theorem spend_add (s : Settings) (m n : Nat) : s.spend (m + n) = (s.spend m).spend n := by
  cases hr : s.room <;> simp [spend, hr, Nat.sub_sub]

theorem spend_zero (s : Settings) : s.spend 0 = s := by
  obtain ⟨room, fault, failsFlush⟩ := s
  cases room <;> rfl

/-- What is not taken of a text leaves no room. -/
theorem taken_spend_eq_zero {s : Settings} {m : Nat} (h : s.taken m ≠ m) (n : Nat) :
    (s.spend (s.taken m)).taken n = 0 := by
  unfold taken spend at *
  cases hr : s.room with
  | none => simp [hr] at h
  | some r =>
    have hmin : min m r ≠ m := by simpa [hr] using h
    show min n (r - min m r) = 0
    omega

theorem taken_le (s : Settings) (m : Nat) : s.taken m ≤ m := by
  unfold taken
  split
  · exact Nat.le_refl m
  · exact Nat.min_le_left m _

end Settings

theorem write_empty (w : Writer) : w.write .empty = w := by
  obtain ⟨accepted, room, fault, failsFlush⟩ := w
  cases room <;> simp [write, Settings.taken, Settings.spend]

/-- **Writing two texts is writing them joined.** -/
theorem write_write (w : Writer) (a b : ByteArray) : (w.write a).write b = w.write (a ++ b) := by
  have hle := w.settings.taken_le a.size
  have hbytes : a.extract 0 (w.settings.taken a.size) ++
        b.extract 0 ((w.settings.spend (w.settings.taken a.size)).taken b.size) =
      (a ++ b).extract 0 (w.settings.taken (a ++ b).size) := by
    rw [ByteArray.size_append, Settings.taken_add, ByteArray.extract_append, Nat.zero_sub]
    by_cases hall : w.settings.taken a.size = a.size
    · have ha : ∀ n, a.extract 0 (a.size + n) = a := fun n => by
        apply ByteArray.ext
        rw [ByteArray.data_extract]
        exact Array.extract_eq_self_of_le (Nat.le_add_right a.size n)
      rw [hall, Nat.add_sub_cancel_left, ha, ByteArray.extract_zero_size]
    · have hnone := Settings.taken_spend_eq_zero hall b.size
      rw [hnone, Nat.add_zero, Nat.sub_eq_zero_of_le hle]
  have hsettings : (w.settings.spend (w.settings.taken a.size)).spend
        ((w.settings.spend (w.settings.taken a.size)).taken b.size) =
      w.settings.spend (w.settings.taken (a ++ b).size) := by
    rw [ByteArray.size_append, Settings.taken_add, Settings.spend_add]
  simp only [write, hsettings, ByteArray.append_assoc, hbytes]

/-- Writing two texts fails when one of the writes does. -/
theorem writeFailure?_append (w : Writer) (a b : ByteArray) :
    w.writeFailure? (a ++ b) = (w.writeFailure? a).or ((w.write a).writeFailure? b) := by
  have hsame : (w.write a).settings = w.settings.spend (w.settings.taken a.size) := rfl
  have hle := w.settings.taken_le a.size
  have hle' := (w.settings.spend (w.settings.taken a.size)).taken_le b.size
  unfold writeFailure?
  rw [hsame, ByteArray.size_append, Settings.taken_add]
  by_cases hall : w.settings.taken a.size = a.size
  · rw [if_pos hall, Option.none_or, hall]
    simp only [Nat.add_left_cancel_iff]
    rfl
  · rw [if_neg hall, if_neg (by omega), Option.some_or]

/-- Behind a write that failed nothing more is taken. -/
theorem write_of_failure {w : Writer} {bytes : ByteArray} (h : w.writeFailure? bytes ≠ none)
    (more : ByteArray) : (w.write bytes).write more = w.write bytes := by
  have hall : w.settings.taken bytes.size ≠ bytes.size := by simpa [writeFailure?] using h
  have hnone : (w.write bytes).settings.taken more.size = 0 :=
    Settings.taken_spend_eq_zero hall more.size
  rw [write, hnone, Settings.spend_zero, ByteArray.extract_same, ByteArray.append_empty]

theorem writeFailure?_empty (w : Writer) : w.writeFailure? .empty = none :=
  (w.writeFailure?_eq_none_iff _).2 fun r _ => Nat.zero_le r

/-- **What is kept of a text is its beginning**: all of it or, if the write fails, as much as there
is room for. -/
theorem exists_kept (w : Writer) (bytes : ByteArray) :
    ∃ kept rest, bytes = kept ++ rest ∧ (w.write bytes).accepted = w.accepted ++ kept ∧
      match w.writeFailure? bytes with
      | none => kept = bytes
      | some cause =>
        cause = w.settings.fault ∧ w.settings.room = some kept.size ∧ kept.size < bytes.size := by
  have hle := w.settings.taken_le bytes.size
  have hsize : (bytes.extract 0 (w.settings.taken bytes.size)).size =
      w.settings.taken bytes.size := by
    rw [ByteArray.size_extract]
    omega
  refine ⟨bytes.extract 0 (w.settings.taken bytes.size),
    bytes.extract (w.settings.taken bytes.size) bytes.size, ?_, w.accepted_write bytes, ?_⟩
  · rw [ByteArray.extract_append_extract]
    simp [hle]
  · by_cases hall : w.settings.taken bytes.size = bytes.size
    · simp only [writeFailure?, if_pos hall]
      rw [hall, ByteArray.extract_zero_size]
    · simp only [writeFailure?, if_neg hall, hsize, true_and]
      refine ⟨?_, by omega⟩
      unfold Settings.taken at hall ⊢
      cases hr : w.settings.room with
      | none => simp [hr] at hall
      | some r =>
        have hmin : min bytes.size r ≠ bytes.size := by simpa [hr] using hall
        show some r = some (min bytes.size r)
        congr 1
        omega

/-! ## Where a text is cut off -/

/-- The writer has room for no more than the first `n` of the bytes. -/
def StopsAt (w : Writer) (bytes : ByteArray) (n : Nat) : Prop :=
  w.settings.room = some n ∧ n < bytes.size

theorem writeFailure?_eq_none_iff_not_stopsAt (w : Writer) (bytes : ByteArray) :
    w.writeFailure? bytes = none ↔ ∀ n, ¬ w.StopsAt bytes n := by
  rw [writeFailure?_eq_none_iff]
  simp only [StopsAt, not_and, Nat.not_lt]

/-- A text that fits is kept whole. -/
theorem accepted_write_of_fits {w : Writer} {bytes : ByteArray}
    (h : w.writeFailure? bytes = none) : (w.write bytes).accepted = w.accepted ++ bytes := by
  have hall : w.settings.taken bytes.size = bytes.size := by simpa [writeFailure?] using h
  rw [accepted_write, hall, ByteArray.extract_zero_size]

theorem StopsAt.taken {w : Writer} {bytes : ByteArray} {n : Nat} (h : w.StopsAt bytes n) :
    w.settings.taken bytes.size = n := by
  obtain ⟨hroom, hn⟩ := h
  simp only [Settings.taken, hroom]
  omega

theorem StopsAt.writeFailure? {w : Writer} {bytes : ByteArray} {n : Nat}
    (h : w.StopsAt bytes n) : w.writeFailure? bytes = some w.settings.fault := by
  have hn := h.2
  rw [Writer.writeFailure?, h.taken, if_neg (by omega)]

theorem StopsAt.accepted_write {w : Writer} {bytes : ByteArray} {n : Nat}
    (h : w.StopsAt bytes n) : (w.write bytes).accepted = w.accepted ++ bytes.extract 0 n := by
  rw [Writer.accepted_write, h.taken]

end Writer

end LoxLexer
