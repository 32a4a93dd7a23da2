import LoxLexer.Proofs.Covering.Layout
import LoxLexer.Proofs.Decimal.Rounding

/-! # Numerals are decoded correctly

Where the scanner meets a numeral, the value of the numeral alone decides what it gives: the error
with its digits from halfway between the greatest finite number and the next power of two on, and
below that the number of the format which is nearest, ties to even. A numeral may have any number of
digits before and behind the point. `decode_of_covers` says so for every numeral of a text.
-/

set_option autoImplicit false

namespace LoxLexer

open Grammar

/-- The item of a numeral is that of its rounded value. -/
theorem Grammar.StandsFor.eq_numberItem {first last : Nat} {w whole fraction : List Char}
    {item : Item} (h : StandsFor first last w item) (hn : Numeral w whole fraction) :
    item = Piece.numberItem (String.ofList w) first (Decimal.read whole fraction).nearest? := by
  obtain ⟨p, hp, ht, hi⟩ := Piece.item?_of_standsFor h
  obtain ⟨hv, htn⟩ := valid_of_numeral hn
  rw [Piece.eq_of_text_eq hp hv (ht.trans htn.symm), Piece.item?_number, htn] at hi
  exact (Option.some.inj hi).symm

/-- Only a numeral that is not rounded to a finite number is out of range. -/
theorem Grammar.StandsFor.numeral_of_outOfRange {first last line : Nat} {w : List Char}
    {text : String} (h : StandsFor first last w (.error ⟨.numberOutOfRange text, line⟩)) :
    text = String.ofList w ∧ ∃ whole fraction, Numeral w whole fraction ∧
      (Decimal.read whole fraction).nearest? = none := by
  generalize hitem : Item.error ⟨.numberOutOfRange text, line⟩ = item at h
  cases h with
  | outOfRange hn hx =>
    cases hitem
    exact ⟨rfl, _, _, hn, hx⟩
  | _ => cases hitem

namespace Covering

/-- The text of a span stands for its item. -/
theorem Laid.standsFor {line : Nat} {c : Covering} (h : Laid line c) :
    ∀ x ∈ c.spans, ∃ first last, StandsFor first last x.text x.item := by
  induction h with
  | nil => simp
  | cons _ hv _ hi _ ih => exact List.forall_mem_cons.2 ⟨⟨_, _, Piece.standsFor_item? hv hi⟩, ih⟩

theorem Covers.standsFor {c : Covering} {source : String} (h : c.Covers source) :
    ∀ x ∈ c.spans, ∃ first last, StandsFor first last x.text x.item :=
  (covers_iff_laid.1 h).2.standsFor

theorem Covers.exists_span_of_error {c : Covering} {source : String} (h : c.Covers source)
    {e : LexError} (he : e ∈ (scan source).errors) : ∃ x ∈ c.spans, x.item = .error e := by
  obtain ⟨line, hl⟩ := h.items
  have hmem : Item.error e ∈ (Scanner.ofString source).items := Item.mem_filterMap_error?.1 he
  rw [hl, List.mem_append] at hmem
  rcases hmem with hmem | hmem
  · exact List.mem_map.1 hmem
  · cases List.mem_singleton.1 hmem

/-- **Numerals are decoded correctly**: a numeral is out of range if and only if its value is at
least halfway from the greatest finite number to the next power of two, and otherwise it is the
number nearest to its value, ties to even. Nothing else is a number out of range. -/
theorem decode_of_covers {c : Covering} {source : String} (h : c.Covers source) :
    (∀ x ∈ c.spans, ∀ whole fraction, Numeral x.text whole fraction →
      ((∃ line, x.item = .error ⟨.numberOutOfRange (String.ofList x.text), line⟩) ↔
        2 ^ 1024 - 2 ^ 970 ≤ Decimal.ofDigits whole fraction) ∧
      (Decimal.ofDigits whole fraction < 2 ^ 1024 - 2 ^ 970 →
        ∃ number line, x.item = .token ⟨.number number, String.ofList x.text, line⟩ ∧
          ∀ y, Binary64.NearestEven (Decimal.ofDigits whole fraction) y ↔ y = number)) ∧
    ∀ e ∈ (scan source).errors, ∀ text, e.cause = .numberOutOfRange text →
      ∃ x ∈ c.spans, x.item = .error e ∧ text = String.ofList x.text ∧
        ∃ whole fraction, Numeral x.text whole fraction ∧
          2 ^ 1024 - 2 ^ 970 ≤ Decimal.ofDigits whole fraction := by
  constructor
  · intro x hx whole fraction hn
    obtain ⟨first, last, hs⟩ := h.standsFor x hx
    have hitem := hs.eq_numberItem hn
    rw [← Decimal.value_read, ← Decimal.nearest?_eq_none_iff_le, ← not_le,
      ← Decimal.nearest?_eq_none_iff_le]
    cases hr : (Decimal.read whole fraction).nearest? with
    | none =>
      rw [hr] at hitem
      exact ⟨iff_of_true ⟨first, hitem⟩ rfl, fun hne => absurd rfl hne⟩
    | some number =>
      rw [hr] at hitem
      refine ⟨iff_of_false ?_ nofun, fun _ => ⟨number, first, hitem, Decimal.nearestEven_iff hr⟩⟩
      intro herr
      obtain ⟨line, herr⟩ := herr
      cases herr.symm.trans hitem
  · intro e he text ht
    obtain ⟨x, hx, hitem⟩ := h.exists_span_of_error he
    obtain ⟨first, last, hs⟩ := h.standsFor x hx
    obtain ⟨cause, line⟩ := e
    obtain rfl : cause = .numberOutOfRange text := ht
    rw [hitem] at hs
    obtain ⟨htext, whole, fraction, hn, hr⟩ := hs.numeral_of_outOfRange
    refine ⟨x, hx, hitem, htext, whole, fraction, hn, ?_⟩
    rwa [← Decimal.value_read, ← Decimal.nearest?_eq_none_iff_le]

/-- Two numerals halfway between neighbours: the even one is below the first and above the second. -/
theorem decode_of_covers_halfway :
    let source := "9007199254740993/9007199254740995"
    let x : Span := ⟨[], "9007199254740993".toList,
      .token ⟨.number ⟨0x4340000000000000⟩, "9007199254740993", 1⟩⟩
    let y : Span := ⟨[], "9007199254740995".toList,
      .token ⟨.number ⟨0x4340000000000002⟩, "9007199254740995", 1⟩⟩
    let c : Covering := ⟨[x, ⟨[], ['/'], .token ⟨.operator .slash, "/", 1⟩⟩, y], []⟩
    c.Covers source ∧
      ((∀ x ∈ c.spans, ∀ whole fraction, Numeral x.text whole fraction →
        ((∃ line, x.item = .error ⟨.numberOutOfRange (String.ofList x.text), line⟩) ↔
          2 ^ 1024 - 2 ^ 970 ≤ Decimal.ofDigits whole fraction) ∧
        (Decimal.ofDigits whole fraction < 2 ^ 1024 - 2 ^ 970 →
          ∃ number line, x.item = .token ⟨.number number, String.ofList x.text, line⟩ ∧
            ∀ y, Binary64.NearestEven (Decimal.ofDigits whole fraction) y ↔ y = number)) ∧
      ∀ e ∈ (scan source).errors, ∀ text, e.cause = .numberOutOfRange text →
        ∃ x ∈ c.spans, x.item = .error e ∧ text = String.ofList x.text ∧
          ∃ whole fraction, Numeral x.text whole fraction ∧
            2 ^ 1024 - 2 ^ 970 ≤ Decimal.ofDigits whole fraction) := by
  intro source x y c
  have hc : c = ofSource source := by decide +kernel
  have h : c.Covers source := hc ▸ covers_ofSource source
  exact ⟨h, decode_of_covers h⟩

end Covering

end LoxLexer
