import LoxLexer.Proofs.Covering.Pieces
import Mathlib.Data.List.Forall2

/-! # Recovery from errors

An error acts on its neighbours as blanks do: with blanks in the place of the text of every error,
the ends of lines in it kept, a text has no errors and the same tokens on the same lines
(`scan_blanked`). The reason is that a blank ends whatever the character in its place ended
(`EndsBefore.blanked`), so that the pieces around an error are cut in both texts alike.
-/

set_option autoImplicit false

namespace LoxLexer

/-! ## Blanks in the place of characters -/

/-- The blank in the place of a character; the end of a line is one already. -/
def blankFor (c : Char) : Char := if c = '\n' then c else ' '

/-- Some characters of the first text are blanks in the second. -/
def Blanked : List Char → List Char → Prop := List.Forall₂ fun a b => b = a ∨ b = blankFor a

theorem blankFor_cases (c : Char) : c = '\n' ∧ blankFor c = '\n' ∨ blankFor c = ' ' := by
  unfold blankFor
  split
  · next h => exact .inl ⟨h, h⟩
  · exact .inr rfl

theorem isBlank_blankFor (c : Char) : Piece.isBlank (blankFor c) = true := by
  rcases blankFor_cases c with ⟨-, h⟩ | h <;> rw [h] <;> rfl

/-- A class without blanks has no character that stands in the place of another. -/
theorem blankFor_class {p : Char → Bool} (hn : p '\n' = false) (hs : p ' ' = false) (c : Char) :
    p (blankFor c) = false := by
  rcases blankFor_cases c with ⟨-, h⟩ | h <;> rwa [h]

theorem count_blankFor (cs : List Char) : (cs.map blankFor).count '\n' = cs.count '\n' := by
  induction cs with
  | nil => rfl
  | cons c cs ih =>
    rw [List.map_cons, List.count_cons, List.count_cons, ih]
    by_cases h : c = '\n' <;> simp [blankFor, h]

namespace Blanked

variable {cs ds rest rest' : List Char}

theorem refl (cs : List Char) : Blanked cs cs := List.forall₂_same.2 fun _ _ => .inl rfl

theorem map (cs : List Char) : Blanked cs (cs.map blankFor) :=
  List.forall₂_map_right_iff.2 (List.forall₂_same.2 fun _ _ => .inr rfl)

theorem append (h : Blanked cs ds) (hr : Blanked rest rest') : Blanked (cs ++ rest) (ds ++ rest') :=
  List.rel_append h hr

/-- What blanks keep of a character, they keep of the first character of a text. -/
theorem head {P : Char → Prop} (hP : ∀ c, P c → P (blankFor c)) (h : Blanked rest rest')
    (hr : ∀ c ∈ rest.head?, P c) : ∀ c ∈ rest'.head?, P c := by
  cases h with
  | nil => simp
  | @cons a b as bs hab _ =>
    intro c hc
    obtain rfl : b = c := by simpa using hc
    have ha : P a := hr a rfl
    rcases hab with rfl | rfl
    · exact ha
    · exact hP a ha

/-- Where a class without blanks does not go on, it does not with blanks either. -/
theorem head_class {p : Char → Bool} (hn : p '\n' = false) (hs : p ' ' = false)
    (h : Blanked rest rest') (hr : ∀ c ∈ rest.head?, p c = false) :
    ∀ c ∈ rest'.head?, p c = false :=
  h.head (P := fun c => p c = false) (fun c _ => blankFor_class hn hs c) hr

theorem head_ne {q : Char} (hn : '\n' ≠ q) (hs : ' ' ≠ q) (h : Blanked rest rest')
    (hr : rest.head? ≠ some q) : rest'.head? ≠ some q := by
  intro hq
  have hP : ∀ c, c ≠ q → blankFor c ≠ q := fun c _ => by
    rcases blankFor_cases c with ⟨-, hc⟩ | hc <;> rwa [hc]
  exact h.head hP (fun c hc hcq => hr (hcq ▸ hc)) q hq rfl

end Blanked

namespace Piece

/-- **What a text does not continue, it does not continue with blanks in it.** -/
theorem EndsBefore.blanked {p : Piece} {rest rest' : List Char} (he : p.EndsBefore rest)
    (h : Blanked rest rest') : p.EndsBefore rest' := by
  cases p with
  | comment body => exact h.head (by rintro c rfl; rfl) he
  | operator op =>
    obtain ⟨hslash, hequal⟩ := he
    exact ⟨fun hop => h.head_ne (by decide) (by decide) (hslash hop),
      fun hop => h.head_ne (by decide) (by decide) (hequal hop)⟩
  | word letters => exact h.head_class rfl rfl he
  | number whole fraction =>
    cases fraction with
    | cons d ds => exact h.head_class rfl rfl he
    | nil =>
      obtain ⟨hd, hdot⟩ := he
      refine ⟨h.head_class rfl rfl hd, ?_⟩
      -- a point with a digit behind it has no blank in its two places
      rintro e more rfl
      obtain ⟨a, as, ha, has, rfl⟩ := List.forall₂_cons_right_iff.1 h
      obtain ⟨b, bs, hb, -, rfl⟩ := List.forall₂_cons_right_iff.1 has
      have hpoint : '.' = a := by
        rcases ha with ha | ha
        · exact ha
        · have := isBlank_blankFor a
          rw [← ha] at this
          cases this
      rcases hb with rfl | rfl
      · exact hdot e bs (hpoint ▸ rfl)
      · exact blankFor_class rfl rfl b
  | openString body =>
    obtain rfl : rest = [] := he
    exact List.forall₂_nil_left_iff.1 h
  | _ => trivial

/-! ## Blanks in the place of pieces -/

/-- A blank for every character. -/
def blanks (cs : List Char) : List Piece := cs.map fun c => blank (blankFor c)

/-- What takes the place of a piece on `line`: blanks, if it stands for an error. -/
def mend (line : Nat) (p : Piece) : List Piece :=
  match p.item? line (line + p.newlines) with
  | some (.error _) => blanks p.text
  | _ => [p]

/-- What takes the place of pieces in a row, the first of which starts on `line`. -/
def mended (line : Nat) : List Piece → List Piece
  | [] => []
  | p :: ps => p.mend line ++ mended (line + p.newlines) ps

theorem textOf_blanks (cs : List Char) : textOf (blanks cs) = cs.map blankFor := by
  induction cs with
  | nil => rfl
  | cons c cs ih => exact congrArg (blankFor c :: ·) ih

theorem itemsFrom_blanks (line : Nat) (cs : List Char) : itemsFrom line (blanks cs) = [] := by
  induction cs generalizing line with
  | nil => rfl
  | cons c cs ih => exact ih _

theorem Tiles.blanks_append {ps : List Piece} (h : Tiles ps) (cs : List Char) :
    Tiles (blanks cs ++ ps) := by
  induction cs with
  | nil => exact h
  | cons c cs ih => exact ⟨isBlank_blankFor c, trivial, ih⟩

theorem mend_cases (line : Nat) (p : Piece) :
    (∃ e, p.item? line (line + p.newlines) = some (.error e) ∧ p.mend line = blanks p.text) ∨
      (∀ item ∈ p.item? line (line + p.newlines), ∃ t, item = .token t) ∧ p.mend line = [p] := by
  unfold mend
  cases p.item? line (line + p.newlines) with
  | none => simp
  | some item => cases item <;> simp

theorem lines_mend (line : Nat) (p : Piece) : lines (p.mend line) = p.newlines := by
  rcases mend_cases line p with ⟨e, -, h⟩ | ⟨-, h⟩
  · rw [h, lines, textOf_blanks, count_blankFor, newlines]
  · simp [h]

theorem lines_mended (line : Nat) (ps : List Piece) : lines (mended line ps) = lines ps := by
  induction ps generalizing line with
  | nil => rfl
  | cons p ps ih => rw [mended, lines_append, lines_mend, ih, lines_cons]

theorem blanked_mended (line : Nat) (ps : List Piece) :
    Blanked (textOf ps) (textOf (mended line ps)) := by
  induction ps generalizing line with
  | nil => exact .refl []
  | cons p ps ih =>
    rw [textOf_cons, mended, textOf_append]
    refine Blanked.append ?_ (ih _)
    rcases mend_cases line p with ⟨e, -, h⟩ | ⟨-, h⟩
    · rw [h, textOf_blanks]
      exact .map p.text
    · rw [h, textOf_cons, textOf_nil, List.append_nil]
      exact .refl p.text

/-- Pieces in a row are cut apart as before when blanks take the place of some. -/
theorem Tiles.mended {ps : List Piece} (h : Tiles ps) (line : Nat) : Tiles (mended line ps) := by
  induction ps generalizing line with
  | nil => trivial
  | cons p ps ih =>
    obtain ⟨hv, he, ht⟩ := h
    rw [Piece.mended]
    rcases mend_cases line p with ⟨e, -, hm⟩ | ⟨-, hm⟩
    · rw [hm]
      exact (ih ht _).blanks_append p.text
    · rw [hm]
      exact ⟨hv, he.blanked (blanked_mended _ ps), ih ht _⟩

/-- Of the items, the tokens are left. -/
theorem itemsFrom_mended (line : Nat) (ps : List Piece) :
    itemsFrom line (mended line ps) = ((itemsFrom line ps).filterMap Item.token?).map .token := by
  induction ps generalizing line with
  | nil => rfl
  | cons p ps ih =>
    rw [mended, itemsFrom_append, lines_mend, ih]
    rcases mend_cases line p with ⟨e, hi, hm⟩ | ⟨hi, hm⟩
    · rw [hm, itemsFrom_blanks, itemsFrom_item hi]
      rfl
    · rw [hm]
      cases hp : p.item? line (line + p.newlines) with
      | none => rw [itemsFrom_skip hp, itemsFrom_skip hp]; rfl
      | some item =>
        obtain ⟨t, rfl⟩ := hi item hp
        rw [itemsFrom_item hp, itemsFrom_item hp]
        rfl

end Piece

/-! ## The text without its errors -/

namespace Item

/-- What is left of the text of an item when errors are blanked. -/
def blanked (text : List Char) : Item → List Char
  | token _ => text
  | error _ => text.map blankFor

end Item

namespace Covering

/-- The text with blanks in the place of every error, the ends of its lines kept. -/
def blanked (c : Covering) : List Char :=
  c.spans.flatMap (fun x => x.gap ++ x.item.blanked x.text) ++ c.last

theorem blanked_skip (w : List Char) (c : Covering) : (c.skip w).blanked = w ++ c.blanked := by
  obtain ⟨xs, last⟩ := c
  cases xs <;> simp [skip, blanked]

theorem blanked_ofPieces (line : Nat) (ps : List Piece) :
    (ofPieces line ps).blanked = Piece.textOf (Piece.mended line ps) := by
  induction ps generalizing line with
  | nil => rfl
  | cons p ps ih =>
    rw [Piece.mended, Piece.textOf_append, ← ih]
    rcases Piece.mend_cases line p with ⟨e, hi, hm⟩ | ⟨hi, hm⟩
    · rw [hm, Piece.textOf_blanks, ofPieces_item hi]
      simp [blanked, Item.blanked]
    · rw [hm, Piece.textOf_cons, Piece.textOf_nil, List.append_nil]
      cases hp : p.item? line (line + p.newlines) with
      | none => rw [ofPieces_skip hp, blanked_skip]
      | some item =>
        obtain ⟨t, rfl⟩ := hi item hp
        rw [ofPieces_item hp]
        simp [blanked, Item.blanked]

/-- **Recovery never disturbs the rest of a scan**: with blanks in the place of every error, a text
has no errors, and the tokens that it had. -/
theorem scan_blanked {c : Covering} {source : String} (h : c.Covers source) :
    (scan (String.ofList c.blanked)).errors = [] ∧
      (scan (String.ofList c.blanked)).tokens = (scan source).tokens := by
  obtain rfl := h.unique (covers_ofSource source)
  have ht : Piece.Tiles (Piece.mended 1 (Piece.pieces source.toList)) :=
    (Piece.tiles_pieces source.toList).mended 1
  have hp : Piece.pieces (String.ofList (ofSource source).blanked).toList =
      Piece.mended 1 (Piece.pieces source.toList) := by
    rw [String.toList_ofList, ofSource, blanked_ofPieces, Piece.pieces_textOf ht]
  have hl : (ofSource source).blanked.count '\n' = source.toList.count '\n' := by
    rw [ofSource, blanked_ofPieces, ← Piece.lines, Piece.lines_mended, Piece.lines,
      Piece.textOf_pieces]
  rw [errors_scan, tokens_scan, tokens_scan, hp, Piece.itemsFrom_mended, String.toList_ofList, hl,
    Item.filterMap_token?_map]
  exact ⟨Item.filterMap_error?_map _, rfl⟩

/-- A stray character inside `!=`, and an open string with a comment and the end of a line. -/
theorem scan_blanked_between_operators :
    let source := "!@=\"//\n"
    let c : Covering :=
      ⟨[⟨[], "!".toList, .token ⟨.operator .bang, "!", 1⟩⟩,
        ⟨[], "@".toList, .error ⟨.unexpectedCharacter '@', 1⟩⟩,
        ⟨[], "=".toList, .token ⟨.operator .equal, "=", 1⟩⟩,
        ⟨[], "\"//\n".toList, .error ⟨.unterminatedString, 2⟩⟩], []⟩
    c.Covers source ∧ c.blanked = "! =   \n".toList ∧
      (scan (String.ofList c.blanked)).errors = [] ∧
      (scan (String.ofList c.blanked)).tokens = (scan source).tokens := by
  intro source c
  have hc : c = ofSource source := by decide +kernel
  have h : c.Covers source := hc ▸ covers_ofSource source
  exact ⟨h, by decide, scan_blanked h⟩

end Covering

end LoxLexer
