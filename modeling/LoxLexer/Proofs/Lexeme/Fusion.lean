import LoxLexer.Proofs.Grammar
import LoxLexer.Proofs.Lexeme.Basic

/-! # Lexemes that run into each other

Lexemes that are written down with nothing between them scan back unless some of them fuse:
`Grammar.Fuses` lists, on texts alone, how the first lexeme of a row runs into those behind it. It
takes three lexemes where a point stands between two numbers, and two in all other cases.
`scan_join_iff` says that there are no other cases, whatever lexemes stand in a row.
-/

set_option autoImplicit false

namespace LoxLexer

namespace Grammar

/-- The first lexeme of a row, with nothing behind it, runs into those that follow. -/
inductive Fuses : List (List Char) → Prop
  /-- A word goes on with letters, digits and underscores. -/
  | word {v w : List Char} {c : Char} {more : List (List Char)} :
      v ∈ word → c ∈ letter ∪ digit → Fuses (v :: (c :: w) :: more)
  /-- A number goes on with digits. -/
  | number {v w : List Char} {more : List (List Char)} :
      v ∈ number → w ∈ number → Fuses (v :: w :: more)
  /-- A number without a fraction takes a point up if digits follow. -/
  | point {v w : List Char} {more : List (List Char)} :
      v ∈ digits → w ∈ number → Fuses (v :: ['.'] :: w :: more)
  | equal {c : Char} {w : List Char} {more : List (List Char)} :
      c ∈ ['!', '=', '<', '>'] → w ∈ [['='], ['=', '=']] → Fuses ([c] :: w :: more)
  /-- Two slashes begin a comment. -/
  | slash {more : List (List Char)} : Fuses (['/'] :: ['/'] :: more)

/-- A number begins with a digit. -/
theorem exists_digit_of_mem_number {w : List Char} (h : w ∈ number) :
    ∃ d ds, w = d :: ds ∧ d.isDigit = true := by
  obtain ⟨whole, fraction, hv, rfl⟩ := mem_number.1 h
  obtain ⟨d, ds, hd⟩ := List.exists_cons_of_ne_nil (Piece.text_ne_nil hv)
  exact ⟨d, ds, hd, Piece.isDigit_of_number hv (by rw [List.append_nil, hd])⟩

end Grammar

namespace Piece

open Grammar

/-! ## Pieces by their first character -/

section
variable {q : Piece} (hv : q.Valid) {c : Char} {w : List Char} (ht : q.text = c :: w)
include hv ht

theorem cut_text : (cut c w).1 = q := by
  rw [cut_of_valid hv (endsBefore_nil q) (by rw [List.append_nil, ht])]

theorem mem_number_of_digit (hd : c.isDigit = true) : q.text ∈ Grammar.number := by
  have hq : ∃ whole fraction, q = number whole fraction := by
    rw [← cut_text hv ht, cut_digit hd]
    unfold cutNumber
    split
    · split
      · exact ⟨_, _, rfl⟩
      · exact ⟨_, _, rfl⟩
    · exact ⟨_, _, rfl⟩
  obtain ⟨whole, fraction, rfl⟩ := hq
  exact mem_number.2 ⟨whole, fraction, hv, rfl⟩

theorem text_of_point (hc : c = '.') : q.text = ['.'] := by
  subst hc
  rw [← cut_text hv ht]
  rfl

theorem text_of_equal (hc : c = '=') : q.text ∈ [['='], ['=', '=']] := by
  subst hc
  have hcut : (cutOperator .equal w).1 = q := cut_text hv ht
  rw [← hcut]
  unfold cutOperator
  split
  · next joined rest hj =>
    cases hj
    exact .tail _ (.head _)
  · exact .head _

/-- A slash begins nothing else that is not skipped. -/
theorem text_of_slash (hkind : q.kind?.isSome) (hc : c = '/') : q.text = ['/'] := by
  subst hc
  have hcut : (cutSlash w).1 = q := cut_text hv ht
  rw [← hcut] at hkind ⊢
  unfold cutSlash at hkind ⊢
  split
  · cases hkind
  · rfl

end

/-- What pieces write down begins with the text of the first. -/
theorem exists_text_of_textOf {ps : List Piece} (hps : ∀ p ∈ ps, p.Valid) {c : Char}
    {cs : List Char} (h : textOf ps = c :: cs) :
    ∃ q qs w, ps = q :: qs ∧ q.text = c :: w ∧ cs = w ++ textOf qs := by
  cases ps with
  | nil => cases h
  | cons q qs =>
    obtain ⟨d, w, hd⟩ := List.exists_cons_of_ne_nil (text_ne_nil (hps q List.mem_cons_self))
    rw [textOf_cons, hd] at h
    obtain ⟨rfl, rfl⟩ := List.cons.inj h
    exact ⟨q, qs, w, rfl, hd, rfl⟩

/-! ## Borders between lexemes -/

/-- The piece stands for a token. -/
def IsToken (p : Piece) : Prop := p.Valid ∧ p.kind?.isSome

section
variable {p : Piece} {ps : List Piece}

/-- Where a row fuses, its first piece goes on. -/
theorem not_endsBefore_of_fuses (hv : p.Valid) (h : Fuses (p.text :: ps.map text)) :
    ¬ p.EndsBefore (textOf ps) := by
  intro he
  generalize hws : p.text :: ps.map text = ws at h
  have hrest : textOf ps = (ps.map text).flatten := rfl
  cases h with
  | @word v w c more hword hc =>
    obtain ⟨rfl, hps⟩ := List.cons.inj hws
    have hp : p = .word p.text := eq_of_text_eq hv (mem_word.1 hword) rfl
    rw [hp, hrest, hps] at he
    have hstop : continuesWord c = false := he c rfl
    rw [mem_letter_union_digit, hstop] at hc
    cases hc
  | @number v w more hv' hw =>
    obtain ⟨rfl, hps⟩ := List.cons.inj hws
    obtain ⟨whole, fraction, hnumber, htext⟩ := mem_number.1 hv'
    obtain rfl := eq_of_text_eq hv hnumber htext
    obtain ⟨d, ds, rfl, hd⟩ := exists_digit_of_mem_number hw
    rw [hrest, hps] at he
    have hstop : d.isDigit = false := by
      cases fraction with
      | nil => exact he.1 d rfl
      | cons => exact he d rfl
    rw [hstop] at hd
    cases hd
  | @point v w more hv' hw =>
    obtain ⟨rfl, hps⟩ := List.cons.inj hws
    obtain ⟨hne, hdigits⟩ := mem_digits.1 hv'
    have hp : p = .number p.text [] := eq_of_text_eq hv ⟨hne, hdigits, by simp⟩ rfl
    obtain ⟨d, ds, rfl, hd⟩ := exists_digit_of_mem_number hw
    rw [hp, hrest, hps] at he
    rw [he.2 d _ rfl] at hd
    cases hd
  | @equal c w more hc hw =>
    obtain ⟨hp, hps⟩ := List.cons.inj hws
    have hop : ∃ op, p = .operator op ∧ op.withEqual? ≠ none := by
      simp only [List.mem_cons, List.not_mem_nil, or_false] at hc
      rcases hc with rfl | rfl | rfl | rfl
      · exact ⟨.bang, eq_of_text_eq hv trivial hp, by decide⟩
      · exact ⟨.equal, eq_of_text_eq hv trivial hp, by decide⟩
      · exact ⟨.less, eq_of_text_eq hv trivial hp, by decide⟩
      · exact ⟨.greater, eq_of_text_eq hv trivial hp, by decide⟩
    obtain ⟨op, rfl, hjoins⟩ := hop
    have hhead : (textOf ps).head? = some '=' := by
      simp only [List.mem_cons, List.not_mem_nil, or_false] at hw
      rw [hrest, hps]
      rcases hw with rfl | rfl <;> rfl
    exact he.2 hjoins hhead
  | slash =>
    obtain ⟨hp, hps⟩ := List.cons.inj hws
    obtain rfl : p = .operator .slash := eq_of_text_eq hv trivial hp
    refine he.1 rfl ?_
    rw [hrest, hps]
    rfl

/-- Where digits follow, a number runs into a number. -/
theorem fuses_of_digit (hps : ∀ q ∈ ps, q.Valid) {v cs : List Char} {d : Char}
    (hv : v ∈ Grammar.number) (hd : d.isDigit = true) (h : textOf ps = d :: cs) :
    Fuses (v :: ps.map text) := by
  obtain ⟨q, qs, w, rfl, hw, -⟩ := exists_text_of_textOf hps h
  exact .number hv (mem_number_of_digit (hps q List.mem_cons_self) hw hd)

/-- Where a point and digits follow, a number without a fraction runs into them. -/
theorem fuses_of_point (hps : ∀ q ∈ ps, q.Valid) {v cs : List Char} {d : Char} (hv : v ∈ digits)
    (hd : d.isDigit = true) (h : textOf ps = '.' :: d :: cs) : Fuses (v :: ps.map text) := by
  obtain ⟨q, qs, w, rfl, hw, hrest⟩ := exists_text_of_textOf hps h
  obtain ⟨hq, hqs⟩ := List.forall_mem_cons.1 hps
  have hpoint := text_of_point hq hw rfl
  obtain rfl : w = [] := by simpa [hpoint] using hw.symm
  obtain ⟨r, rs, u, rfl, hu, -⟩ := exists_text_of_textOf hqs hrest.symm
  rw [List.map_cons, List.map_cons, hpoint]
  exact .point hv (mem_number_of_digit (hqs r List.mem_cons_self) hu hd)

theorem fuses_of_joins (hps : ∀ q ∈ ps, q.Valid) {op : Operator} (hop : op.withEqual? ≠ none)
    (h : (textOf ps).head? = some '=') : Fuses (op.chars :: ps.map text) := by
  obtain ⟨cs, hcs⟩ := List.head?_eq_some_iff.1 h
  obtain ⟨q, qs, w, rfl, hw, -⟩ := exists_text_of_textOf hps hcs
  have hequal := text_of_equal (hps q List.mem_cons_self) hw rfl
  have hchars : ∃ c, op.chars = [c] ∧ c ∈ ['!', '=', '<', '>'] := by
    cases op <;> first
      | exact absurd rfl hop
      | exact ⟨_, rfl, by decide⟩
  obtain ⟨c, hc, hmem⟩ := hchars
  rw [hc]
  exact .equal hmem hequal

theorem fuses_of_slash (hps : ∀ q ∈ ps, q.IsToken) (h : (textOf ps).head? = some '/') :
    Fuses (['/'] :: ps.map text) := by
  obtain ⟨cs, hcs⟩ := List.head?_eq_some_iff.1 h
  obtain ⟨q, qs, w, rfl, hw, -⟩ := exists_text_of_textOf (fun q hq => (hps q hq).1) hcs
  obtain ⟨hq, hkind⟩ := hps q List.mem_cons_self
  rw [List.map_cons, text_of_slash hq hw hkind rfl]
  exact .slash

/-- A token that goes on runs into the tokens behind it. -/
theorem fuses_of_not_endsBefore (hp : p.IsToken) (hps : ∀ q ∈ ps, q.IsToken)
    (h : ¬ p.EndsBefore (textOf ps)) : Fuses (p.text :: ps.map text) := by
  obtain ⟨hv, hkind⟩ := hp
  have hvalid : ∀ q ∈ ps, q.Valid := fun q hq => (hps q hq).1
  cases p with
  | operator op =>
    by_cases hslash : op = .slash ∧ (textOf ps).head? = some '/'
    · obtain ⟨rfl, hhead⟩ := hslash
      exact fuses_of_slash hps hhead
    · by_contra hno
      exact h ⟨fun hop hhead => hslash ⟨hop, hhead⟩,
        fun hop hhead => hno (fuses_of_joins hvalid hop hhead)⟩
  | word letters =>
    simp only [EndsBefore, not_forall, Bool.not_eq_false] at h
    obtain ⟨c, hc, hgoes⟩ := h
    obtain ⟨cs, hcs⟩ := List.head?_eq_some_iff.1 hc
    obtain ⟨q, qs, w, rfl, hw, -⟩ := exists_text_of_textOf hvalid hcs
    rw [List.map_cons, hw]
    exact .word (mem_word.2 hv) (mem_letter_union_digit.2 hgoes)
  | number whole fraction =>
    have hnumber := mem_number.2 ⟨whole, fraction, hv, rfl⟩
    by_cases hdigit : ∀ c ∈ (textOf ps).head?, c.isDigit = false
    · cases fraction with
      | cons d ds => exact absurd hdigit h
      | nil =>
        have hpoint : ¬ ∀ d more, textOf ps = '.' :: d :: more → d.isDigit = false :=
          fun hno => h ⟨hdigit, hno⟩
        simp only [not_forall, Bool.not_eq_false] at hpoint
        obtain ⟨d, cs, hcs, hd⟩ := hpoint
        exact fuses_of_point hvalid (mem_digits.2 ⟨hv.1, hv.2.1⟩) hd hcs
    · simp only [not_forall, Bool.not_eq_false] at hdigit
      obtain ⟨d, hhead, hd⟩ := hdigit
      obtain ⟨cs, hcs⟩ := List.head?_eq_some_iff.1 hhead
      exact fuses_of_digit hvalid hnumber hd hcs
  | string body => exact absurd trivial h
  | _ => cases hkind

end

/-- **Tokens keep apart** if and only if no row of them fuses. -/
theorem tiles_iff_not_fuses {ps : List Piece} (hps : ∀ p ∈ ps, p.IsToken) :
    Tiles ps ↔ ∀ tail, tail <:+ ps.map text → ¬ Fuses tail := by
  induction ps with
  | nil =>
    refine iff_of_true trivial fun tail htail hfuses => ?_
    rw [List.map_nil, List.suffix_nil] at htail
    subst htail
    cases hfuses
  | cons p ps ih =>
    obtain ⟨hp, hmore⟩ := List.forall_mem_cons.1 hps
    have hborder : p.EndsBefore (textOf ps) ↔ ¬ Fuses (p.text :: ps.map text) :=
      ⟨fun he hfuses => not_endsBefore_of_fuses hp.1 hfuses he,
        fun hno => by_contra fun he => hno (fuses_of_not_endsBefore hp hmore he)⟩
    simp only [Tiles, hp.1, true_and, hborder, ih hmore, List.map_cons, List.suffix_cons_iff,
      forall_eq_or_imp]

/-! ## Tokens among the items of a row -/

theorem token?_item? (p : Piece) (first last : Nat) :
    (p.item? first last).bind Item.token? =
      p.kind?.map fun kind => ⟨kind, String.ofList p.text, first⟩ := by
  cases hkind : p.kind? with
  | some kind =>
    rw [item?_of_kind? hkind]
    rfl
  | none =>
    rw [Option.map_none, Option.bind_eq_none_iff]
    rintro (t | e) hitem
    · rw [(item?_eq_token_iff.1 hitem).1] at hkind
      cases hkind
    · rfl

/-- The lexemes of a row are the texts of those pieces that have a kind. -/
theorem lexemes_itemsFrom (line : Nat) (qs : List Piece) :
    ((itemsFrom line qs).filterMap Item.token?).map Token.lexeme =
      (qs.filter (·.kind?.isSome)).map (String.ofList ·.text) := by
  induction qs generalizing line with
  | nil => rfl
  | cons q qs ih =>
    have htoken := q.token?_item? line (line + q.newlines)
    rw [itemsFrom, List.filterMap_append, List.map_append, ih]
    cases hitem : q.item? line (line + q.newlines) with
    | none =>
      rw [hitem] at htoken
      cases hkind : q.kind? <;> simp_all
    | some item =>
      rw [hitem, Option.bind_some] at htoken
      cases hkind : q.kind? <;> simp_all

theorem errors_itemsFrom {ps : List Piece} (hps : ∀ p ∈ ps, p.IsToken) (line : Nat) :
    (itemsFrom line ps).filterMap Item.error? = [] := by
  rw [List.filterMap_eq_nil_iff]
  intro item hitem
  obtain ⟨before, p, after, rfl, hp⟩ := mem_itemsFrom.1 hitem
  obtain ⟨-, hkind⟩ := hps p (by simp)
  obtain ⟨kind, hkind⟩ := Option.isSome_iff_exists.1 hkind
  rw [item?_of_kind? hkind] at hp
  cases hp
  rfl

theorem length_textOf_filter_le (f : Piece → Bool) (qs : List Piece) :
    (textOf (qs.filter f)).length ≤ (textOf qs).length := by
  induction qs with
  | nil => exact Nat.le_refl _
  | cons q qs ih =>
    rw [List.filter_cons]
    split
    · simp only [textOf_cons, List.length_append]
      omega
    · simp only [textOf_cons, List.length_append]
      omega

/-- If the tokens among its pieces write all of a text down, it has no other pieces. -/
theorem isToken_of_textOf_filter {cs : List Char}
    (h : textOf ((pieces cs).filter (·.kind?.isSome)) = cs) : ∀ p ∈ pieces cs, p.IsToken := by
  intro p hp
  have hv := (tiles_pieces cs).valid p hp
  refine ⟨hv, ?_⟩
  by_contra hkind
  obtain ⟨before, after, hsplit⟩ := List.append_of_mem hp
  have hlength := congrArg List.length (h.trans (textOf_pieces cs).symm)
  have hpos := List.length_pos_of_ne_nil (text_ne_nil hv)
  have hbefore := length_textOf_filter_le (·.kind?.isSome) before
  have hafter := length_textOf_filter_le (·.kind?.isSome) after
  rw [hsplit, List.filter_append, List.filter_cons, if_neg hkind] at hlength
  simp only [textOf_append, textOf_cons, List.length_append] at hlength
  omega

end Piece

/-! ## Lexemes in a row -/

theorem exists_tokens {ws : List String} (h : ∀ w ∈ ws, ∃ kind, IsLexeme kind w) :
    ∃ ps : List Piece, (∀ p ∈ ps, p.IsToken) ∧ ps.map Piece.text = ws.map String.toList := by
  induction ws with
  | nil => exact ⟨[], by simp, rfl⟩
  | cons w ws ih =>
    obtain ⟨⟨kind, hw⟩, hws⟩ := List.forall_mem_cons.1 h
    obtain ⟨p, hv, hkind, htext⟩ := isLexeme_iff.1 hw
    obtain ⟨ps, hps, htexts⟩ := ih hws
    refine ⟨p :: ps, List.forall_mem_cons.2 ⟨⟨hv, by rw [hkind]; rfl⟩, hps⟩, ?_⟩
    rw [List.map_cons, List.map_cons, htext, htexts]

theorem map_ofList_text_eq_iff {ps : List Piece} {ws : List String} :
    ps.map (String.ofList ·.text) = ws ↔ ps.map Piece.text = ws.map String.toList := by
  constructor
  · rintro rfl
    simp [Function.comp_def]
  · intro h
    have hback := congrArg (List.map String.ofList) h
    simpa [Function.comp_def] using hback

/-- **Lexemes in a row scan back** with nothing between them if and only if none of them fuses with
what follows it. -/
theorem scan_join_iff {ws : List String} (h : ∀ w ∈ ws, ∃ kind, IsLexeme kind w) :
    (scan (String.join ws)).errors = [] ∧ (scan (String.join ws)).proper.map Token.lexeme = ws ↔
      ∀ tail, tail <:+ ws → ¬ Grammar.Fuses (tail.map String.toList) := by
  have htails : (∀ tail, tail <:+ ws → ¬ Grammar.Fuses (tail.map String.toList)) ↔
      ∀ tail, tail <:+ ws.map String.toList → ¬ Grammar.Fuses tail := by
    constructor
    · intro hno tail htail
      obtain ⟨us, hus, rfl⟩ := List.suffix_map_iff.1 htail
      exact hno us hus
    · intro hno tail htail
      exact hno _ (htail.map String.toList)
  have htext : ∀ {ps : List Piece}, ps.map Piece.text = ws.map String.toList →
      Piece.textOf ps = (String.join ws).toList := by
    intro ps hps
    rw [String.toList_join, List.flatMap_def, ← hps]
    exact List.flatMap_def
  rw [htails, errors_scan, proper_scan, Piece.lexemes_itemsFrom, map_ofList_text_eq_iff]
  constructor
  · intro hscan
    obtain ⟨-, htexts⟩ := hscan
    have htokens := Piece.isToken_of_textOf_filter (htext htexts)
    rw [List.filter_eq_self.2 fun p hp => (htokens p hp).2] at htexts
    rw [← htexts]
    exact (Piece.tiles_iff_not_fuses htokens).1 (Piece.tiles_pieces _)
  · intro hno
    obtain ⟨ps, hps, htexts⟩ := exists_tokens h
    rw [← htexts] at hno
    have hpieces : Piece.pieces (String.join ws).toList = ps := by
      rw [← htext htexts]
      exact Piece.pieces_textOf ((Piece.tiles_iff_not_fuses hps).2 hno)
    rw [hpieces, List.filter_eq_self.2 fun p hp => (hps p hp).2]
    exact ⟨Piece.errors_itemsFrom hps 1, htexts⟩

/-- A point between two numbers, which fuses with neither of them alone. -/
theorem scan_join_of_point_between_numbers :
    let ws := ["1", ".", "5"]
    (∀ w ∈ ws, ∃ kind, IsLexeme kind w) ∧
      ¬ ((scan (String.join ws)).errors = [] ∧
        (scan (String.join ws)).proper.map Token.lexeme = ws) ∧
      (∀ tail, tail <:+ ["1", "."] → ¬ Grammar.Fuses (tail.map String.toList)) ∧
      ∀ tail, tail <:+ [".", "5"] → ¬ Grammar.Fuses (tail.map String.toList) := by
  intro ws
  have hone : ∃ kind, IsLexeme kind "1" :=
    ⟨.number ⟨0x3FF0000000000000⟩, by decide +kernel, 1, 1, by decide +kernel⟩
  have hpoint : ∃ kind, IsLexeme kind "." :=
    ⟨.operator .dot, by decide +kernel, 1, 1, by decide +kernel⟩
  have hfive : ∃ kind, IsLexeme kind "5" :=
    ⟨.number ⟨0x4014000000000000⟩, by decide +kernel, 1, 1, by decide +kernel⟩
  have hws : ∀ w ∈ ws, ∃ kind, IsLexeme kind w := by simp [ws, hone, hpoint, hfive]
  have hfuses : Grammar.Fuses (ws.map String.toList) :=
    .point (Grammar.mem_digits.2 ⟨List.cons_ne_nil _ _, List.all_eq_true.1 rfl⟩)
      (Grammar.mem_number.2 ⟨['5'], [],
        ⟨List.cons_ne_nil _ _, List.all_eq_true.1 rfl, List.all_eq_true.1 rfl⟩, rfl⟩)
  refine ⟨hws, fun hscan => (scan_join_iff hws).1 hscan ws List.suffix_rfl hfuses, ?_, ?_⟩
  · exact (scan_join_iff (by simp [hone, hpoint])).1 (by decide +kernel)
  · exact (scan_join_iff (by simp [hpoint, hfive])).1 (by decide +kernel)

end LoxLexer
