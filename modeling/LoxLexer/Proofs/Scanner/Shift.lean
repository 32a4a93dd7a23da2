import LoxLexer.Proofs.Scanner.Items

/-! # Lines further down

A text says the same wherever it stands in a longer one: only its lines are counted from further
down. `shift n` moves tokens, errors and scans by `n` lines, and `Piece.itemsFrom_shift` says that
nothing else happens to the items of pieces that start `n` lines further down.
-/

set_option autoImplicit false

namespace LoxLexer

/-! ## Moving what was found -/

def Token.shift (n : Nat) (t : Token) : Token := { t with line := t.line + n }

def LexError.shift (n : Nat) (e : LexError) : LexError := { e with line := e.line + n }

def Item.shift (n : Nat) : Item → Item
  | token t => token (t.shift n)
  | error e => error (e.shift n)

def Scan.shift (n : Nat) (s : Scan) : Scan where
  tokens := s.tokens.map (Token.shift n)
  errors := s.errors.map (LexError.shift n)

@[simp] theorem Token.shift_endOfFile (n line : Nat) :
    (endOfFile line).shift n = endOfFile (line + n) := rfl

@[simp] theorem Item.shift_endOfFile (n line : Nat) :
    (token (Token.endOfFile line)).shift n = token (Token.endOfFile (line + n)) := rfl

@[simp] theorem Item.token?_shift (n : Nat) (item : Item) :
    (item.shift n).token? = item.token?.map (Token.shift n) := by
  cases item <;> rfl

@[simp] theorem Item.error?_shift (n : Nat) (item : Item) :
    (item.shift n).error? = item.error?.map (LexError.shift n) := by
  cases item <;> rfl

namespace Item

theorem filterMap_token?_shift (n : Nat) (items : List Item) :
    (items.map (shift n)).filterMap token? = (items.filterMap token?).map (Token.shift n) := by
  rw [List.filterMap_map, List.map_filterMap]
  exact List.filterMap_congr fun item _ => token?_shift n item

theorem filterMap_error?_shift (n : Nat) (items : List Item) :
    (items.map (shift n)).filterMap error? = (items.filterMap error?).map (LexError.shift n) := by
  rw [List.filterMap_map, List.map_filterMap]
  exact List.filterMap_congr fun item _ => error?_shift n item

end Item

theorem Scan.ofItems_shift (n : Nat) (items : List Item) :
    ofItems (items.map (Item.shift n)) = (ofItems items).shift n := by
  unfold ofItems shift
  rw [Item.filterMap_token?_shift, Item.filterMap_error?_shift]

/-! ## Moving pieces -/

namespace Piece

theorem numberItem_shift (text : String) (line n : Nat) (value : Option Binary64) :
    numberItem text (line + n) value = (numberItem text line value).shift n := by
  cases value <;> rfl

theorem item?_shift (p : Piece) (first last n : Nat) :
    p.item? (first + n) (last + n) = (p.item? first last).map (Item.shift n) := by
  cases p with
  | number whole fraction => exact congrArg some (numberItem_shift _ first n _)
  | _ => rfl

/-- **Only lines depend on where pieces stand.** -/
theorem itemsFrom_shift (line n : Nat) (ps : List Piece) :
    itemsFrom (line + n) ps = (itemsFrom line ps).map (Item.shift n) := by
  induction ps generalizing line with
  | nil => rfl
  | cons p ps ih =>
    have hl : line + n + p.newlines = line + p.newlines + n := by omega
    rw [itemsFrom, itemsFrom, hl, item?_shift, ih, List.map_append]
    cases p.item? line (line + p.newlines) <;> rfl

end Piece

end LoxLexer
