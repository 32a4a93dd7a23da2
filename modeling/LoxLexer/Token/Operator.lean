/-! # Operators

The punctuation of Lox. An operator is one character, or one of `!`, `=`, `<`, `>` joined with a
following `=`.
-/

set_option autoImplicit false

namespace LoxLexer

inductive Operator where
  | parenLeft | parenRight | braceLeft | braceRight
  | comma | dot | minus | plus | semicolon | slash | star
  | bang | bangEqual | equal | equalEqual
  | greater | greaterEqual | less | lessEqual
deriving DecidableEq

namespace Operator

def chars : Operator → List Char
  | parenLeft => ['(']
  | parenRight => [')']
  | braceLeft => ['\x7b']
  | braceRight => ['\x7d']
  | comma => [',']
  | dot => ['.']
  | minus => ['-']
  | plus => ['+']
  | semicolon => [';']
  | slash => ['/']
  | star => ['*']
  | bang => ['!']
  | bangEqual => ['!', '=']
  | equal => ['=']
  | equalEqual => ['=', '=']
  | greater => ['>']
  | greaterEqual => ['>', '=']
  | less => ['<']
  | lessEqual => ['<', '=']

/-- The operator of one character. -/
def ofChar? (c : Char) : Option Operator :=
  match c with
  | '(' => some parenLeft
  | ')' => some parenRight
  | '\x7b' => some braceLeft
  | '\x7d' => some braceRight
  | ',' => some comma
  | '.' => some dot
  | '-' => some minus
  | '+' => some plus
  | ';' => some semicolon
  | '/' => some slash
  | '*' => some star
  | '!' => some bang
  | '=' => some equal
  | '>' => some greater
  | '<' => some less
  | _ => none

/-- The operator that a following `=` turns this one into. -/
def withEqual? : Operator → Option Operator
  | bang => some bangEqual
  | equal => some equalEqual
  | greater => some greaterEqual
  | less => some lessEqual
  | _ => none

def name : Operator → String
  | parenLeft => "ParenLeft"
  | parenRight => "ParenRight"
  | braceLeft => "BraceLeft"
  | braceRight => "BraceRight"
  | comma => "Comma"
  | dot => "Dot"
  | minus => "Minus"
  | plus => "Plus"
  | semicolon => "SemiColon"
  | slash => "Slash"
  | star => "Star"
  | bang => "Bang"
  | bangEqual => "BangEqual"
  | equal => "Equal"
  | equalEqual => "EqualEqual"
  | greater => "Greater"
  | greaterEqual => "GreaterEqual"
  | less => "Less"
  | lessEqual => "LessEqual"

/-- Every operator, each once. -/
def all : List Operator :=
  [parenLeft, parenRight, braceLeft, braceRight, comma, dot, minus, plus, semicolon, slash, star,
    bang, bangEqual, equal, equalEqual, greater, greaterEqual, less, lessEqual]

theorem mem_all (op : Operator) : op ∈ all := by
  cases op <;> decide

theorem chars_of_ofChar? {c : Char} {op : Operator} (h : ofChar? c = some op) :
    op.chars = [c] := by
  unfold ofChar? at h
  split at h <;> cases h <;> rfl

theorem chars_of_withEqual? {op joined : Operator} (h : op.withEqual? = some joined) :
    joined.chars = op.chars ++ ['='] := by
  cases op <;> cases h <;> rfl

end Operator

end LoxLexer
