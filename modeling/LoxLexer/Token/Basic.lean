import LoxLexer.Decimal.Layout
import LoxLexer.Token.Keyword
import LoxLexer.Token.Operator

/-! # Tokens

A token has a kind, the text it was read from and the line on which it starts. Strings and numbers
carry their value. `Token.render` writes a token as one line of output: its kind, its text and its
value.
-/

set_option autoImplicit false

namespace LoxLexer

inductive TokenKind where
  | operator (op : Operator)
  | keyword (word : Keyword)
  | identifier
  | string (value : String)
  | number (value : Binary64)
  | endOfFile
deriving DecidableEq

/-- The value that a string or a number stands for. -/
inductive Literal where
  | text (value : String)
  | number (value : Binary64)
deriving DecidableEq

structure Token where
  kind : TokenKind
  lexeme : String
  line : Nat
deriving DecidableEq

/-! ## Literals -/

namespace Literal

/-- Numbers below `10 ^ 16` and not below `10 ^ -4` are written positionally. -/
def numberLayout : Layout := ⟨-4, 15⟩

/-- A number with the fewest digits that read back; a NaN has no sign. -/
def renderNumber (x : Binary64) : String :=
  if x.isNaN then "NaN"
  else
    let sign := if x.isNegative then "-" else ""
    if x.isInfinite then sign ++ "inf"
    else sign ++ String.ofList (numberLayout.write (Decimal.shortest x))

def render : Literal → String
  | text value => value
  | number value => renderNumber value

/-- Numbers are compared as numbers. -/
def same : Literal → Literal → Bool
  | number x, number y => x.sameNumber y
  | text a, text b => a == b
  | _, _ => false

end Literal

/-! ## Kinds -/

namespace TokenKind

def name : TokenKind → String
  | operator op => op.name
  | keyword word => word.name
  | identifier => "Identifier"
  | string _ => "String"
  | number _ => "Number"
  | endOfFile => "EndOfFile"

def literal? : TokenKind → Option Literal
  | string value => some (.text value)
  | number value => some (.number value)
  | _ => none

/-- Kinds are the same when they and the values they carry are, numbers being compared as
numbers. -/
def same : TokenKind → TokenKind → Bool
  | number x, number y => x.sameNumber y
  | a, b => a == b

/-- The kind of a word: a keyword if it is spelled like one. -/
def ofWord (word : List Char) : TokenKind :=
  match Keyword.ofChars? word with
  | some k => .keyword k
  | none => .identifier

end TokenKind

/-! ## Tokens -/

namespace Token

/-- The token after the last one of a text. -/
def endOfFile (line : Nat) : Token := ⟨.endOfFile, "", line⟩

def isEndOfFile (t : Token) : Bool := t.kind == .endOfFile

def literal? (t : Token) : Option Literal := t.kind.literal?

/-- Two tokens without a literal agree in that. -/
def sameLiteral (a b : Token) : Bool :=
  match a.literal?, b.literal? with
  | none, none => true
  | some x, some y => x.same y
  | _, _ => false

def same (a b : Token) : Bool :=
  a.kind.same b.kind && a.lexeme == b.lexeme && a.line == b.line

/-- Kind, text and value, the value left empty if there is none. -/
def render (t : Token) : String :=
  t.kind.name ++ ": " ++ t.lexeme ++ ", " ++ (t.literal?.map Literal.render).getD ""

@[simp] theorem isEndOfFile_endOfFile (line : Nat) : (endOfFile line).isEndOfFile = true := by
  simp [isEndOfFile, endOfFile]

end Token

end LoxLexer
