import LoxLexer.Text.Invisible

/-! # Quoted text

A text between double quotes, on one line. Quotes and backslashes get a backslash, the common
controls have names, and every other character without a shape of its own is given by its number.
-/

set_option autoImplicit false

namespace LoxLexer

namespace Text

/-- A character by its number in hexadecimal. -/
def byNumber (c : Char) : List Char :=
  '\\' :: 'u' :: '\x7b' :: (Nat.toDigits 16 c.toNat ++ ['\x7d'])

def quotedChar (c : Char) : List Char :=
  match c with
  | '"' => ['\\', '"']
  | '\\' => ['\\', '\\']
  | '\n' => ['\\', 'n']
  | '\r' => ['\\', 'r']
  | '\t' => ['\\', 't']
  | '\x00' => ['\\', '0']
  | _ => if isInvisible c then byNumber c else [c]

def quoted (s : String) : String :=
  String.ofList ('"' :: (s.toList.flatMap quotedChar ++ ['"']))

end Text

end LoxLexer
