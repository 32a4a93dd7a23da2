/-! # Keywords

The reserved words of Lox. They are spelled in lower case, and a longer word that starts with one
is not reserved.
-/

set_option autoImplicit false

namespace LoxLexer

inductive Keyword where
  | andWord | classWord | elseWord | falseWord | funWord | forWord | ifWord | nilWord | orWord
  | printWord | returnWord | superWord | thisWord | trueWord | varWord | whileWord
deriving DecidableEq

namespace Keyword

def chars : Keyword → List Char
  | andWord => ['a', 'n', 'd']
  | classWord => ['c', 'l', 'a', 's', 's']
  | elseWord => ['e', 'l', 's', 'e']
  | falseWord => ['f', 'a', 'l', 's', 'e']
  | funWord => ['f', 'u', 'n']
  | forWord => ['f', 'o', 'r']
  | ifWord => ['i', 'f']
  | nilWord => ['n', 'i', 'l']
  | orWord => ['o', 'r']
  | printWord => ['p', 'r', 'i', 'n', 't']
  | returnWord => ['r', 'e', 't', 'u', 'r', 'n']
  | superWord => ['s', 'u', 'p', 'e', 'r']
  | thisWord => ['t', 'h', 'i', 's']
  | trueWord => ['t', 'r', 'u', 'e']
  | varWord => ['v', 'a', 'r']
  | whileWord => ['w', 'h', 'i', 'l', 'e']

def name : Keyword → String
  | andWord => "And"
  | classWord => "Class"
  | elseWord => "Else"
  | falseWord => "False"
  | funWord => "Fun"
  | forWord => "For"
  | ifWord => "If"
  | nilWord => "Nil"
  | orWord => "Or"
  | printWord => "Print"
  | returnWord => "Return"
  | superWord => "Super"
  | thisWord => "This"
  | trueWord => "True"
  | varWord => "Var"
  | whileWord => "While"

/-- Every keyword, each once. -/
def all : List Keyword :=
  [andWord, classWord, elseWord, falseWord, funWord, forWord, ifWord, nilWord, orWord,
    printWord, returnWord, superWord, thisWord, trueWord, varWord, whileWord]

theorem mem_all (k : Keyword) : k ∈ all := by
  cases k <;> decide

/-- The keyword with exactly this spelling. -/
def ofChars? (word : List Char) : Option Keyword := all.find? (·.chars == word)

theorem chars_of_ofChars? {word : List Char} {k : Keyword} (h : ofChars? word = some k) :
    k.chars = word := by
  have hk := List.find?_some h
  exact eq_of_beq hk

theorem ofChars?_chars (k : Keyword) : ofChars? k.chars = some k := by
  cases k <;> decide

end Keyword

end LoxLexer
