import LoxLexer.CommandLine.Parameters

/-! # Parsers of command lines

A `Parser` is any function that refuses a command line or says what was found in it.
`Parser.Lawful` says how it follows the attributes of the declared parameters. Each law is about one
place in a command line: a form that may be written otherwise, or one more argument behind a command
line that was not refused. What a command line of many arguments comes to is left to be proved.
-/

set_option autoImplicit false

namespace LoxLexer

variable {ι : Type}

/-! ## Forms -/

/-- A dash and the letters of one parameter, or of several. -/
def dashed (letters : List Char) : String := String.ofList ('-' :: letters)

/-- Two dashes and the name of a parameter. -/
def doubleDashed (name : String) : String := String.ofList ('-' :: '-' :: name.toList)

/-- A text that is not empty and does not start with a dash stands for itself. -/
def IsPlain (text : String) : Prop := ∃ c cs, text = String.ofList (c :: cs) ∧ c ≠ '-'

theorem IsPlain.ne_empty {text : String} (h : IsPlain text) : text ≠ "" := by
  obtain ⟨c, cs, rfl, -⟩ := h
  simp

namespace Declaration

/-- The letter stands for a parameter, and for nothing that takes a text. -/
def HasLetter (D : Declaration ι) (c : Char) : Prop :=
  ∃ a, (D a).letter? = some c ∧ (D a).effect ≠ .value

/-- One of the two was declared to be in conflict with the other. -/
def Excludes (D : Declaration ι) (a b : ι) : Prop := b ∈ (D a).conflicts ∨ a ∈ (D b).conflicts

end Declaration

namespace Matches

/-- The parameter was found. -/
def Given (m : Matches ι) (D : Declaration ι) (a : ι) : Prop :=
  match (D a).effect with
  | .value => m.value a ≠ none
  | .flag => m.flag a = true
  | .count => m.count a ≠ 0

/-- Nothing that the parameter is in conflict with was found. -/
def Admits (m : Matches ι) (D : Declaration ι) (a : ι) : Prop :=
  ∀ b, D.Excludes a b → ¬ m.Given D b

/-- The same was found for all other parameters. -/
def AgreesOff (m m' : Matches ι) (D : Declaration ι) (a : ι) : Prop :=
  ∀ b, b ≠ a → match (D b).effect with
    | .value => m'.value b = m.value b
    | .flag => m'.flag b = m.flag b
    | .count => m'.count b = m.count b

end Matches

/-! ## Laws -/

structure Parser (ι : Type) where
  Refusal : Type
  parse : List String → Except Refusal (Matches ι)

namespace Parser

def Refuses (P : Parser ι) (args : List String) : Prop := ∃ refusal, P.parse args = .error refusal

/-- The arguments are no reason to refuse, and what follows them may be a flag. -/
structure Reaches (P : Parser ι) (args : List String) (m : Matches ι) : Prop where
  parse : P.parse args = .ok m
  unescaped : "--" ∉ args

/-- A parser does what is documented for the attributes of the parameters. -/
structure Lawful (P : Parser ι) (D : Declaration ι) : Prop where
  /-- No parameter has to be given. -/
  empty : ∃ m, P.parse [] = .ok m ∧ ∀ a, ¬ m.Given D a
  /-- Letters may be joined behind one dash. -/
  joined {before : List String} {c d : Char} {cs : List Char} (unescaped : "--" ∉ before)
    (letters : ∀ x ∈ c :: d :: cs, D.HasLetter x) (after : List String) :
    (P.parse (before ++ dashed (c :: d :: cs) :: after)).toOption =
      (P.parse (before ++ dashed [c] :: dashed (d :: cs) :: after)).toOption
  /-- A name stands for what its letter stands for. -/
  long {before : List String} {a : ι} {c : Char} {name : String} (unescaped : "--" ∉ before)
    (letter : (D a).letter? = some c) (long : (D a).longName? = some name)
    (effect : (D a).effect ≠ .value) (after : List String) :
    (P.parse (before ++ doubleDashed name :: after)).toOption =
      (P.parse (before ++ dashed [c] :: after)).toOption
  /-- A count goes up by one, and stays at the highest value that a byte has. -/
  counted {args : List String} {m : Matches ι} {a : ι} {c : Char} (reaches : P.Reaches args m)
    (letter : (D a).letter? = some c) (effect : (D a).effect = .count) (admits : m.Admits D a) :
    ∃ m', P.parse (args ++ [dashed [c]]) = .ok m' ∧
      (m'.count a).toNat = min 255 ((m.count a).toNat + 1) ∧ m.AgreesOff m' D a
  /-- A flag is found where there was none. -/
  flagged {args : List String} {m : Matches ι} {a : ι} {c : Char} (reaches : P.Reaches args m)
    (letter : (D a).letter? = some c) (effect : (D a).effect = .flag) (new : ¬ m.Given D a)
    (admits : m.Admits D a) :
    ∃ m', P.parse (args ++ [dashed [c]]) = .ok m' ∧ m'.flag a = true ∧ m.AgreesOff m' D a
  /-- A flag is not given twice. -/
  repeated {args : List String} {m : Matches ι} {a : ι} {c : Char} (reaches : P.Reaches args m)
    (letter : (D a).letter? = some c) (effect : (D a).effect = .flag) (given : m.Given D a)
    (more : List String) : P.Refuses (args ++ dashed [c] :: more)
  /-- A conflict works both ways. -/
  exclusive {args : List String} {m : Matches ι} {a b : ι} {c : Char} (reaches : P.Reaches args m)
    (letter : (D a).letter? = some c) (excludes : D.Excludes a b) (given : m.Given D b)
    (more : List String) : P.Refuses (args ++ dashed [c] :: more)
  /-- A text is the value of the one positional parameter that has none. -/
  valued {args : List String} {m : Matches ι} {a : ι} {text : String} (reaches : P.Reaches args m)
    (positional : (D a).isPositional = true) (effect : (D a).effect = .value)
    (new : ¬ m.Given D a) (last : ∀ b, (D b).isPositional = true → b ≠ a → m.Given D b)
    (admits : m.Admits D a) (plain : IsPlain text) :
    ∃ m', P.parse (args ++ [text]) = .ok m' ∧ m'.value a = some text ∧ m.AgreesOff m' D a
  /-- There are no more texts than positional parameters. -/
  surplus {args : List String} {m : Matches ι} {text : String} (reaches : P.Reaches args m)
    (full : ∀ a, (D a).isPositional = true → m.Given D a) (plain : IsPlain text)
    (more : List String) : P.Refuses (args ++ text :: more)

end Parser

/-! ## The parameters of the program -/

namespace Parameter

theorem eq_script_of_isPositional {a : Parameter} (h : (declared a).isPositional = true) :
    a = .script := by
  cases a <;> cases h
  rfl

theorem excludes_verbose_iff {a : Parameter} : declared.Excludes .verbose a ↔ a = .quiet := by
  cases a <;> simp [Declaration.Excludes, declared]

theorem excludes_quiet_iff {a : Parameter} : declared.Excludes .quiet a ↔ a = .verbose := by
  cases a <;> simp [Declaration.Excludes, declared]

theorem not_excludes_script (a : Parameter) : ¬ declared.Excludes .script a := by
  cases a <;> simp [Declaration.Excludes, declared]

end Parameter

namespace Matches

variable {m : Matches Parameter}

theorem admits_verbose_iff :
    m.Admits Parameter.declared .verbose ↔ ¬ m.Given Parameter.declared .quiet := by
  unfold Admits
  simp only [Parameter.excludes_verbose_iff, forall_eq]

theorem admits_quiet_iff :
    m.Admits Parameter.declared .quiet ↔ ¬ m.Given Parameter.declared .verbose := by
  unfold Admits
  simp only [Parameter.excludes_quiet_iff, forall_eq]

theorem admits_script : m.Admits Parameter.declared .script := fun a ha =>
  absurd ha (Parameter.not_excludes_script a)

end Matches

end LoxLexer
