import LoxLexer.CommandLine.Arguments

/-! # Declared parameters

What a command line may give is declared as data: the name of each parameter, in which forms a
command line shows it, what is done each time it is given, and what it cannot be given with. No
parameter has to be given.

* `Parameter.declared`: the parameters of the program.
* `Matches.options`: how to run, from what was found for them.
-/

set_option autoImplicit false

namespace LoxLexer

/-- What is done each time a parameter is given. -/
inductive Effect where
  /-- A text is kept. There is only one. -/
  | value
  /-- It is kept that it was given, which is to happen once. -/
  | flag
  /-- A byte counts how often it was given. -/
  | count
deriving DecidableEq

/-- What is declared of a parameter among others. -/
structure Attributes (ι : Type) where
  name : String
  effect : Effect
  /-- Whether a dash and the first letter of the name stand for it. -/
  short : Bool := false
  /-- Whether two dashes and the name stand for it. -/
  long : Bool := false
  /-- What it cannot be given with. It is enough to say so on one side. -/
  conflicts : List ι := []

namespace Attributes

variable {ι : Type}

def letter? (a : Attributes ι) : Option Char := if a.short then a.name.toList.head? else none

def longName? (a : Attributes ι) : Option String := if a.long then some a.name else none

/-- A parameter that has neither form is given by a text alone. -/
def isPositional (a : Attributes ι) : Bool := !a.short && !a.long

end Attributes

/-- The attributes of each parameter. -/
abbrev Declaration (ι : Type) := ι → Attributes ι

/-! ## The program -/

inductive Parameter where
  | script | verbose | quiet
deriving DecidableEq

def Parameter.declared : Declaration Parameter
  | script => { name := "script", effect := .value }
  | verbose =>
    { name := "verbose", effect := .count, short := true, long := true, conflicts := [quiet] }
  | quiet => { name := "quiet", effect := .flag, short := true, long := true }

/-! ## What was found -/

/-- What was found for each parameter. Its effect says which of the three to look at. -/
structure Matches (ι : Type) where
  value : ι → Option String
  count : ι → UInt8
  flag : ι → Bool

/-- Each option is what was found for one of the parameters. -/
def Matches.options (m : Matches Parameter) : Options where
  script := m.value .script
  verbosity := (m.count .verbose).toNat
  quiet := m.flag .quiet

end LoxLexer
