import LoxLexer.Proofs.CommandLine.Parser
import Mathlib.Data.List.Count
import Mathlib.Data.List.Perm.Basic

/-! # Command lines of switches and scripts

The flags that say how much to log may stand anywhere, be written long and be joined in groups of
any length, and a script may stand between them. `occurrences` and `scripts` are what such a command
line gives, and `Alike` is a command line that gives the same: one with its arguments in another
order (`Alike.of_perm`), or with its groups and long flags taken apart (`Alike.flatMap_parts`).
-/

set_option autoImplicit false

namespace LoxLexer

/-! ## Arguments about verbosity -/

/-- A flag that says how much to log. -/
inductive Switch where
  | verbose | quiet
deriving DecidableEq

namespace Switch

def parameter : Switch → Parameter
  | verbose => .verbose
  | quiet => .quiet

def letter : Switch → Char
  | verbose => 'v'
  | quiet => 'q'

def name : Switch → String
  | verbose => "verbose"
  | quiet => "quiet"

theorem letter?_declared (x : Switch) :
    (Parameter.declared x.parameter).letter? = some x.letter := by
  cases x <;> rfl

theorem longName?_declared (x : Switch) :
    (Parameter.declared x.parameter).longName? = some x.name := by
  cases x <;> rfl

theorem effect_ne_value (x : Switch) : (Parameter.declared x.parameter).effect ≠ .value := by
  cases x <;> decide

theorem hasLetter (x : Switch) : Parameter.declared.HasLetter x.letter :=
  ⟨x.parameter, x.letter?_declared, x.effect_ne_value⟩

end Switch

/-- One or more short flags joined behind a dash, a long flag, or a script whose name is not empty
and does not start with a dash. -/
inductive Argument where
  | joined (first : Switch) (more : List Switch)
  | long (x : Switch)
  | script (first : Char) (more : List Char) (named : first ≠ '-')

namespace Argument

def text : Argument → String
  | joined first more => dashed ((first :: more).map Switch.letter)
  | long x => doubleDashed x.name
  | script first more _ => String.ofList (first :: more)

def switches : Argument → List Switch
  | joined first more => first :: more
  | long x => [x]
  | script _ _ _ => []

def script? : Argument → Option String
  | script first more _ => some (String.ofList (first :: more))
  | joined _ _ | long _ => none

/-- How often a flag is given in all arguments and groups. -/
def occurrences (args : List Argument) (x : Switch) : Nat := (args.flatMap switches).count x

def scripts (args : List Argument) : List String := args.filterMap script?

theorem occurrences_append (xs ys : List Argument) (x : Switch) :
    occurrences (xs ++ ys) x = occurrences xs x + occurrences ys x := by
  rw [occurrences, List.flatMap_append, List.count_append, occurrences, occurrences]

theorem scripts_append (xs ys : List Argument) : scripts (xs ++ ys) = scripts xs ++ scripts ys :=
  List.filterMap_append

theorem text_ne_dashes (a : Argument) : a.text ≠ "--" := by
  intro h
  have hchars := congrArg String.toList h
  cases a with
  | joined first more =>
    rw [text, dashed, String.toList_ofList] at hchars
    cases first <;> simp [Switch.letter] at hchars
  | long x =>
    rw [text, doubleDashed, String.toList_ofList] at hchars
    cases x <;> simp [Switch.name] at hchars
  | script first more named =>
    rw [text, String.toList_ofList] at hchars
    exact named (List.cons.inj hchars).1

theorem dashes_not_mem (args : List Argument) : "--" ∉ args.map text := by
  rw [List.mem_map]
  rintro ⟨a, -, ha⟩
  exact a.text_ne_dashes ha

/-! ## Single flags -/

def single (x : Switch) : Argument := joined x []

/-- The same flags one by one. -/
def parts : Argument → List Argument
  | joined first more => (first :: more).map single
  | long x => [single x]
  | script first more named => [script first more named]

theorem occurrences_single (x : Switch) (args : List Argument) (y : Switch) :
    occurrences (args ++ [single x]) y = occurrences args y + [x].count y :=
  occurrences_append args [single x] y

theorem scripts_single (x : Switch) (args : List Argument) :
    scripts (args ++ [single x]) = scripts args := by
  rw [scripts_append]
  exact List.append_nil _

/-- One flag, by its letter, or a script. -/
inductive IsSingle : Argument → Prop
  | flag (x : Switch) : IsSingle (single x)
  | script (first : Char) (more : List Char) (named : first ≠ '-') :
    IsSingle (script first more named)

theorem isSingle_of_mem_parts {a part : Argument} (h : part ∈ a.parts) : part.IsSingle := by
  cases a with
  | joined first more =>
    obtain ⟨x, -, rfl⟩ := List.mem_map.1 h
    exact .flag x
  | long x =>
    obtain rfl := List.mem_singleton.1 h
    exact .flag x
  | script first more named =>
    obtain rfl := List.mem_singleton.1 h
    exact .script first more named

theorem flatMap_switches_parts (a : Argument) : a.parts.flatMap switches = a.switches := by
  cases a with
  | joined first more =>
    rw [parts, List.flatMap_map]
    exact List.flatMap_singleton' _
  | long x => rfl
  | script first more named => rfl

theorem filterMap_script?_parts (a : Argument) : a.parts.filterMap script? = a.script?.toList := by
  cases a with
  | joined first more =>
    rw [parts, List.filterMap_map]
    exact List.filterMap_eq_nil_iff.2 fun x _ => rfl
  | long x => rfl
  | script first more named => rfl

theorem occurrences_flatMap_parts (args : List Argument) (x : Switch) :
    occurrences (args.flatMap parts) x = occurrences args x := by
  simp only [occurrences, List.flatMap_assoc, flatMap_switches_parts]

theorem scripts_flatMap_parts (args : List Argument) :
    scripts (args.flatMap parts) = scripts args := by
  simp only [scripts, List.filterMap_flatMap, filterMap_script?_parts]
  exact (List.filterMap_eq_flatMap_toList _ _).symm

/-! ## What is given -/

/-- What may be given in a command line. -/
structure Allowed (args : List Argument) : Prop where
  one_script : (scripts args).length ≤ 1
  quiet_once : occurrences args .quiet ≤ 1
  exclusive : ¬ (0 < occurrences args .quiet ∧ 0 < occurrences args .verbose)

theorem Allowed.of_append {args more : List Argument} (h : Allowed (args ++ more)) :
    Allowed args := by
  obtain ⟨hone, honce, hexclusive⟩ := h
  rw [scripts_append, List.length_append] at hone
  rw [occurrences_append] at honce hexclusive
  rw [occurrences_append] at hexclusive
  exact ⟨by omega, by omega, by omega⟩

/-- The same flags and scripts are given, however they are arranged. -/
structure Alike (other args : List Argument) : Prop where
  occurrences (x : Switch) : occurrences other x = occurrences args x
  scripts : (scripts other).Perm (scripts args)

namespace Alike

variable {args other : List Argument}

theorem of_perm (h : other.Perm args) : Alike other args where
  occurrences x := (h.flatMap_right _).count_eq x
  scripts := h.filterMap _

theorem flatMap_parts (args : List Argument) : Alike (args.flatMap parts) args where
  occurrences := occurrences_flatMap_parts args
  scripts := .of_eq (scripts_flatMap_parts args)

theorem symm (h : Alike other args) : Alike args other where
  occurrences x := (h.occurrences x).symm
  scripts := h.scripts.symm

theorem allowed (h : Alike other args) (hallowed : Allowed args) : Allowed other where
  one_script := by
    rw [h.scripts.length_eq]
    exact hallowed.one_script
  quiet_once := by
    rw [h.occurrences]
    exact hallowed.quiet_once
  exclusive := by
    rw [h.occurrences, h.occurrences]
    exact hallowed.exclusive

/-- A single script has no order. -/
theorem scripts_eq (h : Alike other args) (hallowed : Allowed args) :
    Argument.scripts other = Argument.scripts args := by
  have hone := hallowed.one_script
  have hscripts := h.scripts
  match hargs : Argument.scripts args with
  | [] => exact List.perm_nil.1 (hargs ▸ hscripts)
  | [name] => exact List.perm_singleton.1 (hargs ▸ hscripts)
  | _ :: _ :: _ => simp [hargs] at hone

end Alike

end Argument

end LoxLexer
