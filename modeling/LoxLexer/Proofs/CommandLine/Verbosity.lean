import LoxLexer.CommandLine.Program
import LoxLexer.Proofs.CommandLine.Reading
import LoxLexer.Proofs.CommandLine.Switches
import Mathlib.Data.List.Induction

/-! # Flags in any arrangement

Only the numbers of switches and scripts count: `parse_verbosity` says which command lines of them
are accepted, and as what, for every parser that keeps the laws for the parameters of the program.
The number of verbose flags is not limited; the count of them stays where it cannot grow.

Groups and long flags are first taken apart (`toOption_parse_flatMap`). What is found in a command
line of single flags and scripts then follows from its last argument (`Settles.concat`).
-/

set_option autoImplicit false

namespace LoxLexer

namespace Argument

section
variable {P : Parser Parameter} (hP : P.Lawful Parameter.declared)
include hP

/-! ## Taking groups and names apart -/

theorem toOption_parse_joined (first : Switch) (more : List Switch) {before : List String}
    (h : "--" ∉ before) (after : List String) :
    (P.parse (before ++ (joined first more).text :: after)).toOption =
      (P.parse (before ++ ((joined first more).parts.map text ++ after))).toOption := by
  -- the first letter is taken off a group, and then stands before the rest of it
  induction more generalizing first before with
  | nil => rfl
  | cons x more ih =>
    have hbefore : "--" ∉ before ++ [(single first).text] := by
      rw [List.mem_append, List.mem_singleton]
      rintro (hmem | hsingle)
      · exact h hmem
      · exact (single first).text_ne_dashes hsingle.symm
    have hletters : ∀ c ∈ (first :: x :: more).map Switch.letter,
        Parameter.declared.HasLetter c := by
      intro c hc
      obtain ⟨x, -, rfl⟩ := List.mem_map.1 hc
      exact x.hasLetter
    calc (P.parse (before ++ (joined first (x :: more)).text :: after)).toOption
        = (P.parse (before ++ (single first).text :: (joined x more).text :: after)).toOption :=
          hP.joined h hletters after
      _ = (P.parse (before ++ [(single first).text] ++
            (joined x more).text :: after)).toOption := by
          rw [List.append_assoc, List.singleton_append]
      _ = (P.parse (before ++ [(single first).text] ++
            ((joined x more).parts.map text ++ after))).toOption := ih x hbefore
      _ = _ := by
          rw [List.append_assoc, List.singleton_append]
          rfl

theorem toOption_parse_parts (a : Argument) {before : List String} (h : "--" ∉ before)
    (after : List String) :
    (P.parse (before ++ a.text :: after)).toOption =
      (P.parse (before ++ (a.parts.map text ++ after))).toOption := by
  cases a with
  | joined first more => exact toOption_parse_joined hP first more h after
  | long x => exact hP.long h x.letter?_declared x.longName?_declared x.effect_ne_value after
  | script first more named => rfl

theorem toOption_parse_flatMap (args : List Argument) {before : List String}
    (h : "--" ∉ before) :
    (P.parse (before ++ args.map text)).toOption =
      (P.parse (before ++ (args.flatMap parts).map text)).toOption := by
  induction args generalizing before with
  | nil => rfl
  | cons a args ih =>
    have hbefore : "--" ∉ before ++ a.parts.map text := fun hmem =>
      (List.mem_append.1 hmem).elim h (dashes_not_mem a.parts)
    rw [List.map_cons, toOption_parse_parts hP a h, ← List.append_assoc, ih hbefore,
      List.flatMap_cons, List.map_append, List.append_assoc]

end

/-! ## What is found -/

/-- What was found is what is given in a command line. -/
structure Gives (m : Matches Parameter) (args : List Argument) : Prop where
  script : m.value .script = (scripts args).head?
  verbose : (m.count .verbose).toNat = min 255 (occurrences args .verbose)
  quiet : m.flag .quiet = decide (0 < occurrences args .quiet)

/-- A command line of allowed arguments is accepted as what it gives, and any other is refused,
whatever follows. -/
structure Settles (P : Parser Parameter) (args : List Argument) : Prop where
  accepted : Allowed args → ∃ m, P.parse (args.map text) = .ok m ∧ Gives m args
  refused : ¬ Allowed args → ∀ more, P.Refuses (args.map text ++ more)

namespace Gives

variable {m : Matches Parameter} {args : List Argument} (h : Gives m args)
include h

theorem given_script_iff : m.Given Parameter.declared .script ↔ scripts args ≠ [] := by
  show m.value .script ≠ none ↔ _
  rw [h.script, ne_eq, List.head?_eq_none_iff]

theorem given_verbose_iff :
    m.Given Parameter.declared .verbose ↔ 0 < occurrences args .verbose := by
  have hzero : m.count .verbose = 0 ↔ min 255 (occurrences args .verbose) = 0 := by
    rw [← UInt8.toNat_inj, h.verbose, UInt8.toNat_zero]
  show m.count .verbose ≠ 0 ↔ _
  rw [ne_eq, hzero]
  omega

theorem given_quiet_iff : m.Given Parameter.declared .quiet ↔ 0 < occurrences args .quiet := by
  show m.flag .quiet = true ↔ _
  rw [h.quiet, decide_eq_true_iff]

theorem level_options :
    m.options.level =
      if 0 < occurrences args .quiet then .error
      else if occurrences args .verbose = 0 then .warn
      else if occurrences args .verbose = 1 then .debug
      else .trace := by
  unfold Options.level Matches.options
  simp only [h.quiet, h.verbose, decide_eq_true_eq]
  by_cases hquiet : 0 < occurrences args .quiet
  · rw [if_pos hquiet, if_pos hquiet]
  · rw [if_neg hquiet, if_neg hquiet]
    match occurrences args .verbose with
    | 0 => rfl
    | 1 => rfl
    | n + 2 =>
      obtain ⟨k, hk⟩ : ∃ k, min 255 (n + 2) = k + 2 := ⟨min 253 n, by omega⟩
      rw [hk]
      rfl

end Gives

/-! ## One more argument -/

section
variable {P : Parser Parameter} {m : Matches Parameter} {args : List Argument} {a : Argument}

theorem Settles.of_accepted {m' : Matches Parameter} (hallowed : Allowed (args ++ [a]))
    (hparse : P.parse (args.map text ++ [a.text]) = .ok m') (hgives : Gives m' (args ++ [a])) :
    Settles P (args ++ [a]) where
  accepted _ := ⟨m', by rw [List.map_append]; exact hparse, hgives⟩
  refused h := absurd hallowed h

theorem Settles.of_refused (hallowed : ¬ Allowed (args ++ [a]))
    (hrefused : ∀ more, P.Refuses (args.map text ++ a.text :: more)) :
    Settles P (args ++ [a]) where
  accepted h := absurd h hallowed
  refused _ more := by
    rw [List.map_append, List.append_assoc]
    exact hrefused more

variable (hP : P.Lawful Parameter.declared) (hallowed : Allowed args)
  (hreaches : P.Reaches (args.map text) m) (hm : Gives m args)
include hP hallowed hreaches hm

theorem settles_verbose : Settles P (args ++ [single .verbose]) := by
  have hverbose : occurrences (args ++ [single .verbose]) .verbose =
      occurrences args .verbose + 1 := occurrences_single _ _ _
  have hquiet : occurrences (args ++ [single .verbose]) .quiet = occurrences args .quiet :=
    occurrences_single _ _ _
  by_cases hgiven : 0 < occurrences args .quiet
  · refine .of_refused (fun h => ?_) fun more => hP.exclusive (a := .verbose) hreaches rfl
      (Parameter.excludes_verbose_iff.2 rfl) (hm.given_quiet_iff.2 hgiven) more
    exact h.exclusive ⟨by rw [hquiet]; exact hgiven, by rw [hverbose]; exact Nat.succ_pos _⟩
  · obtain ⟨m', hparse, hcount, hrest⟩ := hP.counted (a := .verbose) hreaches rfl rfl
      (Matches.admits_verbose_iff.2 (mt hm.given_quiet_iff.1 hgiven))
    refine .of_accepted ⟨?_, ?_, ?_⟩ hparse ⟨?_, ?_, ?_⟩
    · rw [scripts_single]
      exact hallowed.one_script
    · rw [hquiet]
      exact hallowed.quiet_once
    · rw [hquiet]
      exact fun h => hgiven h.1
    · rw [scripts_single, ← hm.script]
      exact hrest .script (by decide)
    · rw [hcount, hm.verbose, hverbose]
      omega
    · rw [hquiet, ← hm.quiet]
      exact hrest .quiet (by decide)

theorem settles_quiet : Settles P (args ++ [single .quiet]) := by
  have hverbose : occurrences (args ++ [single .quiet]) .verbose = occurrences args .verbose :=
    occurrences_single _ _ _
  have hquiet : occurrences (args ++ [single .quiet]) .quiet = occurrences args .quiet + 1 :=
    occurrences_single _ _ _
  by_cases hgiven : 0 < occurrences args .quiet
  · refine .of_refused (fun h => ?_) fun more => hP.repeated (a := .quiet) hreaches rfl rfl
      (hm.given_quiet_iff.2 hgiven) more
    have honce := h.quiet_once
    omega
  by_cases hboth : 0 < occurrences args .verbose
  · refine .of_refused (fun h => ?_) fun more => hP.exclusive (a := .quiet) hreaches rfl
      (Parameter.excludes_quiet_iff.2 rfl) (hm.given_verbose_iff.2 hboth) more
    exact h.exclusive ⟨by rw [hquiet]; exact Nat.succ_pos _, by rw [hverbose]; exact hboth⟩
  · obtain ⟨m', hparse, hflag, hrest⟩ := hP.flagged (a := .quiet) hreaches rfl rfl
      (mt hm.given_quiet_iff.1 hgiven)
      (Matches.admits_quiet_iff.2 (mt hm.given_verbose_iff.1 hboth))
    refine .of_accepted ⟨?_, ?_, ?_⟩ hparse ⟨?_, ?_, ?_⟩
    · rw [scripts_single]
      exact hallowed.one_script
    · omega
    · rw [hverbose]
      exact fun h => hboth h.2
    · rw [scripts_single, ← hm.script]
      exact hrest .script (by decide)
    · rw [hverbose, ← hm.verbose]
      exact congrArg UInt8.toNat (hrest .verbose (by decide))
    · rw [hflag, hquiet, decide_eq_true (Nat.succ_pos _)]

theorem settles_script (first : Char) (more : List Char) (named : first ≠ '-') :
    Settles P (args ++ [script first more named]) := by
  have hcounts (x : Switch) :
      occurrences (args ++ [script first more named]) x = occurrences args x :=
    occurrences_append _ _ _
  have hscripts : scripts (args ++ [script first more named]) =
      scripts args ++ [String.ofList (first :: more)] := scripts_append _ _
  have hplain : IsPlain (String.ofList (first :: more)) := ⟨first, more, rfl, named⟩
  by_cases hgiven : scripts args = []
  · obtain ⟨m', hparse, hvalue, hrest⟩ := hP.valued (a := .script) hreaches rfl rfl
      (fun h => hm.given_script_iff.1 h hgiven)
      (fun b hb hne => absurd (Parameter.eq_script_of_isPositional hb) hne)
      Matches.admits_script hplain
    refine .of_accepted ⟨?_, ?_, ?_⟩ hparse ⟨?_, ?_, ?_⟩
    · rw [hscripts, hgiven]
      exact Nat.le_refl 1
    · rw [hcounts]
      exact hallowed.quiet_once
    · rw [hcounts, hcounts]
      exact hallowed.exclusive
    · rw [hvalue, hscripts, hgiven]
      rfl
    · rw [hcounts, ← hm.verbose]
      exact congrArg UInt8.toNat (hrest .verbose (by decide))
    · rw [hcounts, ← hm.quiet]
      exact hrest .quiet (by decide)
  · have hfull : ∀ b, (Parameter.declared b).isPositional = true →
        m.Given Parameter.declared b := by
      intro b hb
      rw [Parameter.eq_script_of_isPositional hb]
      exact hm.given_script_iff.2 hgiven
    refine .of_refused (fun h => ?_) fun after => hP.surplus hreaches hfull hplain after
    have hone := h.one_script
    have hpos := List.length_pos_iff.2 hgiven
    rw [hscripts, List.length_append, List.length_singleton] at hone
    omega

end

section
variable {P : Parser Parameter} (hP : P.Lawful Parameter.declared)
include hP

theorem Settles.concat {args : List Argument} (h : Settles P args) {a : Argument}
    (ha : a.IsSingle) : Settles P (args ++ [a]) := by
  by_cases hallowed : Allowed args
  · obtain ⟨m, hparse, hm⟩ := h.accepted hallowed
    have hreaches : P.Reaches (args.map text) m := ⟨hparse, dashes_not_mem args⟩
    cases ha with
    | flag x =>
      cases x with
      | verbose => exact settles_verbose hP hallowed hreaches hm
      | quiet => exact settles_quiet hP hallowed hreaches hm
    | script first more named =>
      exact settles_script hP hallowed hreaches hm first more named
  · -- what was refused before this argument is refused with whatever follows
    exact .of_refused (fun h' => hallowed h'.of_append) fun more => h.refused hallowed _

theorem settles_nil : Settles P [] where
  accepted _ := by
    obtain ⟨m, hparse, hm⟩ := hP.empty
    refine ⟨m, hparse, Classical.not_not.1 (hm .script), ?_, Bool.eq_false_iff.2 (hm .quiet)⟩
    rw [Classical.not_not.1 (hm .verbose)]
    rfl
  refused h := absurd ⟨Nat.zero_le 1, Nat.zero_le 1, fun h => Nat.lt_irrefl 0 h.1⟩ h

theorem settles_of_isSingle {args : List Argument} (h : ∀ a ∈ args, a.IsSingle) :
    Settles P args := by
  induction args using List.reverseRecOn with
  | nil => exact settles_nil hP
  | append_singleton args a ih =>
    refine (ih fun a ha => h a (List.mem_append_left _ ha)).concat hP ?_
    exact h a (List.mem_append_right _ List.mem_cons_self)

end

/-! ## Command lines that give the same -/

theorem Gives.of_alike {m : Matches Parameter} {args other : List Argument} (hm : Gives m args)
    (h : Alike other args) (hallowed : Allowed args) : Gives m other where
  script := by
    rw [h.scripts_eq hallowed]
    exact hm.script
  verbose := by
    rw [h.occurrences]
    exact hm.verbose
  quiet := by
    rw [h.occurrences]
    exact hm.quiet

theorem Gives.options_eq {m m' : Matches Parameter} {args : List Argument} (h : Gives m args)
    (h' : Gives m' args) : m.options = m'.options := by
  unfold Matches.options
  rw [h.script, h.verbose, h.quiet, h'.script, h'.verbose, h'.quiet]

section
variable {P : Parser Parameter} (hP : P.Lawful Parameter.declared)
include hP

theorem toOption_parse_eq (args : List Argument) :
    (P.parse (args.map text)).toOption = (P.parse ((args.flatMap parts).map text)).toOption :=
  toOption_parse_flatMap hP args List.not_mem_nil

theorem settles_flatMap_parts (args : List Argument) : Settles P (args.flatMap parts) :=
  settles_of_isSingle hP fun part hpart => by
    obtain ⟨a, -, ha⟩ := List.mem_flatMap.1 hpart
    exact isSingle_of_mem_parts ha

theorem parse_of_allowed {args : List Argument} (h : Allowed args) :
    ∃ m, P.parse (args.map text) = .ok m ∧ Gives m args := by
  have halike : Alike (args.flatMap parts) args := .flatMap_parts args
  obtain ⟨m, hparse, hm⟩ := (settles_flatMap_parts hP args).accepted (halike.allowed h)
  refine ⟨m, ?_, hm.of_alike halike.symm (halike.allowed h)⟩
  have hsame := toOption_parse_eq hP args
  rw [hparse] at hsame
  cases hargs : P.parse (args.map text) with
  | error refusal => simp [hargs, Except.toOption] at hsame
  | ok m' =>
    rw [hargs] at hsame
    rw [Option.some.inj hsame]

theorem refuses_of_not_allowed {args : List Argument} (h : ¬ Allowed args) :
    P.Refuses (args.map text) := by
  have halike : Alike (args.flatMap parts) args := .flatMap_parts args
  obtain ⟨refusal, hparse⟩ :=
    (settles_flatMap_parts hP args).refused (mt halike.symm.allowed h) []
  have hsame := toOption_parse_eq hP args
  rw [List.append_nil] at hparse
  rw [hparse] at hsame
  cases hargs : P.parse (args.map text) with
  | error refusal => exact ⟨refusal, hargs⟩
  | ok m => simp [hargs, Except.toOption] at hsame

theorem toOption_options_eq {args other : List Argument} (h : Alike other args) :
    (P.parse (other.map text)).toOption.map Matches.options =
      (P.parse (args.map text)).toOption.map Matches.options := by
  by_cases hallowed : Allowed args
  · obtain ⟨m, hparse, hm⟩ := parse_of_allowed hP hallowed
    obtain ⟨m', hparse', hm'⟩ := parse_of_allowed hP (h.allowed hallowed)
    rw [hparse, hparse']
    exact congrArg some (hm'.options_eq (hm.of_alike h hallowed))
  · obtain ⟨refusal, hparse⟩ := refuses_of_not_allowed hP hallowed
    obtain ⟨refusal', hparse'⟩ := refuses_of_not_allowed hP (mt h.symm.allowed hallowed)
    rw [hparse, hparse']
    rfl

end

/-- **Only the numbers of flags count.** A command line of verbose and quiet flags, in groups or
not, and scripts is accepted if and only if it has no more than one script, no more than one quiet
flag and not both kinds of flags. It then runs its script, and the flags choose the level of the
log, however many verbose ones there are: their count stays where it cannot grow. The order makes no
difference. -/
theorem parse_verbosity {P : Parser Parameter} (hP : P.Lawful Parameter.declared)
    (args : List Argument) :
    ((∃ m, P.parse (args.map text) = .ok m) ↔
      (scripts args).length ≤ 1 ∧ occurrences args .quiet ≤ 1 ∧
        ¬ (0 < occurrences args .quiet ∧ 0 < occurrences args .verbose)) ∧
    (∀ m, P.parse (args.map text) = .ok m →
      m.options.script = (scripts args).head? ∧
      m.options.verbosity = min 255 (occurrences args .verbose) ∧
      m.options.level =
        if 0 < occurrences args .quiet then .error
        else if occurrences args .verbose = 0 then .warn
        else if occurrences args .verbose = 1 then .debug
        else .trace) ∧
    ∀ other : List Argument, other.Perm args →
      (P.parse (other.map text)).toOption.map Matches.options =
        (P.parse (args.map text)).toOption.map Matches.options := by
  have haccepted : ∀ {m}, P.parse (args.map text) = .ok m → Allowed args ∧ Gives m args := by
    intro m hparse
    by_cases hallowed : Allowed args
    · obtain ⟨m', hparse', hm'⟩ := parse_of_allowed hP hallowed
      obtain rfl : m' = m := Except.ok.inj (hparse'.symm.trans hparse)
      exact ⟨hallowed, hm'⟩
    · obtain ⟨refusal, hrefusal⟩ := refuses_of_not_allowed hP hallowed
      rw [hrefusal] at hparse
      cases hparse
  refine ⟨⟨fun ⟨m, hparse⟩ => ?_, fun ⟨hone, honce, hexclusive⟩ => ?_⟩, fun m hparse => ?_,
    fun other hother => ?_⟩
  · obtain ⟨⟨hone, honce, hexclusive⟩, -⟩ := haccepted hparse
    exact ⟨hone, honce, hexclusive⟩
  · obtain ⟨m, hparse, -⟩ := parse_of_allowed hP ⟨hone, honce, hexclusive⟩
    exact ⟨m, hparse⟩
  · obtain ⟨-, hm⟩ := haccepted hparse
    exact ⟨hm.script, hm.verbose, hm.level_options⟩
  · exact toOption_options_eq hP (.of_perm hother)

/-- A count that starts again behind the highest value of a byte would be zero here. -/
theorem parse_verbosity_beyond_byte :
    let args : List Argument :=
      [.joined .verbose (List.replicate 254 .verbose), .script 'a' [] (by decide), .long .verbose]
    Request.parser.Lawful Parameter.declared ∧
      ∃ options, Request.parse (args.map text) = .ok (.run options) ∧
        options.script = some "a" ∧ options.verbosity = 255 ∧ options.level = .trace := by
  intro args
  have hverbose : occurrences args .verbose = 256 := by decide +kernel
  have hquiet : occurrences args .quiet = 0 := by decide +kernel
  obtain ⟨haccepted, hfound, -⟩ := parse_verbosity Request.parser_lawful args
  obtain ⟨m, hparse⟩ := haccepted.2 ⟨Nat.le_refl 1, by omega, by omega⟩
  obtain ⟨hscript, hcount, hlevel⟩ := hfound m hparse
  refine ⟨Request.parser_lawful, m.options, Request.parse_eq_run_iff.2 ⟨m, hparse, rfl⟩,
    hscript, ?_, ?_⟩
  · rw [hcount, hverbose]
    rfl
  · rw [hlevel, hverbose, hquiet]
    rfl

end Argument

end LoxLexer
