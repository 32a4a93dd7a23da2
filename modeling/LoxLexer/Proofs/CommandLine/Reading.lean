import LoxLexer.Proofs.CommandLine.Parser

/-! # The parser that runs

`Request.parser` is `Request.parse`, with the options as what was found for the parameters
(`Request.parse_eq_run_iff`). `Request.parser_lawful`: it keeps the laws of a parser for the
parameters of the program. A law is about what was found, and reading goes on from there
(`exists_seen`), so that each comes down to what one more argument does; only a conflict is settled
later, and is still there then (`Kept.read`).
-/

set_option autoImplicit false

namespace LoxLexer

/-- Options as what was found for the parameters. -/
def Options.matches (o : Options) : Matches Parameter where
  value
    | .script => o.script
    | _ => none
  count
    | .verbose => UInt8.ofNatClamp o.verbosity
    | _ => 0
  flag
    | .quiet => o.quiet
    | _ => false

/-- Whoever asks for help is not told what was found. -/
def Request.parser : Parser Parameter where
  Refusal := Arguments.Stop
  parse args :=
    match Request.parse args with
    | .ok (.run options) => .ok options.matches
    | .ok .help => .error .help
    | .error e => .error (.wrong e)

namespace Options

theorem toNat_clamp (n : Nat) : (UInt8.ofNatClamp n).toNat = min 255 n := by
  rcases Nat.lt_or_ge n UInt8.size with h | h
  · rw [UInt8.toNat_ofNatClamp_of_lt h, Nat.min_eq_right (Nat.le_of_lt_succ h)]
  · rw [UInt8.toNat_ofNatClamp_of_le h, Nat.min_eq_left (Nat.le_of_succ_le h)]
    rfl

theorem given_verbose_iff (o : Options) :
    o.matches.Given Parameter.declared .verbose ↔ 0 < o.verbosity := by
  show UInt8.ofNatClamp o.verbosity ≠ 0 ↔ _
  rw [ne_eq, ← UInt8.toNat_inj, toNat_clamp]
  show min 255 o.verbosity ≠ 0 ↔ _
  omega

theorem options_matches {o : Options} (h : o.verbosity ≤ Arguments.verbosityLimit) :
    o.matches.options = o := by
  have hcount : (UInt8.ofNatClamp o.verbosity).toNat = o.verbosity := by
    rw [toNat_clamp]
    exact Nat.min_eq_right h
  show Options.mk o.script (UInt8.ofNatClamp o.verbosity).toNat o.quiet = o
  rw [hcount]

end Options

namespace Arguments

theorem bind_eq_ok {α β : Type} {r : Except Stop α} {f : α → Except Stop β} {b : β}
    (h : (r >>= f) = .ok b) : ∃ a, r = .ok a ∧ f a = .ok b := by
  cases r with
  | error stop => cases h
  | ok a => exact ⟨a, rfl, h⟩

/-! ### What one argument does -/

namespace Seen

variable {s s' : Seen}

def withVerbose (s : Seen) : Seen where
  options := { s.options with verbosity := min verbosityLimit (s.options.verbosity + 1) }
  quietFirst := s.quietFirst || s.options.quiet

def withQuiet (s : Seen) : Seen := { s with options := { s.options with quiet := true } }

def withScript (s : Seen) (text : String) : Seen :=
  { s with options := { s.options with script := some text } }

section
variable (hnamed : s.options.script ≠ some "")
include hnamed

theorem flag_verbose : s.flag .verbose = .ok s.withVerbose := by
  rw [flag, if_neg hnamed]
  rfl

theorem flag_quiet (hquiet : ¬ s.options.quiet = true) : s.flag .quiet = .ok s.withQuiet := by
  rw [flag, if_neg hnamed]
  exact if_neg hquiet

theorem flag_quiet_twice (hquiet : s.options.quiet = true) :
    s.flag .quiet = .error (.wrong (.repeatedFlag .quiet)) := by
  rw [flag, if_neg hnamed]
  exact if_pos hquiet

end

theorem flag_cases {f : Flag} (h : s.flag f = .ok s') :
    s' = s.withVerbose ∨ (¬ s.options.quiet = true ∧ s' = s.withQuiet) := by
  unfold flag at h
  split at h
  · cases h
  · cases f with
    | help => cases h
    | verbose => exact .inl (Except.ok.inj h).symm
    | quiet =>
      dsimp only at h
      split at h
      · cases h
      · next hquiet => exact .inr ⟨hquiet, (Except.ok.inj h).symm⟩

theorem positional_eq (hnone : s.options.script = none) (text : String) :
    s.positional text = .ok (s.withScript text) := by
  rw [positional, hnone]
  rfl

theorem eq_of_positional {text : String} (h : s.positional text = .ok s') :
    s' = s.withScript text := by
  unfold positional at h
  split at h
  · exact (Except.ok.inj h).symm
  · cases h

end Seen

/-! ### What reading keeps -/

/-- It is kept by all that a command line may give. -/
structure Kept (I : Seen → Prop) : Prop where
  flag {s s' : Seen} {f : Flag} : I s → s.flag f = .ok s' → I s'
  positional {s s' : Seen} {text : String} : I s → s.positional text = .ok s' → I s'

theorem foldlM_kept {α : Type} {I : Seen → Prop} {f : Seen → α → Reading}
    (hf : ∀ {s s' : Seen} {x : α}, I s → f s x = .ok s' → I s') (xs : List α) {s s' : Seen}
    (h : I s) (hs' : xs.foldlM f s = .ok s') : I s' := by
  induction xs generalizing s with
  | nil =>
    cases hs'
    exact h
  | cons x xs ih =>
    rw [List.foldlM_cons] at hs'
    obtain ⟨s'', hx, hxs⟩ := bind_eq_ok hs'
    exact ih (hf h hx) hxs

namespace Kept

variable {I : Seen → Prop} (hI : Kept I) {s s' : Seen} (h : I s)
include hI h

theorem short {c : Char} (hs' : s.short c = .ok s') : I s' := by
  unfold Seen.short at hs'
  split at hs'
  · exact hI.flag h hs'
  · cases hs'

theorem long {body : List Char} (hs' : s.long body = .ok s') : I s' := by
  unfold Seen.long at hs'
  dsimp only at hs'
  split at hs'
  · cases hs'
  · exact hI.flag h hs'
  · cases hs'

theorem argument {text : String} (hs' : s.argument text = .ok s') : I s' := by
  unfold Seen.argument at hs'
  split at hs'
  · exact hI.long h hs'
  · exact foldlM_kept (fun h hs' => hI.short h hs') _ h hs'
  · exact hI.positional h hs'

omit h in
theorem read (args : List String) {s : Seen} (h : I s) (hs' : read args s = .ok s') : I s' := by
  induction args generalizing s with
  | nil =>
    cases hs'
    exact h
  | cons text args ih =>
    rw [Arguments.read] at hs'
    split at hs'
    · exact foldlM_kept hI.positional args h hs'
    · split at hs'
      · next hargument => exact ih (hI.argument h hargument) hs'
      · cases hs'

end Kept

/-- Both kinds of flags were given. -/
def Seen.Both (s : Seen) : Prop := s.options.quiet = true ∧ 0 < s.options.verbosity

theorem Seen.both_withVerbose {s : Seen} (hquiet : s.options.quiet = true) : s.withVerbose.Both :=
  ⟨hquiet, Nat.lt_min.2 ⟨by decide, Nat.succ_pos _⟩⟩

theorem kept_both : Kept Seen.Both where
  flag h hs' := by
    obtain rfl | ⟨hquiet, -⟩ := Seen.flag_cases hs'
    · exact Seen.both_withVerbose h.1
    · exact absurd h.1 hquiet
  positional h hs' := by
    obtain rfl := Seen.eq_of_positional hs'
    exact h

theorem kept_limited : Kept fun s => s.options.verbosity ≤ verbosityLimit where
  flag h hs' := by
    obtain rfl | ⟨-, rfl⟩ := Seen.flag_cases hs'
    · exact Nat.min_le_left _ _
    · exact h
  positional h hs' := by
    obtain rfl := Seen.eq_of_positional hs'
    exact h

/-! ### What is settled -/

/-- Nothing in a command line that has been read is a reason to refuse it. -/
structure Seen.Accepted (s : Seen) : Prop where
  named : s.options.script ≠ some ""
  exclusive : ¬ s.Both

theorem settle_eq_ok_iff {s : Seen} {options : Options} :
    settle s = .ok options ↔ s.Accepted ∧ s.options = options := by
  unfold settle
  by_cases hscript : s.options.script = some ""
  · rw [if_pos hscript]
    exact ⟨nofun, fun h => absurd hscript h.1.named⟩
  · by_cases hboth : s.options.quiet = true ∧ 0 < s.options.verbosity
    · rw [if_neg hscript, if_pos hboth]
      refine ⟨fun h => ?_, fun h => absurd hboth h.1.exclusive⟩
      split at h <;> cases h
    · rw [if_neg hscript, if_neg hboth]
      exact ⟨fun h => ⟨⟨hscript, hboth⟩, Except.ok.inj h⟩, fun h => congrArg _ h.2⟩

/-- What was found in a command line that has been read. -/
def Seen.finish (s : Seen) : Except Stop (Matches Parameter) :=
  match settle s with
  | .ok options => .ok options.matches
  | .error e => .error (.wrong e)

theorem Seen.Accepted.finish_eq {s : Seen} (h : s.Accepted) : s.finish = .ok s.options.matches := by
  rw [Seen.finish, settle_eq_ok_iff.2 ⟨h, rfl⟩]

theorem Seen.accepted_of_finish {s : Seen} {m : Matches Parameter} (h : s.finish = .ok m) :
    s.Accepted ∧ s.options.matches = m := by
  unfold Seen.finish at h
  cases hsettle : settle s with
  | error e =>
    rw [hsettle] at h
    cases h
  | ok options =>
    rw [hsettle] at h
    obtain ⟨haccepted, rfl⟩ := settle_eq_ok_iff.1 hsettle
    exact ⟨haccepted, Except.ok.inj h⟩

/-- Nothing that follows mends a conflict. -/
theorem Seen.Both.refused {s : Seen} (h : s.Both) (more : List String) :
    ∃ stop, (read more s >>= Seen.finish) = .error stop := by
  cases hall : read more s >>= Seen.finish with
  | error stop => exact ⟨stop, rfl⟩
  | ok m =>
    obtain ⟨s', hread, hfinish⟩ := bind_eq_ok hall
    have haccepted := (Seen.accepted_of_finish hfinish).1
    exact absurd (kept_both.read more h hread) haccepted.exclusive

theorem parser_parse_eq (args : List String) :
    Request.parser.parse args = read args {} >>= Seen.finish := by
  unfold Request.parser Request.parse
  cases h : read args {} with
  | error stop => cases stop <;> simp only [h] <;> rfl
  | ok s =>
    show _ = s.finish
    unfold Seen.finish
    cases h' : settle s <;> simp only [h, h'] <;> rfl

/-! ### Reading on -/

theorem bind_read_nil (r : Reading) : (r >>= read []) = r := bind_pure r

theorem read_append {args : List String} (h : "--" ∉ args) (more : List String) (s : Seen) :
    read (args ++ more) s = read args s >>= read more := by
  induction args generalizing s with
  | nil => rfl
  | cons text args ih =>
    obtain ⟨htext, hargs⟩ := List.ne_and_not_mem_of_not_mem_cons h
    rw [List.cons_append, read, if_neg htext.symm, read, if_neg htext.symm]
    cases s.argument text with
    | error stop => rfl
    | ok s => exact ih hargs s

theorem read_cons {text : String} (h : text ≠ "--") (more : List String) (s : Seen) :
    read (text :: more) s = s.argument text >>= read more := by
  rw [read, if_neg h]
  cases s.argument text <;> rfl

theorem read_dashed {c : Char} (h : c ≠ '-') (cs : List Char) (more : List String) (s : Seen) :
    read (dashed (c :: cs) :: more) s = (c :: cs).foldlM Seen.short s >>= read more := by
  have hargument : s.argument (dashed (c :: cs)) = (c :: cs).foldlM Seen.short s := by
    rw [Seen.argument, dashed, String.toList_ofList]
    split
    · next hcs => exact absurd (List.cons.inj (List.cons.inj hcs).2).1 h
    · next hcs => rw [(List.cons.inj hcs).2]
    · next hcs => exact absurd rfl (hcs _ _)
  rw [read_cons, hargument]
  intro htext
  have hchars := congrArg String.toList htext
  rw [dashed, String.toList_ofList] at hchars
  exact h (List.cons.inj (List.cons.inj hchars).2).1

/-- The letters of a group may as well be split behind the first. -/
theorem read_joined {c d : Char} (hc : c ≠ '-') (hd : d ≠ '-') (cs : List Char)
    (more : List String) (s : Seen) :
    read (dashed (c :: d :: cs) :: more) s = read (dashed [c] :: dashed (d :: cs) :: more) s := by
  rw [read_dashed hc, read_dashed hc, funext (read_dashed hd cs more)]
  simp only [List.foldlM_cons, List.foldlM_nil, bind_pure, bind_assoc]

theorem read_plain {text : String} (h : IsPlain text) (more : List String) (s : Seen) :
    read (text :: more) s = s.positional text >>= read more := by
  obtain ⟨c, cs, rfl, hc⟩ := h
  have hargument : s.argument (String.ofList (c :: cs)) =
      s.positional (String.ofList (c :: cs)) := by
    rw [Seen.argument, String.toList_ofList]
    split
    · next hcs => exact absurd (List.cons.inj hcs).1 hc
    · next hcs => exact absurd (List.cons.inj hcs).1 hc
    · rfl
  rw [read_cons, hargument]
  intro htext
  have hchars := congrArg String.toList htext
  rw [String.toList_ofList] at hchars
  exact hc (List.cons.inj hchars).1

/-- The letter of a parameter, and the flag that it sets. -/
inductive Letter : Parameter → Char → Flag → Prop
  | verbose : Letter .verbose 'v' .verbose
  | quiet : Letter .quiet 'q' .quiet

theorem exists_letter {a : Parameter} {c : Char} (h : (Parameter.declared a).letter? = some c) :
    ∃ f, Letter a c f := by
  cases a with
  | script => cases h
  | verbose =>
    obtain rfl : 'v' = c := Option.some.inj h
    exact ⟨_, .verbose⟩
  | quiet =>
    obtain rfl : 'q' = c := Option.some.inj h
    exact ⟨_, .quiet⟩

namespace Letter

variable {a : Parameter} {c : Char} {f : Flag} (h : Letter a c f)
include h

theorem ne_dash : c ≠ '-' := by
  cases h <;> decide

theorem read_eq (more : List String) (s : Seen) :
    read (dashed [c] :: more) s = s.flag f >>= read more := by
  have hshort : s.short c = s.flag f := by cases h <;> rfl
  rw [read_dashed h.ne_dash, List.foldlM_cons, hshort]
  simp only [List.foldlM_nil, bind_pure]

theorem read_name {name : String} (hname : (Parameter.declared a).longName? = some name)
    (more : List String) (s : Seen) :
    read (doubleDashed name :: more) s = s.flag f >>= read more := by
  cases h with
  | verbose =>
    obtain rfl : "verbose" = name := Option.some.inj hname
    exact read_cons (by decide) more s
  | quiet =>
    obtain rfl : "quiet" = name := Option.some.inj hname
    exact read_cons (by decide) more s

end Letter

theorem parse_append {before : List String} (h : "--" ∉ before) {xs ys : List String}
    (hsame : ∀ s, read xs s = read ys s) :
    Request.parser.parse (before ++ xs) = Request.parser.parse (before ++ ys) := by
  rw [parser_parse_eq, parser_parse_eq, read_append h, read_append h, funext hsame]

/-- Reading goes on from what was found. -/
theorem exists_seen {args : List String} {m : Matches Parameter}
    (h : Request.parser.Reaches args m) :
    ∃ s : Seen, s.Accepted ∧ s.options.matches = m ∧
      ∀ more, Request.parser.parse (args ++ more) = read more s >>= Seen.finish := by
  have hparse := h.parse
  rw [parser_parse_eq] at hparse
  obtain ⟨s, hread, hfinish⟩ := bind_eq_ok hparse
  obtain ⟨haccepted, hmatches⟩ := Seen.accepted_of_finish hfinish
  refine ⟨s, haccepted, hmatches, fun more => ?_⟩
  rw [parser_parse_eq, read_append h.unescaped, hread]
  rfl

/-- What is read next is the flag of the letter. -/
theorem exists_flag {args : List String} {m : Matches Parameter} {a : Parameter} {c : Char}
    (h : Request.parser.Reaches args m) (hletter : (Parameter.declared a).letter? = some c) :
    ∃ s f, Seen.Accepted s ∧ s.options.matches = m ∧ Letter a c f ∧
      ∀ more, Request.parser.parse (args ++ dashed [c] :: more) =
        s.flag f >>= read more >>= Seen.finish := by
  obtain ⟨s, haccepted, hmatches, hparse⟩ := exists_seen h
  obtain ⟨f, hf⟩ := exists_letter hletter
  refine ⟨s, f, haccepted, hmatches, hf, fun more => ?_⟩
  rw [hparse, hf.read_eq]

/-! ### One more argument -/

section
variable {s : Seen} (h : s.Accepted)
include h

theorem finish_verbose (hquiet : ¬ s.options.quiet = true) :
    ∃ m', (s.flag .verbose >>= Seen.finish) = .ok m' ∧
      (m'.count .verbose).toNat = min 255 ((s.options.matches.count .verbose).toNat + 1) ∧
      s.options.matches.AgreesOff m' Parameter.declared .verbose := by
  have haccepted : s.withVerbose.Accepted := ⟨h.named, fun hboth => hquiet hboth.1⟩
  rw [Seen.flag_verbose h.named]
  refine ⟨_, haccepted.finish_eq, ?_, fun b hb => ?_⟩
  · show (UInt8.ofNatClamp (min verbosityLimit (s.options.verbosity + 1))).toNat =
      min 255 ((UInt8.ofNatClamp s.options.verbosity).toNat + 1)
    rw [Options.toNat_clamp, Options.toNat_clamp, verbosityLimit]
    omega
  · cases b with
    | verbose => exact absurd rfl hb
    | _ => rfl

theorem finish_quiet (hquiet : ¬ s.options.quiet = true) (hverbose : ¬ 0 < s.options.verbosity) :
    ∃ m', (s.flag .quiet >>= Seen.finish) = .ok m' ∧ m'.flag .quiet = true ∧
      s.options.matches.AgreesOff m' Parameter.declared .quiet := by
  have haccepted : s.withQuiet.Accepted := ⟨h.named, fun hboth => hverbose hboth.2⟩
  rw [Seen.flag_quiet h.named hquiet]
  refine ⟨_, haccepted.finish_eq, rfl, fun b hb => ?_⟩
  cases b with
  | quiet => exact absurd rfl hb
  | _ => rfl

theorem finish_positional (hnone : s.options.script = none) {text : String} (hnamed : text ≠ "") :
    ∃ m', (s.positional text >>= Seen.finish) = .ok m' ∧ m'.value .script = some text ∧
      s.options.matches.AgreesOff m' Parameter.declared .script := by
  have haccepted : (s.withScript text).Accepted :=
    ⟨fun hempty => hnamed (Option.some.inj hempty), h.exclusive⟩
  rw [Seen.positional_eq hnone]
  refine ⟨_, haccepted.finish_eq, rfl, fun b hb => ?_⟩
  cases b with
  | script => exact absurd rfl hb
  | _ => rfl

theorem refused_quiet_twice (hquiet : s.options.quiet = true) (more : List String) :
    ∃ stop, (s.flag .quiet >>= read more >>= Seen.finish) = .error stop := by
  rw [Seen.flag_quiet_twice h.named hquiet]
  exact ⟨_, rfl⟩

theorem refused_verbose_of_quiet (hquiet : s.options.quiet = true) (more : List String) :
    ∃ stop, (s.flag .verbose >>= read more >>= Seen.finish) = .error stop := by
  rw [Seen.flag_verbose h.named]
  exact (Seen.both_withVerbose hquiet).refused more

theorem refused_quiet_of_verbose (hverbose : 0 < s.options.verbosity) (more : List String) :
    ∃ stop, (s.flag .quiet >>= read more >>= Seen.finish) = .error stop := by
  have hboth : s.withQuiet.Both := ⟨rfl, hverbose⟩
  rw [Seen.flag_quiet h.named fun hquiet => h.exclusive ⟨hquiet, hverbose⟩]
  exact hboth.refused more

end

end Arguments

namespace Request

open Arguments

/-- **The parser that runs keeps the laws** for the parameters of the program. -/
theorem parser_lawful : parser.Lawful Parameter.declared where
  empty := by
    refine ⟨_, rfl, fun a => ?_⟩
    cases a with
    | script => exact fun h => h rfl
    | verbose => exact mt (Options.given_verbose_iff {}).1 (Nat.lt_irrefl 0)
    | quiet => exact Bool.false_ne_true
  joined unescaped letters after := by
    obtain ⟨a, ha, -⟩ := letters _ List.mem_cons_self
    obtain ⟨b, hb, -⟩ := letters _ (List.mem_cons_of_mem _ List.mem_cons_self)
    obtain ⟨f, hf⟩ := exists_letter ha
    obtain ⟨g, hg⟩ := exists_letter hb
    exact congrArg _ (parse_append unescaped (read_joined hf.ne_dash hg.ne_dash _ after))
  long unescaped letter long _ after := by
    obtain ⟨f, hf⟩ := exists_letter letter
    refine congrArg _ (parse_append unescaped fun s => ?_)
    rw [hf.read_name long, hf.read_eq]
  counted reaches letter effect admits := by
    obtain ⟨s, f, haccepted, rfl, hf, hparse⟩ := exists_flag reaches letter
    rw [hparse, bind_read_nil]
    cases hf with
    | quiet => cases effect
    | verbose => exact finish_verbose haccepted (Matches.admits_verbose_iff.1 admits)
  flagged reaches letter effect new admits := by
    obtain ⟨s, f, haccepted, rfl, hf, hparse⟩ := exists_flag reaches letter
    rw [hparse, bind_read_nil]
    cases hf with
    | verbose => cases effect
    | quiet =>
      exact finish_quiet haccepted new
        (mt s.options.given_verbose_iff.2 (Matches.admits_quiet_iff.1 admits))
  repeated reaches letter effect given more := by
    obtain ⟨s, f, haccepted, rfl, hf, hparse⟩ := exists_flag reaches letter
    rw [Parser.Refuses, hparse]
    cases hf with
    | verbose => cases effect
    | quiet => exact refused_quiet_twice haccepted given more
  exclusive {_ _ a b _} reaches letter excludes given more := by
    obtain ⟨s, f, haccepted, rfl, hf, hparse⟩ := exists_flag reaches letter
    rw [Parser.Refuses, hparse]
    cases hf with
    | verbose =>
      obtain rfl := Parameter.excludes_verbose_iff.1 excludes
      exact refused_verbose_of_quiet haccepted given more
    | quiet =>
      obtain rfl := Parameter.excludes_quiet_iff.1 excludes
      exact refused_quiet_of_verbose haccepted (s.options.given_verbose_iff.1 given) more
  valued {_ _ a _} reaches positional effect new last admits plain := by
    obtain ⟨s, haccepted, rfl, hparse⟩ := exists_seen reaches
    obtain rfl := Parameter.eq_script_of_isPositional positional
    rw [hparse, read_plain plain, bind_read_nil]
    exact finish_positional haccepted (Classical.not_not.1 new) plain.ne_empty
  surplus reaches full plain more := by
    obtain ⟨s, haccepted, rfl, hparse⟩ := exists_seen reaches
    obtain ⟨name, hname⟩ := Option.ne_none_iff_exists'.1 (full .script rfl)
    have hsome : s.options.script = some name := hname
    rw [Parser.Refuses, hparse, read_plain plain, Seen.positional, hsome]
    exact ⟨_, rfl⟩

/-- The count of options that were read is within its limit. -/
theorem verbosity_le_of_parse {args : List String} {options : Options}
    (h : Request.parse args = .ok (.run options)) : options.verbosity ≤ verbosityLimit := by
  unfold Request.parse at h
  cases hread : read args {} with
  | error stop => cases stop <;> simp [hread] at h
  | ok s =>
    cases hsettle : settle s with
    | error e => simp [hread, hsettle, Except.map] at h
    | ok found =>
      simp only [hread, hsettle, Except.map, Except.ok.injEq, Request.run.injEq] at h
      obtain ⟨-, rfl⟩ := settle_eq_ok_iff.1 hsettle
      rw [← h]
      exact kept_limited.read args (Nat.zero_le _) hread

/-- What the parser finds, as options, is what runs. -/
theorem parse_eq_run_iff {args : List String} {options : Options} :
    Request.parse args = .ok (.run options) ↔
      ∃ m, parser.parse args = .ok m ∧ m.options = options := by
  constructor
  · intro h
    refine ⟨options.matches, ?_, Options.options_matches (verbosity_le_of_parse h)⟩
    simp only [parser, h]
  · rintro ⟨m, hm, rfl⟩
    simp only [parser] at hm
    split at hm
    · next found h =>
      obtain rfl : found.matches = m := Except.ok.inj hm
      rw [h, Options.options_matches (verbosity_le_of_parse h)]
    · cases hm
    · cases hm

end Request

end LoxLexer
