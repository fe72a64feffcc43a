import PanelLauncher.Proofs.Launch.Stage
import PanelLauncher.Session

/-!
# Which command lines name a configuration

Before the first two hyphens an argument is one hyphen alone, or begins with none; those two hyphens
are left out, and of what is left there is at most one argument, which is not empty. This is all
that is accepted (`parse_eq_ok`), and whatever else is written ends the run before anything is done.
-/

namespace PanelLauncher.CommandLine

/-- An argument that is no option, even where options can stand. -/
def IsOperand (arg : String) : Prop :=
  arg = "-" ∨ arg.toList.head? ≠ some '-'

/-- The configuration that arguments name. -/
structure Names (args : List String) (path : String) : Prop where
  isOperand : ∀ arg ∈ args.takeWhile (· ≠ "--"), IsOperand arg
  /-- The first two hyphens do not count, and there is at most one argument beside them. -/
  named : args.erase "--" = [] ∧ path = LaunchConfig.defaultPath ∨
    args.erase "--" = [path] ∧ path ≠ ""

/-! ## Reading -/

theorem option?_eq_none {config : Option String} {arg : String} :
    option? config arg = none ↔ IsOperand arg := by
  have hyphen : arg = "-" ↔ arg.toList = ['-'] := by
    rw [← String.toList_inj]
    rfl
  unfold option? IsOperand
  rw [hyphen]
  split
  · next long h => simp [h]
  · next letter rest h => simp [h]
  · next hlong hshort =>
    simp only [true_iff]
    rcases harg : arg.toList with _ | ⟨c, _ | ⟨d, rest⟩⟩
    · simp
    · by_cases hc : c = '-'
      · exact .inl (by rw [hc])
      · exact .inr (by simpa using hc)
    · refine .inr fun hc => ?_
      cases hc
      exact hshort d rest harg

/-- What is left is the configuration named so far, or the only argument if none has been named. -/
theorem operands_eq {config r : Option String} {arg : String} {args : List String} :
    config.toList ++ arg :: args = r.toList ↔
      config = none ∧ (some arg).toList ++ args = r.toList := by
  cases config with
  | none => simp
  | some c => cases r <;> simp

theorem read_nil {ended : Bool} {config r : Option String} :
    read ended config [] = .ok r ↔ config.toList ++ [] = r.toList ∧ r ≠ some "" := by
  have hr : config.toList ++ [] = r.toList ↔ config = r := by
    cases config <;> cases r <;> simp
  rw [hr]
  unfold read
  split
  · next h =>
    subst h
    simpa using fun h => h.symm
  · next h =>
    simp only [Except.ok.injEq, iff_self_and]
    rintro rfl
    exact h

/-- An argument that is taken as it is has to be the only one. -/
theorem read_cons_operand {ended : Bool} {config r : Option String} {arg : String}
    {args : List String} (hend : (!ended && arg = "--") = false)
    (hoption : (if ended then none else option? config arg) = none) :
    read ended config (arg :: args) = .ok r ↔
      config = none ∧ read ended (some arg) args = .ok r := by
  rw [read.eq_def]
  simp only [hend, hoption]
  cases config <;> simp

/-- Behind the two hyphens every argument is taken as it is. -/
theorem read_true_eq_ok {config r : Option String} {args : List String} :
    read true config args = .ok r ↔ config.toList ++ args = r.toList ∧ r ≠ some "" := by
  induction args generalizing config with
  | nil => exact read_nil
  | cons arg args ih =>
    rw [read_cons_operand rfl rfl, ih, operands_eq, and_assoc]

/-- Before them no argument may be an option, and one that is none is taken as it is. -/
theorem read_false_eq_ok {config r : Option String} {args : List String} :
    read false config args = .ok r ↔
      (∀ arg ∈ args.takeWhile (· ≠ "--"), IsOperand arg) ∧
        config.toList ++ args.erase "--" = r.toList ∧ r ≠ some "" := by
  induction args generalizing config with
  | nil => simpa using read_nil
  | cons arg args ih =>
    by_cases hend : arg = "--"
    · subst hend
      have hread : read false config ("--" :: args) = read true config args := rfl
      simp [hread, read_true_eq_ok]
    · have htake : (arg :: args).takeWhile (· ≠ "--") = arg :: args.takeWhile (· ≠ "--") :=
        List.takeWhile_cons_of_pos (by simpa using hend)
      have herase : (arg :: args).erase "--" = arg :: args.erase "--" :=
        List.erase_cons_tail (by simpa using hend)
      rw [htake, herase, List.forall_mem_cons, operands_eq]
      cases hoption : option? config arg with
      | none =>
        have harg := option?_eq_none.mp hoption
        rw [read_cons_operand (by simpa using hend) (by simpa using hoption), ih]
        constructor
        · rintro ⟨hnone, hargs, hrest, hr⟩
          exact ⟨⟨harg, hargs⟩, ⟨hnone, hrest⟩, hr⟩
        · rintro ⟨⟨-, hargs⟩, ⟨hnone, hrest⟩, hr⟩
          exact ⟨hnone, hargs, hrest, hr⟩
      | some stop =>
        have harg : ¬ IsOperand arg := fun h => by
          rw [option?_eq_none.mpr h] at hoption
          cases hoption
        simp [read, hend, hoption, harg]

theorem parse_eq_ok {args : List String} {path : String} :
    parse args = .ok path ↔ Names args path := by
  have hmap : parse args = .ok path ↔
      ∃ r, read false none args = .ok r ∧ r.getD LaunchConfig.defaultPath = path := by
    unfold parse
    cases read false none args <;> simp [Except.map]
  rw [hmap]
  constructor
  · rintro ⟨r, hread, rfl⟩
    obtain ⟨hoperands, hrest, hr⟩ := read_false_eq_ok.mp hread
    refine ⟨hoperands, ?_⟩
    cases r with
    | none => exact .inl ⟨by simpa using hrest, rfl⟩
    | some p => exact .inr ⟨by simpa using hrest, by simpa using hr⟩
  · rintro ⟨hoperands, ⟨hrest, rfl⟩ | ⟨hrest, hpath⟩⟩
    · exact ⟨none, read_false_eq_ok.mpr ⟨hoperands, by simpa using hrest, by simp⟩, rfl⟩
    · refine ⟨some path, read_false_eq_ok.mpr ⟨hoperands, ?_, ?_⟩, rfl⟩
      · simpa using hrest
      · simpa using hpath

/-! ## What is accepted -/

/-- A list that is short without one of its elements, spelled out. -/
theorem Names.spelled {args : List String} {path : String} (h : Names args path) :
    args ∈ [[], ["--"]] ∧ path = LaunchConfig.defaultPath ∨
      args ∈ [[path], ["--", path], [path, "--"]] := by
  have hnamed := h.named
  by_cases hend : "--" ∈ args
  · obtain ⟨before, after, -, rfl, herase⟩ := List.exists_erase_eq hend
    rw [herase] at hnamed
    rcases hnamed with ⟨hnil, hpath⟩ | ⟨hone, -⟩
    · obtain ⟨rfl, rfl⟩ := List.append_eq_nil_iff.mp hnil
      exact .inl ⟨by simp, hpath⟩
    · rcases List.append_eq_singleton_iff.mp hone with ⟨rfl, rfl⟩ | ⟨rfl, rfl⟩
      · exact .inr (by simp)
      · exact .inr (by simp)
  · rw [List.erase_of_not_mem hend] at hnamed
    rcases hnamed with ⟨rfl, hpath⟩ | ⟨rfl, -⟩
    · exact .inl ⟨by simp, hpath⟩
    · exact .inr (by simp)

/-- The configuration that is read is the one at the path, before anything else is asked for. -/
theorem calls_launch (os : Os) (files : FileTree) (path : String) :
    ∃ fault later, (launch os files path).calls = ⟨.readText path, fault⟩ :: later := by
  unfold launch Launch.whole Launch.readConfig
  cases hread : os.readText files path with
  | error fault => simp [hread]
  | ok text => cases hconfig : Config.ofString text <;> simp [hread, hconfig]

/--
**No argument is passed over in silence.** A command line is accepted exactly if it names a
configuration, and then each of its arguments has been used: one is the path that is launched with,
and two hyphens may stand before or behind it. Any other ends in a stop, with the files as they were
and whatever the system would have answered.
-/
theorem parse_uses_every_argument (argv : List String) :
    (∀ path, parse argv.tail = .ok path ↔ Names argv.tail path) ∧
    (∀ path, Names argv.tail path →
      (argv.tail ∈ [[], ["--"]] ∧ path = LaunchConfig.defaultPath ∨
        argv.tail ∈ [[path], ["--", path], [path, "--"]]) ∧
      ∀ (os : Os) (files : FileTree) (setting : Option String) (pidText : Nat → String),
        Session.run os files setting pidText argv.head? argv.tail =
          .launched (.ofSetting setting) pidText (launch os files path) ∧
        ∃ fault later, (launch os files path).calls = ⟨.readText path, fault⟩ :: later) ∧
    ((∀ path, ¬ Names argv.tail path) →
      ∃ stop, parse argv.tail = .error stop ∧
        ∀ (os : Os) (files : FileTree) (setting : Option String) (pidText : Nat → String),
          Session.run os files setting pidText argv.head? argv.tail =
            .stopped files argv.head? stop) := by
  refine ⟨fun path => parse_eq_ok, ?accepted, ?stopped⟩
  case accepted =>
    intro path hnames
    have hparse := parse_eq_ok.mpr hnames
    refine ⟨hnames.spelled, fun os files setting pidText => ⟨?_, calls_launch os files path⟩⟩
    rw [Session.run, hparse]
  case stopped =>
    intro hnone
    cases hparse : parse argv.tail with
    | ok path => exact absurd (parse_eq_ok.mp hparse) (hnone path)
    | error stop =>
      refine ⟨stop, rfl, fun os files setting pidText => ?_⟩
      rw [Session.run, hparse]

/-- Behind the two hyphens, two more are a path. -/
example : parse ["--", "--"] = .ok "--" := rfl

end PanelLauncher.CommandLine
