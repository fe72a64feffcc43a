import PanelLauncher.Command.ShellExecution
import PanelLauncher.Proofs.Command.Line

/-!
# The first word of a command's shell line

Whether a word is quoted is decided by its characters, wherever it stands. Letters, digits,
underscores and the equals sign are harmless in an argument, but they are all that a reserved word
or an assignment needs. The line runs the program (`runs_of_not_isMisread`) unless its name is written
bare and is such a word; a shell then takes it for something else.
-/

namespace PanelLauncher

open ShellLine

namespace ShellLine

/-- A text that begins with the name of a variable and an equals sign. -/
def IsAssignment (text : List Char) : Prop :=
  ∃ name value, text = name ++ '=' :: value ∧ isName name = true

/-! ## Names -/

/-- The equals sign behind a name is the first character, or stands behind a longer name. -/
theorem exists_cons_eq_append {c : Char} {cs : List Char} {p : List Char → Prop} :
    (∃ name value, c :: cs = name ++ '=' :: value ∧ p name) ↔
      c = '=' ∧ p [] ∨ ∃ name value, cs = name ++ '=' :: value ∧ p (c :: name) := by
  constructor
  · rintro ⟨name, value, heq, hname⟩
    cases name with
    | nil =>
      cases heq
      exact .inl ⟨rfl, hname⟩
    | cons d name =>
      cases heq
      exact .inr ⟨name, value, rfl, hname⟩
  · rintro (⟨rfl, hname⟩ | ⟨name, value, rfl, hname⟩)
    · exact ⟨[], cs, rfl, hname⟩
    · exact ⟨c :: name, value, rfl, hname⟩

theorem endsName_bare (text : List Char) :
    endsName (text.map (⟨·, .bare⟩)) = true ↔
      ∃ name value, text = name ++ '=' :: value ∧ name.all isNameChar = true := by
  induction text with
  | nil => simp [endsName]
  | cons c cs ih =>
    rw [exists_cons_eq_append]
    simp [endsName, ih, and_left_comm]

/-- A text that is written as it is; the others are put between quotes. -/
def IsBareText (text : List Char) : Prop :=
  text ≠ [] ∧ ∀ c ∈ text, isPlainChar c = true

theorem isBareText_iff {text : List Char} :
    IsBareText text ↔ (!text.isEmpty && text.all isPlainChar) = true := by
  simp [IsBareText]

theorem Word.ofText_bare {text : List Char} (h : IsBareText text) :
    Word.ofText text = ⟨text.map (⟨·, .bare⟩), false⟩ :=
  if_pos (isBareText_iff.mp h)

theorem Word.ofText_quoted {text : List Char} (h : ¬ IsBareText text) :
    Word.ofText text = ⟨text.map (⟨·, .hard⟩), true⟩ :=
  if_neg fun hplain => h (isBareText_iff.mpr hplain)

theorem Word.isAssignment_ofText (text : List Char) :
    (Word.ofText text).isAssignment = true ↔ IsBareText text ∧ IsAssignment text := by
  by_cases hbare : IsBareText text
  · rw [ofText_bare hbare, and_iff_right hbare]
    obtain ⟨hne, -⟩ := hbare
    cases text with
    | nil => exact absurd rfl hne
    | cons c cs =>
      rw [IsAssignment, exists_cons_eq_append]
      simp [isAssignment, endsName_bare, isName, and_left_comm]
  · rw [ofText_quoted hbare]
    cases text <;> simp [isAssignment, hbare]

theorem Word.isReserved_ofText (text : List Char) :
    (Word.ofText text).isReserved = true ↔
      IsBareText text ∧ String.ofList text ∈ reservedWords := by
  rw [isReserved, text_ofText, Bool.and_eq_true, List.contains_iff_mem]
  by_cases hbare : IsBareText text
  · simp [ofText_bare hbare, isBare, hbare]
  · simp [ofText_quoted hbare, isBare, hbare]

/-! ## What is run -/

/-- What is run is the command's words, less those assignments that they begin with. -/
theorem execution_render (c : LaunchCommand) :
    Execution.ofString? c.render =
      if (Word.ofText c.program.toList).isReserved then none
      else
        let words := c.words.map fun word => Word.ofText word.toList
        some ⟨words.takeWhile Word.isAssignment, words.dropWhile Word.isAssignment,
          redirections c.logFile⟩ := by
  have hcommand := simpleCommand_render c
  rw [SimpleCommand.ofString?, tokens_render, Option.bind_some] at hcommand
  rw [Execution.ofString?, tokens_render, Option.bind_some, Execution.ofTokens?, hcommand]
  rfl

/-- A line runs words as a command; no variable is set for it. -/
def Runs (line : String) (words : List String) : Prop :=
  ∃ e, Execution.ofString? line = some e ∧ e.assignments = [] ∧ e.words.map Word.text = words

end ShellLine

/-- A program whose name is written bare and means something else where a command begins. -/
def IsMisread (program : String) : Prop :=
  IsBareText program.toList ∧ (IsAssignment program.toList ∨ program ∈ reservedWords)

theorem runs_of_not_isMisread {c : LaunchCommand} (h : ¬ IsMisread c.program) :
    Runs c.render (c.program :: c.args) := by
  have hreserved : ¬ (Word.ofText c.program.toList).isReserved = true := by
    rw [Word.isReserved_ofText, String.ofList_toList]
    exact fun hres => h ⟨hres.1, .inr hres.2⟩
  have hassign : ¬ (Word.ofText c.program.toList).isAssignment = true := by
    rw [Word.isAssignment_ofText]
    exact fun has => h ⟨has.1, .inl has.2⟩
  refine ⟨_, (execution_render c).trans (if_neg hreserved), ?_, ?_⟩
  · exact List.takeWhile_cons_of_neg hassign
  · rw [LaunchCommand.words, List.map_cons, List.dropWhile_cons_of_neg hassign]
    exact map_text_ofText c.words

/-- No word of the grammar is an assignment. -/
theorem not_isAssignment_of_mem_reservedWords {word : String} (h : word ∈ reservedWords) :
    ¬ IsAssignment word.toList := by
  rintro ⟨name, value, heq, -⟩
  have hall : ∀ word ∈ reservedWords, '=' ∉ word.toList := by decide
  refine hall word h ?_
  simp [heq]

/-- A shell does not read the line as a simple command. -/
theorem execution_of_mem_reservedWords {c : LaunchCommand} (hbare : IsBareText c.program.toList)
    (h : c.program ∈ reservedWords) : Execution.ofString? c.render = none := by
  rw [execution_render, if_pos]
  rw [Word.isReserved_ofText, String.ofList_toList]
  exact ⟨hbare, h⟩

/-- A shell sets a variable for what is left of the line, and that is run. -/
theorem execution_of_isAssignment {c : LaunchCommand} (hbare : IsBareText c.program.toList)
    (h : IsAssignment c.program.toList) :
    ∃ e, Execution.ofString? c.render = some e ∧
      e.assignments.head?.map Word.text = some c.program ∧ e.words.map Word.text <:+ c.args := by
  have hreserved : ¬ (Word.ofText c.program.toList).isReserved = true := by
    rw [Word.isReserved_ofText, String.ofList_toList]
    exact fun hres => not_isAssignment_of_mem_reservedWords hres.2 h
  have hassign : (Word.ofText c.program.toList).isAssignment = true :=
    (Word.isAssignment_ofText _).mpr ⟨hbare, h⟩
  refine ⟨_, (execution_render c).trans (if_neg hreserved), ?_, ?_⟩
  · simp only [LaunchCommand.words, List.map_cons]
    rw [List.takeWhile_cons_of_pos hassign, List.head?_cons, Option.map_some, Word.text_ofText,
      String.ofList_toList]
  · simp only [LaunchCommand.words, List.map_cons]
    rw [List.dropWhile_cons_of_pos hassign]
    have hsuffix := (List.dropWhile_suffix Word.isAssignment
      (l := c.args.map fun arg => Word.ofText arg.toList)).map Word.text
    rwa [map_text_ofText] at hsuffix

/--
**When the line runs the program.** A shell runs the program with its arguments exactly if the
program's name is not written bare as a reserved word or as an assignment. With a reserved word
there is no simple command; with an assignment a variable is set, and what is run comes from the
arguments.
-/
theorem render_runs_program_iff (c : LaunchCommand) :
    (Runs c.render (c.program :: c.args) ↔ ¬ IsMisread c.program) ∧
    (IsBareText c.program.toList → c.program ∈ reservedWords →
      Execution.ofString? c.render = none) ∧
    (IsBareText c.program.toList → IsAssignment c.program.toList →
      ∃ e, Execution.ofString? c.render = some e ∧
        e.assignments.head?.map Word.text = some c.program ∧ e.words.map Word.text <:+ c.args) := by
  refine ⟨⟨?_, runs_of_not_isMisread⟩, execution_of_mem_reservedWords, execution_of_isAssignment⟩
  rintro ⟨e, he, hnone, -⟩ ⟨hbare, hassign | hreserved⟩
  · obtain ⟨e', he', hhead, -⟩ := execution_of_isAssignment hbare hassign
    rw [he, Option.some.injEq] at he'
    rw [← he', hnone] at hhead
    cases hhead
  · rw [execution_of_mem_reservedWords hbare hreserved] at he
    cases he

/-- A variable is set, and what was to be an argument is run. -/
theorem first_argument_runs_for_assignment :
    Execution.ofString? (LaunchCommand.render ⟨"LANG=C", ["date"], none⟩) =
        some ⟨[.ofText "LANG=C".toList], [.ofText "date".toList], []⟩ ∧
      ¬ Runs (LaunchCommand.render ⟨"LANG=C", ["date"], none⟩) ["LANG=C", "date"] := by
  have hread : Execution.ofString? (LaunchCommand.render ⟨"LANG=C", ["date"], none⟩) =
      some ⟨[.ofText "LANG=C".toList], [.ofText "date".toList], []⟩ := by decide
  refine ⟨hread, ?_⟩
  rintro ⟨e, he, hnone, -⟩
  rw [hread] at he
  cases he
  cases hnone

end PanelLauncher
