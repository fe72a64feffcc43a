import PanelLauncher.Proofs.Command.Reading
import PanelLauncher.Proofs.Launch.Stage

/-!
# What a command's shell line means

The line of a command is read as its words in order, then as the redirection of both outputs to
the end of its log file. The child that the command is run as is started with the same words and
the same outputs.
-/

namespace PanelLauncher

open ShellLine

namespace ShellLine

/-! ## The tokens of a line -/

/-- The word that the number of the standard output is read as. -/
def Word.one : Word := ofText ['1']

/-- The tokens that the redirection to a log file is read as. -/
def redirectionTokens : Option String → List Token
  | none => []
  | some path =>
    [.operator .appendTo, .word (.ofText path.toList), .number 2, .operator .copyTo, .word .one]

theorem Word.reverse_reverse (w : Word) : w.reverse.reverse = w := by
  simp [reverse]

theorem tokens_blank (w : Word) (cs : List Char) :
    (Reader.plain (.word w)).tokens (' ' :: cs) =
      ((Reader.plain .nothing).tokens cs).map (.word w.reverse :: ·) := rfl

/-- The word before the redirection is ended by a blank, so that it is never its number. -/
theorem tokens_redirection (logFile : Option String) (w : Word) :
    (Reader.plain (.word w)).tokens (LaunchCommand.redirection logFile) =
      some (.word w.reverse :: redirectionTokens logFile) := by
  cases logFile with
  | none => rfl
  | some path =>
    have hinto : " >> ".toList = [' ', '>', '>', ' '] := rfl
    have hboth : " 2>&1".toList = [' ', '2', '>', '&', '1'] := rfl
    have happend (cs : List Char) : (Reader.plain .nothing).tokens ('>' :: '>' :: ' ' :: cs) =
        ((Reader.plain .nothing).tokens cs).map (.operator .appendTo :: ·) := by
      rw [tokens_silent (.plain (.operator .writeTo)) rfl,
        tokens_silent (.plain (.operator .appendTo)) rfl]
      rfl
    have hcopy : (Reader.plain .nothing).tokens ['2', '>', '&', '1'] =
        some [.number 2, .operator .copyTo, .word .one] := rfl
    rw [LaunchCommand.redirection, hinto, hboth, List.append_assoc]
    simp only [List.cons_append, List.nil_append]
    rw [tokens_blank, happend, tokens_shellQuote, tokens_blank, hcopy, Word.reverse_reverse]
    rfl

/-- Each further word of a line ends the one before it. -/
theorem tokens_words (words : List String) {suffix : List Char} {ts : List Token}
    (hsuffix : ∀ w, (Reader.plain (.word w)).tokens suffix = some (.word w.reverse :: ts))
    (w : Word) :
    (Reader.plain (.word w)).tokens
        (words.flatMap (fun word => ' ' :: shellQuote word.toList) ++ suffix) =
      some (.word w.reverse :: (words.map fun word => .word (.ofText word.toList)) ++ ts) := by
  induction words generalizing w with
  | nil => simpa using hsuffix w
  | cons word words ih =>
    rw [List.flatMap_cons, List.append_assoc, List.cons_append, tokens_blank, tokens_shellQuote,
      ih, Word.reverse_reverse]
    rfl

theorem tokens_render (c : LaunchCommand) :
    Token.ofString? c.render =
      some ((c.words.map fun word => .word (.ofText word.toList)) ++ redirectionTokens c.logFile) := by
  rw [Token.ofString?, LaunchCommand.render, String.toList_ofList, LaunchCommand.line,
    List.append_assoc, tokens_shellQuote, tokens_words c.args (tokens_redirection c.logFile),
    Word.reverse_reverse]
  rfl

/-! ## The simple command of a line -/

/-- The redirections to a log file. -/
def redirections : Option String → List Redirection
  | none => []
  | some path => [⟨.append, 1, .ofText path.toList⟩, ⟨.copy, 2, .one⟩]

theorem ofTokens?_words (words : List Word) {ts : List Token} {rs : List Redirection}
    (hts : SimpleCommand.ofTokens? ts = some ⟨[], rs⟩) :
    SimpleCommand.ofTokens? (words.map .word ++ ts) = some ⟨words, rs⟩ := by
  induction words with
  | nil => exact hts
  | cons w words ih => simp [SimpleCommand.ofTokens?, ih, SimpleCommand.addWord]

theorem ofTokens?_redirectionTokens (logFile : Option String) :
    SimpleCommand.ofTokens? (redirectionTokens logFile) = some ⟨[], redirections logFile⟩ := by
  cases logFile <;> rfl

theorem simpleCommand_render (c : LaunchCommand) :
    SimpleCommand.ofString? c.render =
      some ⟨c.words.map fun word => .ofText word.toList, redirections c.logFile⟩ := by
  have hwords : (c.words.map fun word => Token.word (.ofText word.toList)) =
      (c.words.map fun word => Word.ofText word.toList).map .word := by
    rw [List.map_map]
    rfl
  rw [SimpleCommand.ofString?, tokens_render, Option.bind_some, hwords]
  exact ofTokens?_words _ (ofTokens?_redirectionTokens c.logFile)

/-- A number in front of the redirection stays an argument. -/
example : (SimpleCommand.ofString? (LaunchCommand.render ⟨"p", ["it's", "2"], some "l"⟩)).map
    (·.words.map Word.text) = some ["p", "it's", "2"] := by decide

/-! ## Where the outputs lead -/

/-- Both outputs lead to the end of the log file, and everything else to where it led before. -/
def Descriptors.toLog (logFile : Option String) : Descriptors := fun n =>
  match logFile with
  | some path => if n = 1 ∨ n = 2 then some (.file path .append) else some (.inherited n)
  | none => some (.inherited n)

theorem foldlM_redirections (logFile : Option String) :
    (redirections logFile).foldlM Descriptors.redirect? .inherited =
      some (Descriptors.toLog logFile) := by
  cases logFile with
  | none => rfl
  | some path =>
    have hone : Word.one.text = "1" ∧ Word.one.number? = some 1 := by decide
    have hdash : ("1" : String) ≠ "-" := by decide
    have hpath : (Word.ofText path.toList).text = path := by
      rw [Word.text_ofText, String.ofList_toList]
    have hset : (Descriptors.inherited.set 1 (some (.file path .append))).set 2
        (some (.file path .append)) = Descriptors.toLog (some path) := by
      funext n
      by_cases h1 : n = 1 <;> by_cases h2 : n = 2 <;>
        simp [Descriptors.toLog, Descriptors.set, Descriptors.inherited, h1, h2]
    simp [redirections, Descriptors.redirect?, hone, hdash, hpath, ← hset, Descriptors.set]

end ShellLine

/-! ## The child that a command is run as -/

/-- The descriptor of an output. -/
def Stream.descriptor : Stream → Nat
  | .stdout => 1
  | .stderr => 2

/-- The outputs of a child go to where the descriptors lead. -/
def ShellLine.Descriptors.Agree (d : Descriptors) (os : Os) (files : FileTree) (i : Invocation) :
    Prop :=
  ∀ stream : Stream,
    match d stream.descriptor, i.sink stream with
    | some (.inherited n), none => n = stream.descriptor
    | some (.file path .append), some place => os.openLog files path = .ok place
    | _, _ => False

theorem prepare_eq_ok {os : Os} {c : LaunchCommand} {files : FileTree} {i : Invocation}
    (h : (Launch.prepare os c files).result = .ok i) :
    i.words = c.words ∧ (Descriptors.toLog c.logFile).Agree os files i := by
  obtain ⟨program, args, logFile⟩ := c
  cases logFile with
  | none =>
    simp only [Launch.prepare, Stage.pure_apply, Except.ok.injEq] at h
    subst h
    refine ⟨rfl, fun stream => ?_⟩
    cases stream <;> rfl
  | some path =>
    simp only [Launch.prepare, Stage.bind_apply, Stage.files_apply, Outcome.andThen_ok] at h
    cases hopen : os.openLog files path with
    | error fault => simp [hopen] at h
    | ok place =>
      cases hclone : os.cloneLog place with
      | error fault => simp [hopen, hclone] at h
      | ok _ =>
        simp [hopen, hclone] at h
        subst h
        refine ⟨rfl, fun stream => ?_⟩
        cases stream <;> exact hopen

theorem request_ne_spawn_of_mem_prepare {os : Os} {c : LaunchCommand} {files : FileTree}
    {call : Call} (hmem : call ∈ (Launch.prepare os c files).calls) (i : Invocation) :
    call.request ≠ .spawn i := by
  obtain ⟨program, args, logFile⟩ := c
  cases logFile with
  | none => cases hmem
  | some path =>
    unfold Launch.prepare at hmem
    rcases Stage.mem_calls_bind hmem with h | ⟨_, -, h⟩
    · cases h
    rcases Stage.mem_calls_bind h with h | ⟨place, -, h⟩
    · simp [Stage.request_of_mem_ask h]
    rcases Stage.mem_calls_bind h with h | ⟨_, -, h⟩
    · cases h
    rcases Stage.mem_calls_bind h with h | ⟨_, -, h⟩
    · simp [Stage.request_of_mem_ask h]
    · cases h

theorem request_ne_spawn_of_mem_installHandlers {os : Os} {files : FileTree} {call : Call}
    (hmem : call ∈ (Launch.installHandlers os files).calls) (i : Invocation) :
    call.request ≠ .spawn i := by
  unfold Launch.installHandlers at hmem
  rcases Stage.mem_calls_bind hmem with h | ⟨_, -, h⟩
  all_goals simp [Stage.request_of_mem_ask h]

theorem request_of_mem_spawn {os : Os} {i : Invocation} {files : FileTree} {call : Call}
    (hmem : call ∈ (Launch.spawn os i files).calls) : call.request = .spawn i := by
  unfold Launch.spawn at hmem
  rcases Stage.mem_calls_bind hmem with h | ⟨_, -, h⟩
  · cases h
  rcases Stage.mem_calls_bind h with h | ⟨process, -, h⟩
  · exact Stage.request_of_mem_ask h
  · cases h

theorem request_of_mem_await {i : Invocation} {process : Process} {files : FileTree} {call : Call}
    (hmem : call ∈ (Launch.await i process files).calls) : call.request = .await process.pid := by
  rw [List.mem_singleton.mp hmem]

/-- Whatever an execution starts, it has prepared. -/
theorem prepare_of_spawn_mem {os : Os} {c : LaunchCommand} {files : FileTree} {call : Call}
    {i : Invocation} (hmem : call ∈ (Launch.execute os c files).calls)
    (hspawn : call.request = .spawn i) : (Launch.prepare os c files).result = .ok i := by
  unfold Launch.execute at hmem
  rcases Stage.mem_calls_bind hmem with h | ⟨_, -, h⟩
  · cases h
  rcases Stage.mem_calls_bind h with h | ⟨prepared, hprepared, h⟩
  · exact absurd hspawn (request_ne_spawn_of_mem_prepare h i)
  rcases Stage.mem_calls_bind h with h | ⟨_, -, h⟩
  · exact absurd hspawn (request_ne_spawn_of_mem_installHandlers h i)
  rcases Stage.mem_calls_bind h with h | ⟨process, -, h⟩
  · rw [request_of_mem_spawn h] at hspawn
    cases hspawn
    exact hprepared
  · rw [request_of_mem_await h] at hspawn
    cases hspawn

/-! ## The meaning of a line -/

/-- Tokens and redirections that append the output to the log file, and then send the errors to the
same place. -/
def ShellLine.AppendBoth : Option String → List Token → List Redirection → Prop
  | none, suffix, rs => suffix = [] ∧ rs = []
  | some path, suffix, rs =>
    ∃ target one : Word,
      target.text = path ∧ target.isInert = true ∧ one.text = "1" ∧
      suffix = [.operator .appendTo, .word target, .number 2, .operator .copyTo, .word one] ∧
      rs = [⟨.append, 1, target⟩, ⟨.copy, 2, one⟩]

theorem appendBoth_redirections (logFile : Option String) :
    AppendBoth logFile (redirectionTokens logFile) (redirections logFile) := by
  cases logFile with
  | none => exact ⟨rfl, rfl⟩
  | some path =>
    have htext : (Word.ofText path.toList).text = path := by
      rw [Word.text_ofText, String.ofList_toList]
    exact ⟨.ofText path.toList, .one, htext, Word.isInert_ofText _, by decide, rfl, rfl⟩

theorem redirections_inj {a b : Option String} (h : redirections a = redirections b) : a = b := by
  cases a with
  | none => cases b with
    | none => rfl
    | some path => cases h
  | some path => cases b with
    | none => cases h
    | some path' =>
      simp only [redirections, List.cons.injEq, Redirection.mk.injEq, true_and, and_true] at h
      have htext := congrArg Word.text h
      rw [Word.text_ofText, Word.text_ofText, String.ofList_toList, String.ofList_toList] at htext
      rw [htext]

theorem map_text_ofText (words : List String) :
    (words.map fun word => Word.ofText word.toList).map Word.text = words := by
  simp [Word.text_ofText, Function.comp_def]

/-- Commands that are shown alike are the same. -/
theorem render_injective {c d : LaunchCommand} (h : c.render = d.render) : c = d := by
  have hread : SimpleCommand.ofString? c.render = SimpleCommand.ofString? d.render := by rw [h]
  rw [simpleCommand_render, simpleCommand_render, Option.some.injEq, SimpleCommand.mk.injEq] at hread
  have hwords : c.words = d.words := by
    rw [← map_text_ofText c.words, hread.1, map_text_ofText]
  have hlog : c.logFile = d.logFile := redirections_inj hread.2
  obtain ⟨program, args, logFile⟩ := c
  obtain ⟨program', args', logFile'⟩ := d
  simp only [LaunchCommand.words, List.cons.injEq] at hwords
  obtain ⟨rfl, rfl⟩ := hwords
  cases hlog
  rfl

/--
**A shell reads from the line what is executed.** The line is the words of the command, each as it
is and with nothing in it that a shell would take for more, and then the redirection, if there is
one. A child is started with these words and with outputs that go where the redirection leads.
Other commands have other lines.
-/
theorem render_reads_as_executed (c : LaunchCommand) :
    ∃ (words : List Word) (suffix : List Token) (rs : List Redirection),
      Token.ofString? c.render = some (words.map .word ++ suffix) ∧
      SimpleCommand.ofString? c.render = some ⟨words, rs⟩ ∧
      words.map Word.text = c.program :: c.args ∧
      (∀ w ∈ words, w.isInert = true) ∧
      AppendBoth c.logFile suffix rs ∧
      SimpleCommand.descriptors? ⟨words, rs⟩ = some (.toLog c.logFile) ∧
      (∀ (os : Os) (files : FileTree) (i : Invocation),
        (∃ call ∈ (Launch.execute os c files).calls, call.request = .spawn i) →
          i.words = words.map Word.text ∧ (Descriptors.toLog c.logFile).Agree os files i) ∧
      ∀ other : LaunchCommand, other.render = c.render → other = c := by
  refine ⟨c.words.map fun word => .ofText word.toList, redirectionTokens c.logFile,
    redirections c.logFile, ?tokens, ?command, ?words, ?inert, ?redirected, ?descriptors,
    ?executed, ?unique⟩
  case tokens =>
    rw [tokens_render, List.map_map]
    rfl
  case command => exact simpleCommand_render c
  case words => exact map_text_ofText c.words
  case inert =>
    intro w hw
    obtain ⟨word, -, rfl⟩ := List.mem_map.mp hw
    exact Word.isInert_ofText _
  case redirected => exact appendBoth_redirections c.logFile
  case descriptors => exact foldlM_redirections c.logFile
  case executed =>
    rintro os files i ⟨call, hmem, hspawn⟩
    rw [map_text_ofText]
    exact prepare_eq_ok (prepare_of_spawn_mem hmem hspawn)
  case unique => exact fun other h => render_injective h

end PanelLauncher
