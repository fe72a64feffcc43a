import PanelLauncher.Proofs.Command.Required
import PanelLauncher.Proofs.Config.Reader
import PanelLauncher.Proofs.Launch.FailFast

/-!
# Log files only grow

What a launch leaves of a file is what it found, and behind it what the child wrote to its outputs
if the file is the log file of the configuration (`Attempt.entry?_outcome`). So after any number of
launches, each on the files that the one before left, a file holds what it held before them all,
followed by the outputs of the children that had it as their log file (`files_only_grow`).

A launch ends with the wait for its child. What a process that the child has left behind still
appends to the log file after that is no part of these outputs, nor of the files that the next
launch finds.
-/

namespace PanelLauncher

/-- Pieces one behind the other. -/
def joined (pieces : List ByteArray) : ByteArray :=
  pieces.foldr (· ++ ·) .empty

/-- What a moment adds to the outputs that the child got from the launcher. -/
def Moment.written : Moment → ByteArray
  | .wrote _ bytes => bytes
  | _ => .empty

/-- All that a child writes to the outputs that it got, both of them, in the order written. -/
def Process.written (process : Process) : ByteArray :=
  joined (process.moments.map Moment.written)

/-- The child changes no file but through the outputs that it got, as long as the launcher waits for
it. Of what others do with these outputs after that, nothing is said. -/
def Process.Confined (process : Process) : Prop :=
  ∀ m ∈ process.moments, ∀ files, m ≠ .changed files

namespace Launch

/-! ## What a child adds to a file -/

theorem entry?_write {i : Invocation} (hsame : i.stderr = i.stdout) {m : Moment}
    (hm : ∀ files, m ≠ .changed files) (t : FileTree) (p : Location) :
    FileTree.entry? (write i t m) p =
      (t.entry? p).map (Entry.grow (if i.stdout = some p then m.written else .empty)) := by
  cases m with
  | wrote stream bytes =>
    have hsink : i.sink stream = i.stdout := by
      cases stream with
      | stdout => rfl
      | stderr => exact hsame
    simp only [write, hsink, Moment.written]
    cases hstdout : i.stdout with
    | none => simp
    | some place => simp [FileTree.entry?_append]
  | printed stream bytes => simp [write, Moment.written]
  | passed signal fault => simp [write, Moment.written]
  | changed files => exact absurd rfl (hm files)

/-- What a child does to a file while it runs is to add what it writes. -/
theorem entry?_foldl_write {i : Invocation} (hsame : i.stderr = i.stdout) {moments : List Moment}
    (hmoments : ∀ m ∈ moments, ∀ files, m ≠ .changed files) (t : FileTree) (p : Location) :
    FileTree.entry? (moments.foldl (write i) t) p =
      (t.entry? p).map
        (Entry.grow
          (if i.stdout = some p then joined (moments.map Moment.written) else .empty)) := by
  induction moments generalizing t with
  | nil => simp [joined]
  | cons m moments ih =>
    have hm : ∀ files, m ≠ .changed files := hmoments m List.mem_cons_self
    have hrest : ∀ m ∈ moments, ∀ files, m ≠ .changed files :=
      fun m hmem => hmoments m (List.mem_cons_of_mem _ hmem)
    rw [List.foldl_cons, ih hrest, entry?_write hsame hm]
    cases t.entry? p with
    | none => rfl
    | some entry => by_cases hp : i.stdout = some p <;> simp [hp, joined]

/-! ## One launch -/

/-- A launch on the files that it finds. -/
structure Attempt where
  os : Os
  files : FileTree
  path : String

namespace Attempt

def outcome (a : Attempt) : Outcome Unit :=
  launch a.os a.files a.path

/-- The place of the log file that is opened, if a complete configuration names one. -/
def opened? (a : Attempt) : Option Location :=
  (command? a.os a.files a.path).bind fun command =>
    command.logFile.bind fun log => (a.os.openLog a.files log).toOption

/-- The child that is started, with what it is started with. -/
def child? (a : Attempt) : Option (Invocation × Process) :=
  match failure a.os a.files a.path .handle with
  | some _ => none
  | none => (invocation? a.os a.files a.path).bind fun (i, left) =>
    (a.os.spawn left i).toOption.map (i, ·)

/-- What the child adds to the file at a place. -/
def output (a : Attempt) (place : Location) : ByteArray :=
  match a.child? with
  | some (_, process) => if a.opened? = some place then process.written else .empty
  | none => .empty

/-- What comes to be at a vacant place. -/
def created (a : Attempt) (place : Location) : Option Entry :=
  if a.opened? = some place then some (.file false .empty) else none

/-- The configuration is complete, and its log file is at a place. -/
def Names (a : Attempt) (place : Location) : Prop :=
  ∃ config command log, Derives a.os a.files a.path config command ∧
    config.logFile = some log ∧ a.os.openLog a.files log = .ok place

variable {a : Attempt}

theorem opened?_of_derives {config : LaunchConfig} {command : LaunchCommand}
    (h : Derives a.os a.files a.path config command) :
    a.opened? = command.logFile.bind fun log => (a.os.openLog a.files log).toOption := by
  rw [opened?, h.command?, Option.bind_some]

theorem logFile_of_derives {config : LaunchConfig} {command : LaunchCommand}
    (h : Derives a.os a.files a.path config command) : command.logFile = config.logFile := by
  obtain ⟨device, mqtt, areas, -, -, -, rfl⟩ := LaunchConfig.isWhole_of_build h.built
  rfl

/-- A log file is opened just if a complete configuration names it. -/
theorem opened?_eq_some {place : Location} : a.opened? = some place ↔ a.Names place := by
  constructor
  · intro h
    obtain ⟨command, hcommand, h⟩ := Option.bind_eq_some_iff.mp h
    obtain ⟨log, hlog, hopen⟩ := Option.bind_eq_some_iff.mp h
    obtain ⟨config, hconfig, hbuild⟩ := Option.bind_eq_some_iff.mp hcommand
    obtain ⟨text, htext, hparse⟩ := Option.bind_eq_some_iff.mp hconfig
    have hderives : Derives a.os a.files a.path config command :=
      ⟨⟨text, toOption_eq_some.mp htext, toOption_eq_some.mp hparse⟩,
        toOption_eq_some.mp hbuild⟩
    rw [logFile_of_derives hderives] at hlog
    exact ⟨config, command, log, hderives, hlog, toOption_eq_some.mp hopen⟩
  · rintro ⟨config, command, log, hderives, hlog, hopen⟩
    rw [opened?_of_derives hderives, logFile_of_derives hderives, hlog, Option.bind_some, hopen]
    rfl

/-! ### Whether a child is started -/

/-- No child is started; all that may be new is the log file. -/
structure Unstarted (a : Attempt) : Prop where
  child? : a.child? = none
  calls : ∀ i, ⟨.spawn i, none⟩ ∉ a.outcome.calls
  entry? : ∀ p, a.outcome.files.entry? p = (a.files.entry? p).or (a.created p)

/-- A child is started, with the log file for both its outputs. -/
structure Started (a : Attempt) (i : Invocation) (process : Process) : Prop where
  child? : a.child? = some (i, process)
  calls : ∀ j, ⟨.spawn j, none⟩ ∈ a.outcome.calls ↔ j = i
  stdout : i.stdout = a.opened?
  stderr : i.stderr = a.opened?
  files : ∃ left : FileTree, (∀ p, left.entry? p = (a.files.entry? p).or (a.created p)) ∧
    a.outcome.files = process.moments.foldl (write i) left

theorem child?_of_invocation? (h : invocation? a.os a.files a.path = none) : a.child? = none := by
  unfold child?
  split
  · rfl
  · rw [h, Option.bind_none]

/-- Without a command nothing is opened and nothing started. -/
theorem unstarted_of_command? (h : command? a.os a.files a.path = none)
    (hcalls : ∀ i, ⟨.spawn i, none⟩ ∉ a.outcome.calls) (hfiles : a.outcome.files = a.files) :
    a.Unstarted where
  child? := child?_of_invocation? (by rw [invocation?, h, Option.bind_none])
  calls := hcalls
  entry? p := by simp [hfiles, created, opened?, h]

theorem unstarted_of_unprepared {config : LaunchConfig} {command : LaunchCommand} {log : String}
    {cs : List Call} {left : FileTree} {fault : IoFault}
    (h : Derives a.os a.files a.path config command) (hlog : command.logFile = some log)
    (hfault : Unprepared a.os a.files log cs left fault)
    (hcalls : a.outcome.calls = ⟨.readText a.path, none⟩ :: cs) (hfiles : a.outcome.files = left) :
    a.Unstarted where
  child? := child?_of_invocation? (by
    simp [invocation?, h.command?, hlog, hfault.logPlace, Except.toOption])
  calls i := by
    rw [hcalls]
    cases hfault <;> simp
  entry? p := by
    rw [hfiles, created, opened?_of_derives h, hlog]
    cases hfault with
    | opening hopen => simp [hopen, Except.toOption]
    | cloning hopen hclone => simp [hopen, Except.toOption, FileTree.entry?_touch_eq_or]

/-- What is prepared is the log file of the configuration, for both outputs. -/
theorem prepared {config : LaunchConfig} {command : LaunchCommand} {i : Invocation}
    {hs : List Happening} {cs : List Call} {left : FileTree}
    (h : Derives a.os a.files a.path config command)
    (hi : Prepares a.os a.files command i hs cs left) :
    i.stdout = a.opened? ∧ i.stderr = a.opened? ∧
      ∀ p, left.entry? p = (a.files.entry? p).or (a.created p) := by
  unfold created
  rw [opened?_of_derives h]
  cases hi with
  | inherited hlog => simp [hlog]
  | appended hlog hopen hclone =>
    simp [hlog, hopen, Except.toOption, FileTree.entry?_touch_eq_or]

/-- A child that has been prepared for is started just if the system starts it. -/
theorem child?_of_prepares {config : LaunchConfig} {command : LaunchCommand} {i : Invocation}
    {hs : List Happening} {cs : List Call} {left : FileTree}
    (h : Derives a.os a.files a.path config command)
    (hi : Prepares a.os a.files command i hs cs left)
    (hhandlers : ∀ signal, a.os.installHandler signal = .ok ()) :
    a.child? = (a.os.spawn left i).toOption.map (i, ·) := by
  obtain ⟨-, hinvocation⟩ := hi.log_succeeds h
  rw [child?, failure_handle_eq_none hhandlers, hinvocation]
  rfl

theorem started_of_prepares {config : LaunchConfig} {command : LaunchCommand} {i : Invocation}
    {hs : List Happening} {cs : List Call} {left : FileTree} {process : Process}
    (h : Derives a.os a.files a.path config command)
    (hi : Prepares a.os a.files command i hs cs left)
    (hhandlers : ∀ signal, a.os.installHandler signal = .ok ())
    (hspawn : a.os.spawn left i = .ok process)
    {fault : Option IoFault}
    (hcalls : a.outcome.calls = ⟨.readText a.path, none⟩ :: cs ++ handled ++
      [⟨.spawn i, none⟩, ⟨.await process.pid, fault⟩])
    (hfiles : a.outcome.files = process.moments.foldl (write i) left) : a.Started i process := by
  obtain ⟨hstdout, hstderr, hleft⟩ := prepared h hi
  refine ⟨?child, ?calls, hstdout, hstderr, left, hleft, hfiles⟩
  case child =>
    rw [child?_of_prepares h hi hhandlers, hspawn]
    rfl
  case calls =>
    intro j
    rw [hcalls]
    cases hi <;> simp [handled]

theorem unstarted_or_started (a : Attempt) : a.Unstarted ∨ ∃ i process, a.Started i process := by
  have hends : Ends a.os a.files a.path a.outcome := ends_iff.mpr rfl
  generalize ho : a.outcome = o at hends
  cases hends with
  | unread hread =>
    exact .inl (unstarted_of_command?
      (by simp [command?, config?, text?, hread, Except.toOption]) (by simp [ho]) (by rw [ho]))
  | unparsed hread hparse =>
    exact .inl (unstarted_of_command?
      (by simp [command?, config?, text?, hread, hparse, Except.toOption]) (by simp [ho])
      (by rw [ho]))
  | incomplete hread hparse hbuild =>
    exact .inl (unstarted_of_command?
      (by simp [command?, config?, text?, hread, hparse, hbuild, Except.toOption]) (by simp [ho])
      (by rw [ho]))
  | unprepared h hlog hfault =>
    exact .inl (unstarted_of_unprepared h hlog hfault (by rw [ho]) (by rw [ho]))
  | unhandled h hi hfault =>
    obtain ⟨-, -, hleft⟩ := prepared h hi
    refine .inl ⟨by rw [child?, hfault.failure], ?_, by rwa [ho]⟩
    rw [ho]
    cases hi <;> cases hfault <;> simp
  | unspawned h hi hhandlers hspawn =>
    obtain ⟨-, -, hleft⟩ := prepared h hi
    refine .inl ⟨by rw [child?_of_prepares h hi hhandlers, hspawn]; rfl, ?_, by rwa [ho]⟩
    rw [ho]
    cases hi <;> simp [handled]
  | unawaited h hi hhandlers hspawn hwait =>
    exact .inr ⟨_, _, started_of_prepares h hi hhandlers hspawn (by rw [ho]) (by rw [ho])⟩
  | awaited h hi hhandlers hspawn hwait =>
    exact .inr ⟨_, _, started_of_prepares h hi hhandlers hspawn (by rw [ho]) (by rw [ho])⟩

/-- The entries that a launch leaves: what was there or was created, with the output of the child
behind it. -/
theorem entry?_outcome
    (hconfined : ∀ i process, a.child? = some (i, process) → process.Confined) (p : Location) :
    a.outcome.files.entry? p =
      ((a.files.entry? p).or (a.created p)).map (Entry.grow (a.output p)) := by
  obtain h | ⟨i, process, h⟩ := unstarted_or_started a
  · rw [h.entry?, output, h.child?, Entry.map_grow_empty]
  · obtain ⟨left, hleft, hfiles⟩ := h.files
    have hsame : i.stderr = i.stdout := h.stderr.trans h.stdout.symm
    rw [hfiles, entry?_foldl_write hsame (hconfined i process h.child?), hleft, h.stdout, output,
      h.child?]
    rfl

theorem mem_calls_iff {i : Invocation} :
    ⟨.spawn i, none⟩ ∈ a.outcome.calls ↔ ∃ process, a.child? = some (i, process) := by
  obtain h | ⟨j, process, h⟩ := unstarted_or_started a
  · simp [h.calls, h.child?]
  · simp [h.calls, h.child?, eq_comm]

theorem spawn_of_child? {i : Invocation} {process : Process} (h : a.child? = some (i, process)) :
    ∃ left, a.os.spawn left i = .ok process := by
  unfold child? at h
  split at h
  · cases h
  · obtain ⟨⟨i', left⟩, -, h⟩ := Option.bind_eq_some_iff.mp h
    obtain ⟨process', hspawn, h⟩ := Option.map_eq_some_iff.mp h
    cases h
    exact ⟨left, toOption_eq_some.mp hspawn⟩

theorem sinks_of_child? {i : Invocation} {process : Process}
    (hchild : a.child? = some (i, process)) : i.stdout = a.opened? ∧ i.stderr = a.opened? := by
  obtain h | ⟨j, process', h⟩ := unstarted_or_started a
  · rw [h.child?] at hchild
    cases hchild
  · rw [h.child?] at hchild
    cases hchild
    exact ⟨h.stdout, h.stderr⟩

theorem output_eq_empty {p : Location} (h : a.opened? ≠ some p) : a.output p = .empty := by
  unfold output
  split
  · exact if_neg h
  · rfl

end Attempt

/-! ## Any number of launches -/

/-- Launches one after the other, each with the files that it finds. -/
def attempts : FileTree → List (Os × String) → List Attempt
  | _, [] => []
  | files, (os, path) :: runs =>
    ⟨os, files, path⟩ :: attempts (launch os files path).files runs

/-- The files after launches one after the other. -/
def leave (files : FileTree) (runs : List (Os × String)) : FileTree :=
  runs.foldl (fun files (os, path) => (launch os files path).files) files

/-- What launches add to the file at a place. -/
def outputs (files : FileTree) (runs : List (Os × String)) (place : Location) : ByteArray :=
  joined ((attempts files runs).map (·.output place))

theorem outputs_cons (os : Os) (files : FileTree) (path : String) (runs : List (Os × String))
    (place : Location) : outputs files ((os, path) :: runs) place =
      (Attempt.mk os files path).output place ++ outputs (launch os files path).files runs place :=
  rfl

theorem launches_eq (os : Os) (files : FileTree) (paths : List String) :
    launches os files paths =
      (attempts files (paths.map fun path => (os, path))).map Attempt.outcome := by
  induction paths generalizing files with
  | nil => rfl
  | cons path paths ih => simp only [launches, List.map_cons, attempts, ih]; rfl

/-- What is at a place that was vacant before: an empty file, if one of the launches opens it. -/
def createdBy (as : List Attempt) (place : Location) : Option Entry :=
  if as.any (·.opened? = some place) then some (.file false .empty) else none

/-- One launch first, then the others on what it leaves. -/
theorem entry?_leave {files : FileTree} {runs : List (Os × String)}
    (hconfined : ∀ a ∈ attempts files runs, ∀ i process, a.child? = some (i, process) →
      process.Confined) (p : Location) :
    FileTree.entry? (leave files runs) p =
      ((files.entry? p).or (createdBy (attempts files runs) p)).map
        (Entry.grow (outputs files runs p)) := by
  induction runs generalizing files with
  | nil => simp [leave, attempts, createdBy, outputs, joined]
  | cons run runs ih =>
    obtain ⟨os, path⟩ := run
    let a : Attempt := ⟨os, files, path⟩
    have hfirst := Attempt.entry?_outcome (hconfined a List.mem_cons_self) p
    have hrest := ih fun b hb => hconfined b (List.mem_cons_of_mem a hb)
    have houtputs : outputs files ((os, path) :: runs) p =
        a.output p ++ outputs a.outcome.files runs p := outputs_cons os files path runs p
    have hcreated : createdBy (attempts files ((os, path) :: runs)) p =
        (a.created p).or (createdBy (attempts a.outcome.files runs) p) := by
      simp only [createdBy, attempts, List.any_cons, Attempt.created]
      by_cases hopened : a.opened? = some p <;> simp [hopened, a, Attempt.outcome]
    calc FileTree.entry? (leave files ((os, path) :: runs)) p
        = ((a.outcome.files.entry? p).or (createdBy (attempts a.outcome.files runs) p)).map
            (Entry.grow (outputs a.outcome.files runs p)) := hrest
      _ = _ := by
        rw [hfirst, houtputs, hcreated, ← Option.or_assoc]
        cases hentry : (a.files.entry? p).or (a.created p) with
        | some entry => simp [a]
        | none =>
          -- what is not there was not opened, so nothing was written to it
          have hopened : a.opened? ≠ some p := by
            intro h
            simp [Attempt.created, h] at hentry
          simp [a, Attempt.output_eq_empty hopened]

/--
**Log files only grow.** After launches one after the other, whose children change files only
through the outputs that they got, each file holds what it held before them all and behind it what
was written by the children that were started with it as their log file, launch after launch. A file
is new only if a launch with a complete configuration names it as its log file.
-/
theorem files_only_grow (files : FileTree) (runs : List (Os × String))
    (hconfined : ∀ a ∈ attempts files runs, ∀ i process, a.child? = some (i, process) →
      process.Confined) :
    (∀ place entry, files.entry? place = some entry →
      FileTree.entry? (leave files runs) place = some (entry.grow (outputs files runs place))) ∧
    (∀ place, files.entry? place = none →
      FileTree.entry? (leave files runs) place = none ∧
        (∀ a ∈ attempts files runs, ¬ a.Names place) ∨
      FileTree.entry? (leave files runs) place = some (.file false (outputs files runs place)) ∧
        ∃ a ∈ attempts files runs, a.Names place) ∧
    (∀ (a : Attempt) i,
      ⟨.spawn i, none⟩ ∈ a.outcome.calls ↔ ∃ process, a.child? = some (i, process)) ∧
    (∀ (a : Attempt) i process, a.child? = some (i, process) →
      i.stdout = a.opened? ∧ i.stderr = a.opened?) ∧
    ∀ os paths, launches os files paths =
      (attempts files (paths.map fun path => (os, path))).map Attempt.outcome := by
  refine ⟨?there, ?vacant, fun a i => Attempt.mem_calls_iff, ?sinks,
    fun os paths => launches_eq os files paths⟩
  case there =>
    intro place entry hentry
    rw [entry?_leave hconfined, hentry]
    rfl
  case vacant =>
    intro place hentry
    rw [entry?_leave hconfined, hentry, Option.none_or, createdBy]
    by_cases hopened : ∃ a ∈ attempts files runs, a.Names place
    · right
      have hany : (attempts files runs).any (·.opened? = some place) = true := by
        simpa [Attempt.opened?_eq_some] using hopened
      rw [hany]
      exact ⟨by simp [Entry.grow], hopened⟩
    · left
      have hany : (attempts files runs).any (·.opened? = some place) = false := by
        simpa [Attempt.opened?_eq_some] using hopened
      rw [hany]
      exact ⟨rfl, by simpa using hopened⟩
  case sinks =>
    intro a i process hchild
    exact Attempt.sinks_of_child? hchild

/-! ### A log file that is the configuration as well -/

/-- A system that has its files in the tree by their names. Every child writes to both its outputs,
and fails. -/
def echoing (err out : String) : Os where
  readText files name :=
    match files.content? [name] with
    | some content => (String.fromUTF8? content).elim (.error .notUtf8) .ok
    | none => .error (.os .noEntry)
  openLog _ name := .ok [name]
  cloneLog _ := .ok ()
  installHandler _ := .ok ()
  spawn _ _ := .ok ⟨7, [.wrote .stderr err.toUTF8, .wrote .stdout out.toUTF8], .ok (.code 1), []⟩

/-- The same system, except that nobody may append to a file. -/
def sealing : Os :=
  { echoing "" "" with openLog := fun _ _ => .error (.os .accessDenied) }

/-- A configuration that has itself as its log file. -/
def selfLogging : String := "device: d\nmqtt: {}\nareas: []\nlog_file: c\n"

/-- What `selfLogging` is read as, also with comments behind it. -/
def selfLoggingConfig : LaunchConfig :=
  { LaunchConfig.empty with
    device := some (.text "d")
    mqtt := some .empty
    areas := some []
    logFile := some "c" }

/-- The file that is configuration and log file holds a text. -/
def Holds (files : FileTree) (text : String) : Prop :=
  files.entry? ["c"] = some (.file false text.toUTF8)

theorem Holds.readText {files : FileTree} {text : String} (h : Holds files text)
    (err out : String) : (echoing err out).readText files "c" = .ok text := by
  have htext : String.fromUTF8? text.toUTF8 = some text := dif_pos text.isValidUTF8
  rw [Holds] at h
  simp only [echoing, FileTree.content?, h, htext, Option.elim_some]

/-- Under a text that is no configuration, nothing is written. -/
theorem Holds.output_of_unparsed {files : FileTree} {text : String} (h : Holds files text)
    (hparse : (Config.ofString text).toOption = none) (err out : String) (place : Location) :
    (Attempt.mk (echoing err out) files "c").output place = .empty := by
  have htext : text? (echoing err out) files "c" = some text :=
    toOption_eq_some.mpr (h.readText err out)
  have hcommand : command? (echoing err out) files "c" = none := by
    simp [command?, config?, htext, hparse]
  exact Attempt.output_eq_empty (by simp [Attempt.opened?, hcommand])

theorem output_sealing (files : FileTree) (place : Location) :
    (Attempt.mk sealing files "c").output place = .empty := by
  refine Attempt.output_eq_empty ?_
  rw [Attempt.opened?]
  cases command? sealing files "c" <;> simp [sealing, Except.toOption]

theorem Holds.output_echoing {files : FileTree} {text : String} (h : Holds files text)
    (hparse : (Config.ofString text).toOption = some selfLoggingConfig) (err out : String) :
    (Attempt.mk (echoing err out) files "c").output ["c"] = (err ++ out).toUTF8 := by
  have hbuild : selfLoggingConfig.build.result.toOption =
      some ⟨"/opt/paraevo/paraevo", ["-d", "d"], some "c"⟩ := by decide +kernel
  have hderives : Derives (echoing err out) files "c" selfLoggingConfig _ :=
    ⟨⟨text, h.readText err out, toOption_eq_some.mp hparse⟩, toOption_eq_some.mp hbuild⟩
  have hopened : (Attempt.mk (echoing err out) files "c").opened? = some ["c"] := by
    rw [Attempt.opened?_of_derives hderives]
    rfl
  rw [Attempt.output, hopened,
    Attempt.child?_of_prepares hderives (.appended rfl rfl rfl) fun _ => rfl]
  simp [echoing, Except.toOption, Process.written, joined, Moment.written]

theorem confined_echoing (err out : String) (files : FileTree) (path : String) (i : Invocation)
    (process : Process)
    (h : (Attempt.mk (echoing err out) files path).child? = some (i, process)) :
    process.Confined := by
  obtain ⟨left, hspawn⟩ := Attempt.spawn_of_child? h
  cases hspawn
  simp [Process.Confined]

theorem confined_sealing (files : FileTree) (path : String) (i : Invocation) (process : Process)
    (h : (Attempt.mk sealing files path).child? = some (i, process)) : process.Confined := by
  obtain ⟨left, hspawn⟩ := Attempt.spawn_of_child? h
  cases hspawn
  simp [Process.Confined]

theorem Holds.launched {os : Os} {files : FileTree} {text added : String} (h : Holds files text)
    (hconfined : ∀ i process, (Attempt.mk os files "c").child? = some (i, process) →
      process.Confined)
    (hadded : (Attempt.mk os files "c").output ["c"] = added.toUTF8) :
    Holds (launch os files "c").files (text ++ added) := by
  have hentry := Attempt.entry?_outcome hconfined ["c"]
  rw [Holds] at h
  rw [hadded, h] at hentry
  exact hentry

/-- The log file is read as the configuration each time. The second launch may not append to it,
the third makes it unreadable, and the last fails by that. -/
theorem files_only_grow_selfLogging :
    let files : FileTree := ⟨[(["c"], .file false selfLogging.toUTF8)]⟩
    let runs := [(echoing "#e\n" "#o\n", "c"), (sealing, "c"), (echoing "oops" "[", "c"),
      (echoing "#e\n" "#o\n", "c")]
    (∀ a ∈ attempts files runs, ∀ i process, a.child? = some (i, process) → process.Confined) ∧
    FileTree.entry? (leave files runs) ["c"] =
      some (.file false (selfLogging ++ "#e\n#o\noops[").toUTF8) := by
  intro files runs
  have hconfined : ∀ a ∈ attempts files runs, ∀ i process, a.child? = some (i, process) →
      process.Confined := by
    intro a ha
    simp only [attempts, runs, List.mem_cons, List.not_mem_nil, or_false] at ha
    obtain rfl | rfl | rfl | rfl := ha
    · exact confined_echoing _ _ _ _
    · exact confined_sealing _ _
    · exact confined_echoing _ _ _ _
    · exact confined_echoing _ _ _ _
  refine ⟨hconfined, ?_⟩
  have h0 : Holds files selfLogging := rfl
  have houtputs : outputs files runs ["c"] = "#e\n#o\noops[".toUTF8 := by
    clear_value files
    simp only [runs, outputs_cons]
    have hfirst := h0.output_echoing (by decide +kernel) "#e\n" "#o\n"
    have h1 := h0.launched (confined_echoing _ _ _ _) hfirst
    generalize (launch (echoing "#e\n" "#o\n") files "c").files = files1 at h1 ⊢
    have hsecond := output_sealing files1 ["c"]
    have h2 : Holds (launch sealing files1 "c").files (selfLogging ++ ("#e\n" ++ "#o\n") ++ "") :=
      h1.launched (confined_sealing _ _) hsecond
    generalize (launch sealing files1 "c").files = files2 at h2 ⊢
    have hthird := h2.output_echoing (by decide +kernel) "oops" "["
    have h3 := h2.launched (confined_echoing _ _ _ _) hthird
    generalize (launch (echoing "oops" "[") files2 "c").files = files3 at h3 ⊢
    have hfourth := h3.output_of_unparsed (by decide +kernel) "#e\n" "#o\n" ["c"]
    rw [hfirst, hsecond, hthird, hfourth]
    rfl
  rw [(files_only_grow files runs hconfined).1 ["c"] (.file false selfLogging.toUTF8) h0,
    houtputs]
  rfl

end Launch

end PanelLauncher
