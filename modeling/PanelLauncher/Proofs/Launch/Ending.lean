import PanelLauncher.Proofs.Launch.Stage

/-!
# How a launch can end

`Ends` has one case for each way in which a launch can end: what the system answered, and all that
was seen, asked and left by then. A launch ends in just one of these ways (`ends_iff`), so what
holds of every launch is shown case by case.
-/

namespace PanelLauncher.Launch

/-- The configuration at a path can be read, and a command comes out of it. -/
structure Derives (os : Os) (files : FileTree) (path : String) (config : LaunchConfig)
    (command : LaunchCommand) : Prop where
  read : ∃ text, os.readText files path = .ok text ∧ Config.ofString text = .ok config
  built : config.build.result = .ok command

/-- The remarks on a configuration, as they are seen. -/
def remarks (config : LaunchConfig) : List Happening :=
  config.build.advisories.map fun a => .logged (.advisory a)

/-- What is seen of a launch that comes to its command. -/
def announced (path : String) (config : LaunchConfig) (command : LaunchCommand) :
    List Happening :=
  .logged (.loading path) :: remarks config ++ [.logged (.finalCommand command)]

/-- The log file of a command cannot be used; the calls up to that, and the files then. -/
inductive Unprepared (os : Os) (files : FileTree) (log : String) :
    List Call → FileTree → IoFault → Prop
  | opening {fault : IoFault} (hopen : os.openLog files log = .error fault) :
      Unprepared os files log [⟨.openLog log, some fault⟩] files fault
  | cloning {place : Location} {fault : IoFault} (hopen : os.openLog files log = .ok place)
      (hclone : os.cloneLog place = .error fault) :
      Unprepared os files log [⟨.openLog log, none⟩, ⟨.cloneLog log, some fault⟩]
        (files.touch place) fault

/-- What a child is to be started with, and what was seen, asked and left to get there. -/
inductive Prepares (os : Os) (files : FileTree) (command : LaunchCommand) :
    Invocation → List Happening → List Call → FileTree → Prop
  | inherited (hlog : command.logFile = none) :
      Prepares os files command ⟨command.program, command.args, none, none, true⟩ [] [] files
  | appended {log : String} {place : Location} (hlog : command.logFile = some log)
      (hopen : os.openLog files log = .ok place) (hclone : os.cloneLog place = .ok ()) :
      Prepares os files command ⟨command.program, command.args, some place, some place, true⟩
        [.logged (.redirecting log)] [⟨.openLog log, none⟩, ⟨.cloneLog log, none⟩]
        (files.touch place)

/-- A handler cannot be installed; the calls up to that. -/
inductive Unhandled (os : Os) : List Call → IoFault → Prop
  | terminate {fault : IoFault} (hterminate : os.installHandler .terminate = .error fault) :
      Unhandled os [⟨.installHandler .terminate, some fault⟩] fault
  | interrupt {fault : IoFault} (hterminate : os.installHandler .terminate = .ok ())
      (hinterrupt : os.installHandler .interrupt = .error fault) :
      Unhandled os
        [⟨.installHandler .terminate, none⟩, ⟨.installHandler .interrupt, some fault⟩] fault

/-- The calls that install both handlers. -/
def handled : List Call :=
  [⟨.installHandler .terminate, none⟩, ⟨.installHandler .interrupt, none⟩]

/-- What is seen of a child. -/
def attended (i : Invocation) (process : Process) : List Happening :=
  .logged (.started process.pid) :: process.moments.flatMap (seen i process.pid)

/-- The ways in which a launch can end. -/
inductive Ends (os : Os) (files : FileTree) (path : String) : Outcome Unit → Prop
  | unread {fault : IoFault} (hread : os.readText files path = .error fault) :
      Ends os files path
        ⟨[.logged (.loading path)], [⟨.readText path, some fault⟩], files,
          .error (.configRead path fault), []⟩
  | unparsed {text : String} {fault : Config.ParseError}
      (hread : os.readText files path = .ok text) (hparse : Config.ofString text = .error fault) :
      Ends os files path
        ⟨[.logged (.loading path)], [⟨.readText path, none⟩], files,
          .error (.configParse path fault), []⟩
  | incomplete {text : String} {config : LaunchConfig} {field : RequiredField}
      (hread : os.readText files path = .ok text) (hparse : Config.ofString text = .ok config)
      (hbuild : config.build.result = .error field) :
      Ends os files path
        ⟨.logged (.loading path) :: remarks config, [⟨.readText path, none⟩], files,
          .error (.missingField field), []⟩
  | unprepared {config : LaunchConfig} {command : LaunchCommand} {log : String} {cs : List Call}
      {left : FileTree} {fault : IoFault} (h : Derives os files path config command)
      (hlog : command.logFile = some log) (hfault : Unprepared os files log cs left fault) :
      Ends os files path
        ⟨announced path config command, ⟨.readText path, none⟩ :: cs, left,
          .error (.logFile log fault), []⟩
  | unhandled {config : LaunchConfig} {command : LaunchCommand} {i : Invocation}
      {hs : List Happening} {cs handlers : List Call} {left : FileTree} {fault : IoFault}
      (h : Derives os files path config command) (hi : Prepares os files command i hs cs left)
      (hfault : Unhandled os handlers fault) :
      Ends os files path
        ⟨announced path config command ++ hs, ⟨.readText path, none⟩ :: cs ++ handlers, left,
          .error (.signal fault), []⟩
  | unspawned {config : LaunchConfig} {command : LaunchCommand} {i : Invocation}
      {hs : List Happening} {cs : List Call} {left : FileTree} {fault : IoFault}
      (h : Derives os files path config command) (hi : Prepares os files command i hs cs left)
      (hhandlers : ∀ signal, os.installHandler signal = .ok ())
      (hspawn : os.spawn left i = .error fault) :
      Ends os files path
        ⟨announced path config command ++ hs,
          ⟨.readText path, none⟩ :: cs ++ handled ++ [⟨.spawn i, some fault⟩], left,
          .error (.spawn i.program fault), []⟩
  | unawaited {config : LaunchConfig} {command : LaunchCommand} {i : Invocation}
      {hs : List Happening} {cs : List Call} {left : FileTree} {process : Process} {fault : IoFault}
      (h : Derives os files path config command) (hi : Prepares os files command i hs cs left)
      (hhandlers : ∀ signal, os.installHandler signal = .ok ())
      (hspawn : os.spawn left i = .ok process) (hwait : process.outcome = .error fault) :
      Ends os files path
        ⟨announced path config command ++ hs ++ attended i process,
          ⟨.readText path, none⟩ :: cs ++ handled ++
            [⟨.spawn i, none⟩, ⟨.await process.pid, some fault⟩],
          process.moments.foldl (write i) left, .error (.wait fault),
          process.aftermath.flatMap (seen i process.pid)⟩
  | awaited {config : LaunchConfig} {command : LaunchCommand} {i : Invocation}
      {hs : List Happening} {cs : List Call} {left : FileTree} {process : Process}
      {status : ExitStatus}
      (h : Derives os files path config command) (hi : Prepares os files command i hs cs left)
      (hhandlers : ∀ signal, os.installHandler signal = .ok ())
      (hspawn : os.spawn left i = .ok process) (hwait : process.outcome = .ok status) :
      Ends os files path
        ⟨announced path config command ++ hs ++ attended i process ++ [.logged (.exited status)],
          ⟨.readText path, none⟩ :: cs ++ handled ++ [⟨.spawn i, none⟩, ⟨.await process.pid, none⟩],
          process.moments.foldl (write i) left, .ok (),
          process.aftermath.flatMap (seen i process.pid)⟩

/-! ## What each part comes to -/

variable {os : Os} {files : FileTree} {path : String} {o : Outcome Unit}

theorem Unprepared.prepare_eq {command : LaunchCommand} {log : String} {cs : List Call}
    {left : FileTree} {fault : IoFault} (h : Unprepared os files log cs left fault)
    (hlog : command.logFile = some log) :
    prepare os command files = ⟨[], cs, left, .error (.logFile log fault), []⟩ := by
  obtain ⟨program, args, logFile⟩ := command
  cases hlog
  cases h with
  | opening hopen => simp [prepare, hopen, Request.error]
  | cloning hopen hclone => simp [prepare, hopen, hclone, Request.error]

theorem Prepares.prepare_eq {command : LaunchCommand} {i : Invocation} {hs : List Happening}
    {cs : List Call} {left : FileTree} (h : Prepares os files command i hs cs left) :
    prepare os command files = ⟨hs, cs, left, .ok i, []⟩ := by
  obtain ⟨program, args, logFile⟩ := command
  cases h with
  | inherited hlog =>
    cases hlog
    rfl
  | appended hlog hopen hclone =>
    cases hlog
    simp [prepare, hopen, hclone]

theorem Unhandled.installHandlers_eq {handlers : List Call} {fault : IoFault}
    (h : Unhandled os handlers fault) (files : FileTree) :
    installHandlers os files = ⟨[], handlers, files, .error (.signal fault), []⟩ := by
  cases h with
  | terminate hterminate => simp [installHandlers, hterminate, Request.error]
  | interrupt hterminate hinterrupt =>
    simp [installHandlers, hterminate, hinterrupt, Request.error]

theorem installHandlers_eq_handled (h : ∀ signal, os.installHandler signal = .ok ())
    (files : FileTree) : installHandlers os files = ⟨[], handled, files, .ok (), []⟩ := by
  simp [installHandlers, h, handled]

/-- A launch that has come to its command goes on to execute it. -/
theorem launch_of_derives {config : LaunchConfig} {command : LaunchCommand}
    (h : Derives os files path config command) :
    launch os files path =
      Outcome.andThen
        ⟨.logged (.loading path) :: remarks config, [⟨.readText path, none⟩], files, .ok command, []⟩
        fun command => execute os command >>= fun status => Stage.log [.exited status] := by
  obtain ⟨⟨text, hread, hparse⟩, hbuild⟩ := h
  simp [launch, whole, readConfig, derive, remarks, hread, hparse, hbuild]

theorem Ends.eq_launch (h : Ends os files path o) : o = launch os files path := by
  cases h with
  | unread hread => simp [launch, whole, readConfig, hread, Request.error]
  | unparsed hread hparse => simp [launch, whole, readConfig, hread, hparse]
  | incomplete hread hparse hbuild =>
    simp [launch, whole, readConfig, derive, remarks, hread, hparse, hbuild]
  | unprepared h hlog hfault =>
    simp [launch_of_derives h, execute, hfault.prepare_eq hlog, announced]
  | unhandled h hi hfault =>
    simp [launch_of_derives h, execute, hi.prepare_eq, hfault.installHandlers_eq, announced]
  | unspawned h hi hhandlers hspawn =>
    simp [launch_of_derives h, execute, hi.prepare_eq, installHandlers_eq_handled hhandlers, spawn,
      hspawn, announced, Request.error]
  | unawaited h hi hhandlers hspawn hwait =>
    simp [launch_of_derives h, execute, hi.prepare_eq, installHandlers_eq_handled hhandlers, spawn,
      hspawn, await, hwait, announced, attended, Request.error]
  | awaited h hi hhandlers hspawn hwait =>
    simp [launch_of_derives h, execute, hi.prepare_eq, installHandlers_eq_handled hhandlers, spawn,
      hspawn, await, hwait, announced, attended]

/-! ## Every launch ends -/

theorem unprepared_or_prepares (os : Os) (files : FileTree) (command : LaunchCommand) :
    (∃ log cs left fault, command.logFile = some log ∧ Unprepared os files log cs left fault) ∨
      ∃ i hs cs left, Prepares os files command i hs cs left := by
  cases hlog : command.logFile with
  | none => exact .inr ⟨_, _, _, _, .inherited hlog⟩
  | some log =>
  cases hopen : os.openLog files log with
  | error fault => exact .inl ⟨log, _, _, fault, rfl, .opening hopen⟩
  | ok place =>
  cases hclone : os.cloneLog place with
  | error fault => exact .inl ⟨log, _, _, fault, rfl, .cloning hopen hclone⟩
  | ok _ => exact .inr ⟨_, _, _, _, .appended hlog hopen hclone⟩

theorem unhandled_or_handles (os : Os) :
    (∃ handlers fault, Unhandled os handlers fault) ∨
      ∀ signal, os.installHandler signal = .ok () := by
  cases hterminate : os.installHandler .terminate with
  | error fault => exact .inl ⟨_, fault, .terminate hterminate⟩
  | ok _ =>
  cases hinterrupt : os.installHandler .interrupt with
  | error fault => exact .inl ⟨_, fault, .interrupt hterminate hinterrupt⟩
  | ok _ =>
    right
    intro signal
    cases signal with
    | interrupt => exact hinterrupt
    | terminate => exact hterminate

theorem exists_ends (os : Os) (files : FileTree) (path : String) : ∃ o, Ends os files path o := by
  cases hread : os.readText files path with
  | error fault => exact ⟨_, .unread hread⟩
  | ok text =>
  cases hparse : Config.ofString text with
  | error fault => exact ⟨_, .unparsed hread hparse⟩
  | ok config =>
  cases hbuild : config.build.result with
  | error field => exact ⟨_, .incomplete hread hparse hbuild⟩
  | ok command =>
  have h : Derives os files path config command := ⟨⟨text, hread, hparse⟩, hbuild⟩
  obtain ⟨log, cs, left, fault, hlog, hfault⟩ | ⟨i, hs, cs, left, hi⟩ :=
    unprepared_or_prepares os files command
  · exact ⟨_, .unprepared h hlog hfault⟩
  obtain ⟨handlers, fault, hfault⟩ | hhandlers := unhandled_or_handles os
  · exact ⟨_, .unhandled h hi hfault⟩
  cases hspawn : os.spawn left i with
  | error fault => exact ⟨_, .unspawned h hi hhandlers hspawn⟩
  | ok process =>
  cases hwait : process.outcome with
  | error fault => exact ⟨_, .unawaited h hi hhandlers hspawn hwait⟩
  | ok status => exact ⟨_, .awaited h hi hhandlers hspawn hwait⟩

/-- A launch ends in one way, and `Ends` says which. -/
theorem ends_iff : Ends os files path o ↔ o = launch os files path := by
  refine ⟨Ends.eq_launch, ?_⟩
  rintro rfl
  obtain ⟨o, h⟩ := exists_ends os files path
  exact h.eq_launch ▸ h

end PanelLauncher.Launch
