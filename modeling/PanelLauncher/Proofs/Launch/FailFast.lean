import PanelLauncher.Proofs.Host.FileTree
import PanelLauncher.Proofs.Launch.Ending
import PanelLauncher.Session

/-!
# A launch stops at the first step that fails

Any of the steps of a launch may be bound to fail, several of them at once: `failure` says which
ones are, each by itself. The first of them decides how the launch ends, and no later step is taken
(`launch_stops_at_first_failure`).
-/

namespace PanelLauncher

namespace Launch

/-- The steps of a launch. -/
inductive Step
  | read
  | parse
  | require
  | log
  | handle
  | spawn
  | wait
  deriving DecidableEq, Repr

namespace Step

/-- All of them, in the order in which a launch takes them. -/
def all : List Step := [read, parse, require, log, handle, spawn, wait]

/-- The place of a step in this order. -/
def rank (s : Step) : Nat :=
  all.idxOf s

instance : LE Step := ⟨fun a b => a.rank ≤ b.rank⟩

instance (a b : Step) : Decidable (a ≤ b) :=
  inferInstanceAs (Decidable (a.rank ≤ b.rank))

end Step

end Launch

open Launch (Step)

/-- The step that a request belongs to. -/
def Request.step : Request → Step
  | readText _ => .read
  | openLog _ => .log
  | cloneLog _ => .log
  | installHandler _ => .handle
  | spawn _ => .spawn
  | await _ => .wait

def LaunchError.step : LaunchError → Step
  | configRead _ _ => .read
  | configParse _ _ => .parse
  | missingField _ => .require
  | logFile _ _ => .log
  | signal _ => .handle
  | spawn _ _ => .spawn
  | wait _ => .wait

namespace Launch

/-! ## The failure of each step -/

section Failure

variable (os : Os) (files : FileTree) (path : String)

def text? : Option String :=
  (os.readText files path).toOption

def config? : Option LaunchConfig :=
  (text? os files path).bind fun text => (Config.ofString text).toOption

def command? : Option LaunchCommand :=
  (config? os files path).bind fun config => config.build.result.toOption

/-- The place of a log file with two handles of it. -/
def logPlace (log : String) : Except IoFault Location := do
  let place ← os.openLog files log
  os.cloneLog place
  return place

/-- What a child is to be started with, and the files by then. -/
def invocation? : Option (Invocation × FileTree) :=
  (command? os files path).bind fun command =>
    match command.logFile with
    | none => some (⟨command.program, command.args, none, none, true⟩, files)
    | some log => (logPlace os files log).toOption.map fun place =>
      (⟨command.program, command.args, some place, some place, true⟩, files.touch place)

def process? : Option Process :=
  (invocation? os files path).bind fun (i, left) => (os.spawn left i).toOption

def fault? {ε α : Type} : Except ε α → Option ε
  | .error e => some e
  | .ok _ => none

/-- The failure of a step, if all is there that it needs. -/
def failure : Step → Option LaunchError
  | .read => (fault? (os.readText files path)).map (.configRead path)
  | .parse => (text? os files path).bind fun text =>
    (fault? (Config.ofString text)).map (.configParse path)
  | .require => (config? os files path).bind fun config =>
    (fault? config.build.result).map .missingField
  | .log => (command? os files path).bind fun command => command.logFile.bind fun log =>
    (fault? (logPlace os files log)).map (.logFile log)
  | .handle => [Signal.terminate, Signal.interrupt].findSome? fun signal =>
    (fault? (os.installHandler signal)).map .signal
  | .spawn => (invocation? os files path).bind fun (i, left) =>
    (fault? (os.spawn left i)).map (.spawn i.program)
  | .wait => (process? os files path).bind fun process => (fault? process.outcome).map .wait

/-- The first step that fails, with its failure. -/
def firstFailure? : Option (Step × LaunchError) :=
  Step.all.findSome? fun s => (failure os files path s).map (s, ·)

end Failure

/-! ## What has been done when a step fails -/

/-- Nothing has been done but reading the configuration. -/
structure OnlyRead (files : FileTree) (path : String) (o : Outcome Unit) : Prop where
  files_eq : o.files = files
  request_eq : ∀ call ∈ o.calls, call.request = .readText path
  unannounced : ∀ command, .logged (.finalCommand command) ∉ o.happenings

/-- The command is known, but no child has been started. -/
structure Childless (os : Os) (files : FileTree) (path : String) (o : Outcome Unit) : Prop where
  announced : ∃ command, command? os files path = some command ∧
    .logged (.finalCommand command) ∈ o.happenings
  unstarted : ∀ pid, .logged (.started pid) ∉ o.happenings
  no_child : ∀ call ∈ o.calls, ∀ i, call.request = .spawn i → call.fault.isSome
  no_output : ∀ stream bytes, .output stream bytes ∉ o.happenings ++ o.aftermath
  kept : ∀ place entry, files.entry? place = some entry → o.files.entry? place = some entry
  /-- At most one place is new, and it is empty. -/
  new : ∃ log : Location, ∀ place, o.files.entry? place ≠ files.entry? place →
    place = log ∧ o.files.entry? place = some (.file false .empty)

variable {os : Os} {files : FileTree} {path : String} {o : Outcome Unit}

theorem Derives.config? {config : LaunchConfig} {command : LaunchCommand}
    (h : Derives os files path config command) : config? os files path = some config := by
  obtain ⟨⟨text, hread, hparse⟩, -⟩ := h
  simp [Launch.config?, text?, hread, hparse, Except.toOption]

theorem Derives.command? {config : LaunchConfig} {command : LaunchCommand}
    (h : Derives os files path config command) : command? os files path = some command := by
  simp [Launch.command?, h.config?, h.built, Except.toOption]

/-- A launch that comes to its command can fail at the later steps only. -/
theorem Derives.firstFailure? {config : LaunchConfig} {command : LaunchCommand}
    (h : Derives os files path config command) :
    firstFailure? os files path =
      [Step.log, .handle, .spawn, .wait].findSome? fun s =>
        (failure os files path s).map (s, ·) := by
  obtain ⟨⟨text, hread, hparse⟩, hbuild⟩ := h
  simp [Launch.firstFailure?, Step.all, failure, Launch.config?, text?, fault?, hread, hparse,
    hbuild, Except.toOption]

theorem Unprepared.logPlace {log : String} {cs : List Call} {left : FileTree} {fault : IoFault}
    (h : Unprepared os files log cs left fault) : logPlace os files log = .error fault := by
  cases h with
  | opening hopen => simp [Launch.logPlace, hopen, bind, Except.bind]
  | cloning hopen hclone => simp [Launch.logPlace, hopen, hclone, bind, Except.bind]

theorem Unprepared.failure {config : LaunchConfig} {command : LaunchCommand} {log : String}
    {cs : List Call} {left : FileTree} {fault : IoFault}
    (h : Derives os files path config command) (hlog : command.logFile = some log)
    (hfault : Unprepared os files log cs left fault) :
    failure os files path .log = some (.logFile log fault) := by
  simp [Launch.failure, h.command?, hlog, hfault.logPlace, fault?]

theorem Prepares.log_succeeds {config : LaunchConfig} {command : LaunchCommand} {i : Invocation}
    {hs : List Happening} {cs : List Call} {left : FileTree}
    (h : Derives os files path config command) (hi : Prepares os files command i hs cs left) :
    failure os files path .log = none ∧ invocation? os files path = some (i, left) := by
  cases hi with
  | inherited hlog => simp [Launch.failure, Launch.invocation?, h.command?, hlog]
  | @appended log place hlog hopen hclone =>
    have hplace : Launch.logPlace os files log = .ok place := by
      simp [Launch.logPlace, hopen, hclone, bind, Except.bind, pure, Except.pure]
    simp [Launch.failure, Launch.invocation?, h.command?, hlog, hplace, fault?, Except.toOption]

theorem Unhandled.failure {handlers : List Call} {fault : IoFault}
    (h : Unhandled os handlers fault) :
    failure os files path .handle = some (.signal fault) := by
  cases h with
  | terminate hterminate => simp [Launch.failure, fault?, hterminate]
  | interrupt hterminate hinterrupt =>
    simp [Launch.failure, fault?, hterminate, hinterrupt]

theorem failure_handle_eq_none (h : ∀ signal, os.installHandler signal = .ok ()) :
    failure os files path .handle = none := by
  simp [failure, fault?, h]

theorem failure_spawn {i : Invocation} {left : FileTree}
    (hi : invocation? os files path = some (i, left)) :
    failure os files path .spawn = (fault? (os.spawn left i)).map (.spawn i.program) := by
  simp [failure, hi]

theorem failure_wait {i : Invocation} {left : FileTree} {process : Process}
    (hi : invocation? os files path = some (i, left)) (hspawn : os.spawn left i = .ok process) :
    failure os files path .wait = (fault? process.outcome).map .wait := by
  simp [failure, process?, hi, hspawn, Except.toOption]

/-- The failure that a launch ends with is that of the first step that fails. -/
theorem Ends.firstFailure? (h : Ends os files path o) :
    firstFailure? os files path = (fault? o.result).map fun e => (e.step, e) := by
  cases h with
  | unread hread => simp [Launch.firstFailure?, Step.all, failure, fault?, hread, LaunchError.step]
  | unparsed hread hparse =>
    simp [Launch.firstFailure?, Step.all, failure, fault?, text?, hread, hparse, Except.toOption,
      LaunchError.step]
  | incomplete hread hparse hbuild =>
    simp [Launch.firstFailure?, Step.all, failure, fault?, text?, config?, hread, hparse, hbuild,
      Except.toOption, LaunchError.step]
  | unprepared h hlog hfault =>
    rw [h.firstFailure?]
    simp [hfault.failure h hlog, fault?, LaunchError.step]
  | unhandled h hi hfault =>
    obtain ⟨hlog, -⟩ := hi.log_succeeds h
    rw [h.firstFailure?]
    simp [hlog, hfault.failure, fault?, LaunchError.step]
  | unspawned h hi hhandlers hspawn =>
    obtain ⟨hlog, hinvocation⟩ := hi.log_succeeds h
    rw [h.firstFailure?]
    simp [hlog, failure_handle_eq_none hhandlers, failure_spawn hinvocation, hspawn, fault?,
      LaunchError.step]
  | unawaited h hi hhandlers hspawn hwait =>
    obtain ⟨hlog, hinvocation⟩ := hi.log_succeeds h
    rw [h.firstFailure?]
    simp [hlog, failure_handle_eq_none hhandlers, failure_spawn hinvocation,
      failure_wait hinvocation hspawn, hspawn, hwait, fault?, LaunchError.step]
  | awaited h hi hhandlers hspawn hwait =>
    obtain ⟨hlog, hinvocation⟩ := hi.log_succeeds h
    rw [h.firstFailure?]
    simp [hlog, failure_handle_eq_none hhandlers, failure_spawn hinvocation,
      failure_wait hinvocation hspawn, hspawn, hwait, fault?]

/-! ## What comes before a failure -/

/-- Steps come in order, and none is beyond the last one. -/
def Ordered (steps : List Step) (last : Step) : Prop :=
  steps.Pairwise (· ≤ ·) ∧ ∀ s ∈ steps, s ≤ last

instance (steps : List Step) (last : Step) : Decidable (Ordered steps last) :=
  inferInstanceAs (Decidable (_ ∧ _))

/-- The calls of a launch come in the order of the steps, up to the one that fails. -/
theorem Ends.ordered (h : Ends os files path o) :
    Ordered (o.calls.map (·.request.step)) (((fault? o.result).map LaunchError.step).getD .wait) := by
  cases h with
  | unread hread => exact of_decide_eq_true rfl
  | unparsed hread hparse => exact of_decide_eq_true rfl
  | incomplete hread hparse hbuild => exact of_decide_eq_true rfl
  | unprepared h hlog hfault => cases hfault <;> exact of_decide_eq_true rfl
  | unhandled h hi hfault => cases hi <;> cases hfault <;> exact of_decide_eq_true rfl
  | unspawned h hi hhandlers hspawn => cases hi <;> exact of_decide_eq_true rfl
  | unawaited h hi hhandlers hspawn hwait => cases hi <;> exact of_decide_eq_true rfl
  | awaited h hi hhandlers hspawn hwait => cases hi <;> exact of_decide_eq_true rfl

theorem Ends.onlyRead {e : LaunchError} (h : Ends os files path o) (he : o.result = .error e)
    (hstep : e.step ≤ .require) : OnlyRead files path o := by
  cases h with
  | unread hread => exact ⟨rfl, by simp, by simp⟩
  | unparsed hread hparse => exact ⟨rfl, by simp, by simp⟩
  | incomplete hread hparse hbuild => exact ⟨rfl, by simp, by simp [remarks]⟩
  | awaited h hi hhandlers hspawn hwait => cases he
  | _ =>
    cases he
    exact absurd hstep (of_decide_eq_false rfl)

/-- Nothing has changed, or an empty log file is new. -/
def LogOnly (files left : FileTree) : Prop :=
  left = files ∨ ∃ log, left = files.touch log

theorem Unprepared.logOnly {log : String} {cs : List Call} {left : FileTree} {fault : IoFault}
    (h : Unprepared os files log cs left fault) : LogOnly files left := by
  cases h with
  | opening hopen => exact .inl rfl
  | cloning hopen hclone => exact .inr ⟨_, rfl⟩

theorem Prepares.logOnly {command : LaunchCommand} {i : Invocation} {hs : List Happening}
    {cs : List Call} {left : FileTree} (h : Prepares os files command i hs cs left) :
    LogOnly files left := by
  cases h with
  | inherited hlog => exact .inl rfl
  | appended hlog hopen hclone => exact .inr ⟨_, rfl⟩

theorem LogOnly.kept {left : FileTree} (h : LogOnly files left) {place : Location} {entry : Entry}
    (hentry : files.entry? place = some entry) : left.entry? place = some entry := by
  obtain rfl | ⟨log, rfl⟩ := h
  · exact hentry
  · rw [FileTree.entry?_touch, if_neg, hentry]
    rintro ⟨rfl, hnone⟩
    rw [hentry] at hnone
    cases hnone

theorem LogOnly.new {left : FileTree} (h : LogOnly files left) :
    ∃ log : Location, ∀ place, left.entry? place ≠ files.entry? place →
      place = log ∧ left.entry? place = some (.file false .empty) := by
  obtain rfl | ⟨log, rfl⟩ := h
  · exact ⟨[], fun place hne => absurd rfl hne⟩
  · refine ⟨log, fun place hne => ?_⟩
    rw [FileTree.entry?_touch] at hne ⊢
    split at hne
    · next h => exact ⟨h.1, if_pos h⟩
    · exact absurd rfl hne

theorem Prepares.redirecting {command : LaunchCommand} {i : Invocation} {hs : List Happening}
    {cs : List Call} {left : FileTree} (h : Prepares os files command i hs cs left) :
    ∀ happening ∈ hs, ∃ log, happening = .logged (.redirecting log) := by
  cases h with
  | inherited hlog => simp
  | appended hlog hopen hclone => simp

/-- Of a command that has been announced, nothing but its redirection is seen before its child. -/
theorem childless_of_announced {config : LaunchConfig} {command : LaunchCommand}
    {hs : List Happening} (h : Derives os files path config command)
    (hseen : o.happenings = announced path config command ++ hs)
    (hhs : ∀ happening ∈ hs, ∃ log, happening = .logged (.redirecting log))
    (hcalls : ∀ call ∈ o.calls, ∀ i, call.request = .spawn i → call.fault.isSome)
    (haftermath : o.aftermath = []) (hfiles : LogOnly files o.files) :
    Childless os files path o := by
  have hplain : ∀ happening ∈ o.happenings,
      ∃ event : Log.Event, happening = .logged event ∧ ∀ pid, event ≠ .started pid := by
    intro happening hmem
    rw [hseen] at hmem
    rcases List.mem_append.mp hmem with hmem | hmem
    · simp only [announced, remarks, List.cons_append, List.mem_cons, List.mem_append,
        List.mem_map, List.not_mem_nil, or_false] at hmem
      rcases hmem with rfl | ⟨a, -, rfl⟩ | rfl
      all_goals exact ⟨_, rfl, fun pid => by simp⟩
    · obtain ⟨log, rfl⟩ := hhs _ hmem
      exact ⟨_, rfl, fun pid => by simp⟩
  constructor
  case announced => exact ⟨command, h.command?, by simp [hseen, announced]⟩
  case unstarted =>
    intro pid hmem
    obtain ⟨event, heq, hne⟩ := hplain _ hmem
    cases heq
    exact hne pid rfl
  case no_child => exact hcalls
  case no_output =>
    intro stream bytes hmem
    rw [haftermath, List.append_nil] at hmem
    obtain ⟨event, heq, -⟩ := hplain _ hmem
    cases heq
  case kept => exact fun _ _ => hfiles.kept
  case new => exact hfiles.new

/-- No child is asked for before its step. -/
theorem Ends.fault_isSome_of_spawn {e : LaunchError} (h : Ends os files path o)
    (he : o.result = .error e) (hstep : e.step ≤ .handle) :
    ∀ call ∈ o.calls, ∀ i, call.request = .spawn i → call.fault.isSome := by
  intro call hmem i hi
  have hlast := h.ordered.2 call.request.step (List.mem_map_of_mem hmem)
  rw [he, hi] at hlast
  exact absurd (Nat.le_trans hlast hstep) (of_decide_eq_false rfl)

theorem Ends.childless {e : LaunchError} (h : Ends os files path o) (he : o.result = .error e)
    (hlow : .log ≤ e.step) (hhigh : e.step ≤ .spawn) : Childless os files path o := by
  have hcalls := h.fault_isSome_of_spawn he
  cases h with
  | unread | unparsed | incomplete =>
    cases he
    exact absurd hlow (of_decide_eq_false rfl)
  | unprepared h hlog hfault =>
    cases he
    exact childless_of_announced h (List.append_nil _).symm (by simp)
      (hcalls (of_decide_eq_true rfl)) rfl hfault.logOnly
  | unhandled h hi hfault =>
    cases he
    exact childless_of_announced h rfl hi.redirecting (hcalls (of_decide_eq_true rfl)) rfl
      hi.logOnly
  | unspawned h hi hhandlers hspawn =>
    refine childless_of_announced h rfl hi.redirecting ?_ rfl hi.logOnly
    cases hi <;> simp [handled]
  | unawaited =>
    cases he
    exact absurd hhigh (of_decide_eq_false rfl)
  | awaited => cases he

/-- A launch succeeds just if its child has been started and waited for, however it ended. -/
theorem Ends.result_eq_ok (h : Ends os files path o) :
    o.result = .ok () ↔
      ∃ i pid, ⟨.spawn i, none⟩ ∈ o.calls ∧ ⟨.await pid, none⟩ ∈ o.calls := by
  cases h with
  | unread hread => simp
  | unparsed hread hparse => simp
  | incomplete hread hparse hbuild => simp
  | unprepared h hlog hfault => cases hfault <;> simp
  | unhandled h hi hfault => cases hi <;> cases hfault <;> simp
  | unspawned h hi hhandlers hspawn => cases hi <;> simp [handled]
  | unawaited h hi hhandlers hspawn hwait => cases hi <;> simp [handled]
  | awaited h hi hhandlers hspawn hwait => cases hi <;> simp [handled]

/-! ## What later steps would have come to -/

/-- Two systems that give the same answers up to a step. -/
structure AgreeUpTo (s : Step) (a b : Os) : Prop where
  readText : a.readText = b.readText
  openLog : .log ≤ s → a.openLog = b.openLog
  cloneLog : .log ≤ s → a.cloneLog = b.cloneLog
  installHandler : .handle ≤ s → a.installHandler = b.installHandler
  spawn : .spawn ≤ s → a.spawn = b.spawn

variable {a b : Os}

theorem Derives.transport {config : LaunchConfig} {command : LaunchCommand}
    (h : Derives a files path config command) (hread : a.readText = b.readText) :
    Derives b files path config command :=
  ⟨hread ▸ h.read, h.built⟩

theorem Unprepared.transport {log : String} {cs : List Call} {left : FileTree} {fault : IoFault}
    (h : Unprepared a files log cs left fault) (hopens : a.openLog = b.openLog)
    (hclones : a.cloneLog = b.cloneLog) : Unprepared b files log cs left fault := by
  cases h with
  | opening hopen => exact .opening (hopens ▸ hopen)
  | cloning hopen hclone => exact .cloning (hopens ▸ hopen) (hclones ▸ hclone)

theorem Prepares.transport {command : LaunchCommand} {i : Invocation} {hs : List Happening}
    {cs : List Call} {left : FileTree} (h : Prepares a files command i hs cs left)
    (hopens : a.openLog = b.openLog) (hclones : a.cloneLog = b.cloneLog) :
    Prepares b files command i hs cs left := by
  cases h with
  | inherited hlog => exact .inherited hlog
  | appended hlog hopen hclone => exact .appended hlog (hopens ▸ hopen) (hclones ▸ hclone)

theorem Unhandled.transport {handlers : List Call} {fault : IoFault}
    (h : Unhandled a handlers fault) (hinstalls : a.installHandler = b.installHandler) :
    Unhandled b handlers fault := by
  cases h with
  | terminate hterminate => exact .terminate (hinstalls ▸ hterminate)
  | interrupt hterminate hinterrupt =>
    exact .interrupt (hinstalls ▸ hterminate) (hinstalls ▸ hinterrupt)

/-- How a launch fails depends on no answer beyond the failing step. -/
theorem Ends.transport {e : LaunchError} (h : Ends a files path o) (he : o.result = .error e)
    (hab : AgreeUpTo e.step a b) : Ends b files path o := by
  have hread := hab.readText
  cases h with
  | unread hfault => exact .unread (hread ▸ hfault)
  | unparsed htext hparse => exact .unparsed (hread ▸ htext) hparse
  | incomplete htext hparse hbuild => exact .incomplete (hread ▸ htext) hparse hbuild
  | unprepared h hlog hfault =>
    cases he
    have hab : AgreeUpTo .log a b := hab
    exact .unprepared (h.transport hread) hlog
      (hfault.transport (hab.openLog (by decide)) (hab.cloneLog (by decide)))
  | unhandled h hi hfault =>
    cases he
    have hab : AgreeUpTo .handle a b := hab
    exact .unhandled (h.transport hread)
      (hi.transport (hab.openLog (by decide)) (hab.cloneLog (by decide)))
      (hfault.transport (hab.installHandler (by decide)))
  | unspawned h hi hhandlers hspawn =>
    cases he
    have hab : AgreeUpTo .spawn a b := hab
    exact .unspawned (h.transport hread)
      (hi.transport (hab.openLog (by decide)) (hab.cloneLog (by decide)))
      (hab.installHandler (by decide) ▸ hhandlers) (hab.spawn (by decide) ▸ hspawn)
  | unawaited h hi hhandlers hspawn hwait =>
    cases he
    have hab : AgreeUpTo .wait a b := hab
    exact .unawaited (h.transport hread)
      (hi.transport (hab.openLog (by decide)) (hab.cloneLog (by decide)))
      (hab.installHandler (by decide) ▸ hhandlers) (hab.spawn (by decide) ▸ hspawn) hwait
  | awaited => cases he

/--
**The first failing step decides.** Of all the steps that are bound to fail the first one gives the
failure of the launch. No later step is taken, nor does it matter what it would have come to: up to
the check of the configuration nothing but its text has been read; from then on to the start of the
child the command has been announced, and an empty log file is all that may be new. A launch in
which no step fails succeeds, and these are the launches that have started a child and waited for
it. The exit status of a run tells the two apart.
-/
theorem launch_stops_at_first_failure (os : Os) (files : FileTree) (path : String) :
    let o := launch os files path
    (∀ s e, firstFailure? os files path = some (s, e) →
      o.result = .error e ∧
      Ordered (o.calls.map (·.request.step)) s ∧
      (∀ os', AgreeUpTo s os os' → launch os' files path = o) ∧
      (s ≤ .require → OnlyRead files path o) ∧
      (.log ≤ s → s ≤ .spawn → Childless os files path o)) ∧
    (firstFailure? os files path = none → o.result = .ok ()) ∧
    (o.result = .ok () ↔
      ∃ i pid, ⟨.spawn i, none⟩ ∈ o.calls ∧ ⟨.await pid, none⟩ ∈ o.calls) ∧
    ∀ setting pidText program args, CommandLine.parse args = .ok path →
      let session := Session.run os files setting pidText program args
      session.files = o.files ∧ (session.exitStatus = 0 ↔ o.result = .ok ()) ∧
        (o.result ≠ .ok () → session.exitStatus = 255) := by
  intro o
  have hends : Ends os files path o := ends_iff.mpr rfl
  have hfirst := hends.firstFailure?
  refine ⟨?failing, ?succeeding, hends.result_eq_ok, ?status⟩
  case failing =>
    intro s e hs
    cases hresult : o.result with
    | ok _ =>
      rw [hresult, hs] at hfirst
      cases hfirst
    | error e' =>
      rw [hresult, hs] at hfirst
      cases hfirst
      have hordered := hends.ordered
      rw [hresult] at hordered
      exact ⟨rfl, hordered, fun os' hab => (ends_iff.mp (hends.transport hresult hab)).symm,
        hends.onlyRead hresult, hends.childless hresult⟩
  case succeeding =>
    intro hnone
    cases hresult : o.result with
    | ok _ => rfl
    | error e =>
      rw [hresult, hnone] at hfirst
      cases hfirst
  case status =>
    intro setting pidText program args hparse session
    have hsession : session = Session.launched (.ofSetting setting) pidText o := by
      simp only [session, Session.run, hparse, o]
    have hfiles : session.files = o.files := by rw [hsession]; rfl
    have hstatus : session.exitStatus = o.exitStatus := by rw [hsession]; rfl
    rw [hstatus, Outcome.exitStatus]
    cases hresult : o.result with
    | ok _ => exact ⟨hfiles, by simp, fun hne => absurd rfl hne⟩
    | error e => exact ⟨hfiles, by simp [LaunchError.exitStatus], fun _ => rfl⟩

/-- A system that gives nothing but the text of the configuration. -/
def refusing (text : String) : Os where
  readText _ _ := .ok text
  openLog _ _ := .error (.os .accessDenied)
  cloneLog _ := .error (.os .accessDenied)
  installHandler _ := .error (.os .accessDenied)
  spawn _ _ := .error (.os .accessDenied)

/-- The log file comes before the handlers and the child, which would fail as well. -/
example :
    firstFailure? (refusing "device: d\nmqtt: {}\nareas: []\nlog_file: l\n") ⟨[]⟩ "c" =
      some (.log, .logFile "l" (.os .accessDenied)) := by
  decide +kernel

end Launch

end PanelLauncher
