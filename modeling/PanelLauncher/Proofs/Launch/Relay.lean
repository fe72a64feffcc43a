import PanelLauncher.Proofs.Launch.Ending
import PanelLauncher.Proofs.Relay.Calls

/-!
# A launch as a run of the relay

A launch is told what becomes of its child, and the relay says what can become of one. A child
`Follows` a run if it reports the passes of the run and ends as the run does. Every child follows
some run (`Process.exists_follows`), and every finished run with a child is followed by one
(`exists_process`). The launch of a child that follows a run makes the calls of the run in their
order and logs what the run logs (`Launch.enacts_of_follows`). So every launch is a run of the
relay, also one that fails before there is a child (`Launch.exists_enacts`).
-/

namespace PanelLauncher

open Relay

/-! ## Children and runs -/

/-- The signal that a moment passes on, and the fault that this meets. -/
def Moment.passed? : Moment → Option (Signal × Option KillFault)
  | passed signal fault => some (signal, fault)
  | _ => none

/-- What a child reports is what happens in a run. -/
structure Process.Follows (process : Process) (moves : List Move) (l : Loop) : Prop where
  isRun : Loop.init.run? moves = some l
  spawn_mem : .spawn process.pid ∈ moves
  passes : process.moments.filterMap Moment.passed? =
    l.relay.passes.reverse.map fun p => (p.signal, p.fault)
  outcome : l.relay.phase.outcome? = some process.outcome

/-- A finished run with a child is followed by one. -/
theorem exists_process {moves : List Move} {l : Loop} {pid : Nat}
    (h : Loop.init.run? moves = some l) (hspawn : .spawn pid ∈ moves)
    (hdone : l.position = .done) : ∃ process : Process, process.pid = pid ∧
      process.Follows moves l := by
  obtain ⟨status, fault, hphase⟩ := awaited_of_done h hspawn hdone
  have hpasses : (l.relay.passes.reverse.map fun p => Moment.passed p.signal p.fault).filterMap
      Moment.passed? = l.relay.passes.reverse.map fun p => (p.signal, p.fault) := by
    rw [List.filterMap_map, ← List.filterMap_eq_map]
    rfl
  cases fault with
  | none =>
    exact ⟨⟨pid, _, .ok status, []⟩, rfl, h, hspawn, hpasses, by rw [hphase]; rfl⟩
  | some fault =>
    exact ⟨⟨pid, _, .error fault, []⟩, rfl, h, hspawn, hpasses, by rw [hphase]; rfl⟩

/-- A signal comes in and is passed on at once. -/
def passing (p : Signal × Option KillFault) : List Move :=
  [.deliver p.1, .take p.1, .forward p.2]

/-- The launcher waits, and nothing is pending. -/
def Relay.Loop.idle (pid : Nat) (passes : List Pass) : Loop :=
  ⟨.waiting, { State.started pid with passes := passes }⟩

theorem run?_passing (pid : Nat) (passes : List Pass) (rest : List Move)
    (ps : List (Signal × Option KillFault)) :
    (Loop.idle pid passes).run? (ps.flatMap passing ++ rest) =
      (Loop.idle pid ((ps.map fun p => .of (.running pid) p.1 p.2).reverse ++ passes)).run?
        rest := by
  induction ps generalizing passes with
  | nil => rfl
  | cons p ps ih =>
    have hone (more : List Move) : (Loop.idle pid passes).run? (passing p ++ more) =
        (Loop.idle pid (.of (.running pid) p.1 p.2 :: passes)).run? more := by
      obtain ⟨signal, fault⟩ := p
      cases signal <;> rfl
    rw [List.flatMap_cons, List.append_assoc, hone, ih]
    simp

/-- Every child follows a run: one in which each signal is passed on as soon as it has come in. -/
theorem Process.exists_follows (process : Process) : ∃ moves l, process.Follows moves l := by
  obtain ⟨pid, moments, outcome, aftermath⟩ := process
  let ps := moments.filterMap Moment.passed?
  let passes := (ps.map fun p => Pass.of (.running pid) p.1 p.2).reverse
  have hpasses : ps = passes.reverse.map fun p => (p.signal, p.fault) := by
    rw [List.reverse_reverse, List.map_map]
    exact (List.map_id ps).symm
  let before : List Move := [.install, .install, .spawn pid] ++ ps.flatMap passing
  have hrun (status : ExitStatus) (fault : Option IoFault) :
      Loop.init.run? (before ++ [.exit status, .await fault]) =
        some ⟨.done, ⟨.both, false, false, .awaited status fault, passes⟩⟩ := by
    have hstart : Loop.init.run? (before ++ [.exit status, .await fault]) =
        (Loop.idle pid []).run? (ps.flatMap passing ++ [.exit status, .await fault]) := rfl
    rw [hstart, run?_passing, List.append_nil]
    rfl
  cases outcome with
  | ok status => exact ⟨_, _, hrun status none, by simp [before], hpasses, rfl⟩
  | error fault => exact ⟨_, _, hrun (.code 0) (some fault), by simp [before], hpasses, rfl⟩

/-! ## Launches and runs -/

/-- What a call of a launch whose child has a number is for the relay. -/
def Call.move? (pid : Nat) : Call → Option Move
  | ⟨.installHandler _, none⟩ => some .install
  | ⟨.spawn _, none⟩ => some (.spawn pid)
  | ⟨.await child, fault⟩ => if child = pid then some (.await fault) else none
  | _ => none

/-- What is logged of the child: its start, the signals for it and its end. -/
def Happening.ofChild? : Happening → Option Log.Event
  | .logged (.started pid) => some (.started pid)
  | .logged (.exited status) => some (.exited status)
  | .logged event => if event.target = .signals then some event else none
  | .output _ _ => none

/-- What is logged when waiting for the child has come to its end. -/
def Relay.Phase.farewell : Phase → List Log.Event
  | awaited status none => [.exited status]
  | _ => []

namespace Launch

/-- A launch, and a run of the relay that it is. -/
structure Enacts (o : Outcome Unit) (pid : Nat) (moves : List Move) (l : Loop) : Prop where
  isRun : Loop.init.run? moves = some l
  isOver : l.position = .done
  isRelay : State.init.run? (actions moves) = some l.relay
  /-- The calls that succeeded, and waiting however it ended. -/
  calls : o.calls.filterMap (Call.move? pid) = moves.filter Move.isCall
  handlers : ∀ signal, ⟨.installHandler signal, none⟩ ∈ o.calls ↔
    l.relay.handlers.catches signal = true
  events : o.happenings.filterMap Happening.ofChild? =
    (children moves).map .started ++ l.relay.events ++ l.relay.phase.farewell
  ok_iff : o.result = .ok () ↔ ∃ status, l.relay.phase = .awaited status none
  wait_iff : ∀ fault, o.result = .error (.wait fault) ↔
    ∃ status, l.relay.phase = .awaited status (some fault)

/-! ### What is no part of the run -/

theorem remarks_ofChild (config : LaunchConfig) :
    (remarks config).filterMap Happening.ofChild? = [] := by
  refine List.filterMap_eq_nil_iff.mpr fun happening hmem => ?_
  obtain ⟨a, -, rfl⟩ := List.mem_map.mp hmem
  rfl

theorem announced_ofChild (path : String) (config : LaunchConfig) (command : LaunchCommand) :
    (announced path config command).filterMap Happening.ofChild? = [] := by
  simp [announced, remarks_ofChild, Happening.ofChild?, Log.Event.target]

variable {os : Os} {files left : FileTree} {path : String} {config : LaunchConfig}
  {command : LaunchCommand} {i : Invocation} {hs : List Happening} {cs : List Call}

theorem Prepares.ofChild (hi : Prepares os files command i hs cs left) :
    hs.filterMap Happening.ofChild? = [] := by
  cases hi <;> rfl

theorem Prepares.moves (hi : Prepares os files command i hs cs left) (pid : Nat) :
    cs.filterMap (Call.move? pid) = [] := by
  cases hi <;> rfl

theorem Prepares.handler_not_mem (hi : Prepares os files command i hs cs left) (signal : Signal)
    (fault : Option IoFault) : ⟨.installHandler signal, fault⟩ ∉ cs := by
  cases hi <;> simp

theorem Unprepared.moves {log : String} {fault : IoFault}
    (h : Unprepared os files log cs left fault) (pid : Nat) :
    cs.filterMap (Call.move? pid) = [] := by
  cases h <;> rfl

theorem Unprepared.handler_not_mem {log : String} {fault : IoFault}
    (h : Unprepared os files log cs left fault) (signal : Signal) (other : Option IoFault) :
    ⟨.installHandler signal, other⟩ ∉ cs := by
  cases h <;> simp

/-- Nothing is said of a child before it is started. -/
theorem Prepares.announced_ofChild (hi : Prepares os files command i hs cs left) :
    (announced path config command ++ hs).filterMap Happening.ofChild? = [] := by
  rw [List.filterMap_append, Launch.announced_ofChild, hi.ofChild]
  rfl

/-- The handlers that are there when one could not be installed. -/
theorem Unhandled.exists_handlers {calls : List Call} {fault : IoFault}
    (h : Unhandled os calls fault) (pid : Nat) : ∃ handlers : Handlers,
      calls.filterMap (Call.move? pid) = handlers.moves ∧
      ∀ signal, ⟨.installHandler signal, none⟩ ∈ calls ↔ handlers.catches signal = true := by
  cases h with
  | terminate hterminate => exact ⟨.absent, rfl, by simp [Handlers.catches]⟩
  | interrupt hterminate hinterrupt => exact ⟨.terminateOnly, rfl, by simp [Handlers.catches]⟩

/-! ### The child's part -/

theorem passEvents_ofChild (p : Pass) :
    ((Log.passEvents p).map Happening.logged).filterMap Happening.ofChild? = Log.passEvents p := by
  obtain ⟨signal, forwarding, fault⟩ := p
  cases forwarding <;> cases fault <;> rfl

theorem seen_ofChild (i : Invocation) (pid : Nat) (moments : List Moment) :
    (moments.flatMap (seen i pid)).filterMap Happening.ofChild? =
      (moments.filterMap Moment.passed?).flatMap fun p =>
        Log.passEvents (.of (.running pid) p.1 p.2) := by
  induction moments with
  | nil => rfl
  | cons moment moments ih =>
    rw [List.flatMap_cons, List.filterMap_append, ih]
    cases moment with
    | wrote stream bytes =>
      have hseen : (seen i pid (.wrote stream bytes)).filterMap Happening.ofChild? = [] := by
        simp only [seen]
        split <;> rfl
      rw [hseen]
      rfl
    | printed stream bytes => rfl
    | passed signal fault =>
      rw [seen, passEvents_ofChild]
      rfl
    | changed files => rfl

/-- What a launch logs of a child that follows a run is what the run logs. -/
theorem attended_ofChild {process : Process} {moves : List Move} {l : Loop}
    (h : process.Follows moves l) (i : Invocation) :
    (attended i process).filterMap Happening.ofChild? =
      .started process.pid :: l.relay.events := by
  rw [attended, events_of_spawn h.isRun h.spawn_mem, ← h.passes, ← seen_ofChild i]
  rfl

/-! ### Every launch is a run -/

/-- A launch that comes to the end of waiting for its child. -/
theorem enacts_of_awaited {process : Process} {moves : List Move} {l : Loop} {status : ExitStatus}
    {fault : Option IoFault} {o : Outcome Unit} (h : process.Follows moves l)
    (hphase : l.relay.phase = .awaited status fault) (hi : Prepares os files command i hs cs left)
    (hcalls : o.calls = ⟨.readText path, none⟩ :: cs ++ handled ++
      [⟨.spawn i, none⟩, ⟨.await process.pid, fault⟩])
    (hseen : o.happenings = announced path config command ++ hs ++ attended i process ++
      l.relay.phase.farewell.map .logged)
    (hok : o.result = .ok () ↔ fault = none)
    (hwait : ∀ other, o.result = .error (.wait other) ↔ fault = some other) :
    Enacts o process.pid moves l := by
  have hdone := done_of_awaited h.isRun hphase
  have hchildren := (attends_of_run h.isRun).children_eq (mem_children.mpr h.spawn_mem)
  constructor
  case isRun => exact h.isRun
  case isOver => exact hdone
  case isRelay => exact run?_actions_of_done h.isRun hdone
  case calls =>
    rw [calls_of_awaited h.isRun h.spawn_mem hphase, hcalls]
    simp [List.filterMap_cons, hi.moves, handled, Call.move?]
  case handlers =>
    intro signal
    rw [hcalls, (accounts_of_run h.isRun).handlers (by simp [hchildren])]
    cases signal <;> simp [handled, hi.handler_not_mem, Handlers.catches]
  case events =>
    have hfarewell : (l.relay.phase.farewell.map Happening.logged).filterMap Happening.ofChild? =
        l.relay.phase.farewell := by
      rw [hphase]
      cases fault <;> rfl
    rw [hseen, hchildren, List.filterMap_append, List.filterMap_append, hi.announced_ofChild,
      attended_ofChild h, hfarewell]
    rfl
  case ok_iff =>
    rw [hok, hphase]
    simp
  case wait_iff =>
    intro other
    rw [hwait, hphase]
    simp

/-- The launch of a child that follows a run is that run. -/
theorem enacts_of_follows {process : Process} {moves : List Move} {l : Loop}
    (hd : Derives os files path config command) (hi : Prepares os files command i hs cs left)
    (hhandlers : ∀ signal, os.installHandler signal = .ok ())
    (hspawn : os.spawn left i = .ok process) (h : process.Follows moves l) :
    Enacts (launch os files path) process.pid moves l := by
  have houtcome := h.outcome
  cases hphase : l.relay.phase with
  | awaited status fault =>
    rw [hphase] at houtcome
    cases fault with
    | none =>
      have hwaited : process.outcome = .ok status := (Option.some.inj houtcome).symm
      rw [← (Ends.awaited hd hi hhandlers hspawn hwaited).eq_launch]
      exact enacts_of_awaited h hphase hi rfl (by rw [hphase]; rfl) (by simp) (by simp)
    | some fault =>
      have hwaited : process.outcome = .error fault := (Option.some.inj houtcome).symm
      rw [← (Ends.unawaited hd hi hhandlers hspawn hwaited).eq_launch]
      exact enacts_of_awaited h hphase hi rfl (by rw [hphase]; exact (List.append_nil _).symm)
        (by simp) (by simp)
  | _ =>
    rw [hphase] at houtcome
    cases houtcome

/-- A launch that fails before there is a child. -/
theorem enacts_of_childless {o : Outcome Unit} {e : LaunchError} (handlers : Handlers)
    (hresult : o.result = .error e) (hwait : ∀ fault, e ≠ .wait fault)
    (hcalls : o.calls.filterMap (Call.move? 0) = handlers.moves)
    (hhandlers : ∀ signal, ⟨.installHandler signal, none⟩ ∈ o.calls ↔
      handlers.catches signal = true)
    (hevents : o.happenings.filterMap Happening.ofChild? = []) :
    Enacts o 0 (handlers.moves ++ [.fail])
      ⟨.done, { State.init with handlers := handlers }⟩ where
  isRun := by cases handlers <;> rfl
  isOver := rfl
  isRelay := by cases handlers <;> rfl
  calls := by
    rw [hcalls]
    cases handlers <;> rfl
  handlers := hhandlers
  events := by
    rw [hevents]
    cases handlers <;> rfl
  ok_iff := by simp [hresult, State.init]
  wait_iff := by simp [hresult, hwait, State.init]

/-- Every launch is a run of the relay. -/
theorem exists_enacts (os : Os) (files : FileTree) (path : String) :
    ∃ pid moves l, Enacts (launch os files path) pid moves l := by
  obtain ⟨o, h⟩ := exists_ends os files path
  rw [← h.eq_launch]
  cases h with
  | unread hread =>
    exact ⟨_, _, _, enacts_of_childless .absent rfl (by simp) rfl (by simp [Handlers.catches]) rfl⟩
  | unparsed hread hparse =>
    exact ⟨_, _, _, enacts_of_childless .absent rfl (by simp) rfl (by simp [Handlers.catches]) rfl⟩
  | incomplete hread hparse hbuild =>
    exact ⟨_, _, _, enacts_of_childless .absent rfl (by simp) rfl (by simp [Handlers.catches])
      (remarks_ofChild _)⟩
  | unprepared hd hlog hfault =>
    exact ⟨_, _, _, enacts_of_childless .absent rfl (by simp) (hfault.moves 0)
      (by simp [hfault.handler_not_mem, Handlers.catches]) (announced_ofChild _ _ _)⟩
  | unhandled hd hi hfault =>
    obtain ⟨handlers, hmoves, hcatches⟩ := hfault.exists_handlers 0
    refine ⟨_, _, _, enacts_of_childless handlers rfl (by simp) ?_ (fun signal => ?_)
      hi.announced_ofChild⟩
    · simp [List.filterMap_cons, hi.moves, hmoves, Call.move?]
    · simp [hi.handler_not_mem, hcatches]
  | unspawned hd hi hhandlers hspawn =>
    refine ⟨_, _, _, enacts_of_childless .both rfl (by simp) ?_ (fun signal => ?_)
      hi.announced_ofChild⟩
    · simp [List.filterMap_cons, hi.moves, handled, Call.move?, Handlers.moves]
    · cases signal <;> simp [handled, hi.handler_not_mem, Handlers.catches]
  | @unawaited config command i hs cs left process fault hd hi hhandlers hspawn hwait =>
    obtain ⟨moves, l, hfollows⟩ := process.exists_follows
    rw [(Ends.unawaited hd hi hhandlers hspawn hwait).eq_launch]
    exact ⟨_, moves, l, enacts_of_follows hd hi hhandlers hspawn hfollows⟩
  | @awaited config command i hs cs left process status hd hi hhandlers hspawn hwait =>
    obtain ⟨moves, l, hfollows⟩ := process.exists_follows
    rw [(Ends.awaited hd hi hhandlers hspawn hwait).eq_launch]
    exact ⟨_, moves, l, enacts_of_follows hd hi hhandlers hspawn hfollows⟩

/-- No finished run with a child is left out: the system can answer a launch that comes to its child
so that the launch is that run. -/
theorem exists_launch_enacts {pid : Nat} {moves : List Move} {l : Loop}
    (hrun : Loop.init.run? moves = some l) (hchild : .spawn pid ∈ moves)
    (hdone : l.position = .done) (hd : Derives os files path config command)
    (hi : Prepares os files command i hs cs left)
    (hhandlers : ∀ signal, os.installHandler signal = .ok ()) :
    ∃ spawn, Enacts (launch { os with spawn := spawn } files path) pid moves l := by
  obtain ⟨process, rfl, hfollows⟩ := exists_process hrun hchild hdone
  have hd' : Derives { os with spawn := fun _ _ => .ok process } files path config command :=
    ⟨hd.read, hd.built⟩
  have hi' : Prepares { os with spawn := fun _ _ => .ok process } files command i hs cs left := by
    cases hi with
    | inherited hlog => exact .inherited hlog
    | appended hlog hopen hclone => exact .appended hlog hopen hclone
  exact ⟨_, enacts_of_follows hd' hi' hhandlers rfl hfollows⟩

end Launch

end PanelLauncher
