import PanelLauncher.Proofs.Relay.Target

/-!
# What the launcher asks for in a run

The launcher asks the system to install a handler, to start the child and to wait for it; all else
in a run comes from outside or is done with what it has. `Accounts` says that what it has asked for,
and in which order, can be told from the state it has come to: handlers, a child, then the wait.
-/

namespace PanelLauncher.Relay

/-! ## The calls so far -/

/-- Whether the launcher asks the system for a move. -/
def Move.isCall : Move → Bool
  | install => true
  | spawn _ => true
  | await _ => true
  | _ => false

/-- How the handlers have been installed. -/
def Handlers.moves : Handlers → List Move
  | absent => []
  | terminateOnly => [.install]
  | both => [.install, .install]

theorem Handlers.moves_of_next? {handlers next : Handlers} (h : handlers.next? = some next) :
    next.moves = handlers.moves ++ [.install] := by
  cases handlers <;> cases h <;> rfl

/-- How waiting for the child came to its end. -/
def Phase.awaits : Phase → List Move
  | awaited _ fault => [.await fault]
  | _ => []

/-- The calls of a run can be told from where it has come to. -/
structure Accounts (moves : List Move) (l : Loop) : Prop where
  calls : moves.filter Move.isCall =
    l.relay.handlers.moves ++ (children moves).map .spawn ++ l.relay.phase.awaits
  handlers : children moves ≠ [] → l.relay.handlers = .both
  absent : l.relay.phase = .absent → children moves = []

theorem accounts_init : Accounts [] .init :=
  ⟨rfl, fun h => absurd rfl h, fun _ => rfl⟩

/-- A move that is no call, and leaves the handlers and the calls for the child as they are. -/
theorem Accounts.silent {moves : List Move} {l m : Loop} {move : Move} (h : Accounts moves l)
    (hcall : move.isCall = false) (hhandlers : m.relay.handlers = l.relay.handlers)
    (hawaits : m.relay.phase.awaits = l.relay.phase.awaits)
    (habsent : m.relay.phase = .absent → l.relay.phase = .absent) :
    Accounts (moves ++ [move]) m := by
  have hspawn : move.spawned? = none := by
    cases move with
    | spawn _ => cases hcall
    | _ => rfl
  have hchildren : children (moves ++ [move]) = children moves := children_concat_of_none hspawn
  refine ⟨?_, ?_, ?_⟩
  · rw [hchildren, hhandlers, hawaits, ← h.calls]
    simp [hcall]
  · rw [hchildren, hhandlers]
    exact h.handlers
  · rw [hchildren]
    exact fun hphase => h.absent (habsent hphase)

theorem Accounts.moves {moves : List Move} {l m : Loop} {move : Move} (h : Accounts moves l)
    (hattends : Attends moves l) (hmoves : l.Moves move m) : Accounts (moves ++ [move]) m := by
  have htells := hattends.tells
  cases hmoves with
  | @install handlers hposition hnext =>
    rw [hposition] at htells
    obtain ⟨hphase, hnone⟩ := htells
    have hchildren : children (moves ++ [.install]) = [] := by
      rw [children_concat_of_none rfl, hnone]
    refine ⟨?_, fun hne => absurd hchildren hne, fun _ => hchildren⟩
    rw [hchildren, List.filter_append, h.calls, hnone, hphase, Handlers.moves_of_next? hnext]
    simp [Phase.awaits, Move.isCall]
  | deliver hcatches => exact h.silent rfl (by simp) (by simp) (by simp)
  | @spawn pid hposition hhandlers =>
    rw [hposition] at htells
    obtain ⟨hphase, hnone⟩ := htells
    have hchildren : children (moves ++ [.spawn pid]) = [pid] := by
      rw [children_concat, hnone]
      rfl
    refine ⟨?_, fun _ => hhandlers, fun habsent => nomatch habsent⟩
    rw [hchildren, List.filter_append, h.calls, hnone, hphase]
    simp [Phase.awaits, Move.isCall]
  | fail hposition => exact h.silent rfl rfl rfl id
  | exit hphase => exact h.silent rfl rfl (by rw [hphase]; rfl) (fun habsent => nomatch habsent)
  | take hposition hpending => exact h.silent rfl (by simp) (by simp) (by simp)
  | forward hposition => exact h.silent rfl rfl rfl id
  | @await pid status fault hposition hphase =>
    have hchildren : children (moves ++ [.await fault]) = children moves :=
      children_concat_of_none rfl
    refine ⟨?_, by rw [hchildren]; exact h.handlers, fun habsent => nomatch habsent⟩
    rw [hchildren, List.filter_append, h.calls, hphase]
    simp [Phase.awaits, Move.isCall]

theorem Accounts.run {done : List Move} {l m : Loop} {moves : List Move} (h : Accounts done l)
    (hattends : Attends done l) (hrun : l.run? moves = some m) : Accounts (done ++ moves) m := by
  induction moves generalizing done l with
  | nil =>
    cases hrun
    rwa [List.append_nil]
  | cons move moves ih =>
    obtain ⟨n, hstep, hrest⟩ := Loop.run?_cons hrun
    have hmoves := Loop.moves_of_step? hstep
    have hn := ih (h.moves hattends hmoves) (hattends.moves hmoves) hrest
    rwa [List.append_assoc, List.singleton_append] at hn

/-! ## Whole runs -/

/-- How waiting for the child ended, once it has. -/
def Phase.outcome? : Phase → Option (Except IoFault ExitStatus)
  | awaited status none => some (.ok status)
  | awaited _ (some fault) => some (.error fault)
  | _ => none

/-- Once the child has been waited for, there is nothing left to do. -/
theorem Position.Tells.eq_done {position : Position} {status : ExitStatus} {fault : Option IoFault}
    {pids : List Nat} (h : position.Tells (.awaited status fault) pids) : position = .done := by
  cases position with
  | preparing => cases h.1
  | waiting =>
    obtain ⟨_, hpid, -⟩ := h
    cases hpid
  | holding signal =>
    obtain ⟨_, hpid, -⟩ := h
    cases hpid
  | done => rfl

section Run

variable {moves : List Move} {l : Loop} (h : Loop.init.run? moves = some l)

include h

theorem accounts_of_run : Accounts moves l :=
  accounts_init.run attends_init h

/-- The calls of a run that has come to the end of waiting for its child. -/
theorem calls_of_awaited {pid : Nat} {status : ExitStatus} {fault : Option IoFault}
    (hspawn : .spawn pid ∈ moves) (hphase : l.relay.phase = .awaited status fault) :
    moves.filter Move.isCall = [.install, .install, .spawn pid, .await fault] := by
  have hchildren := (attends_of_run h).children_eq (mem_children.mpr hspawn)
  have haccounts := accounts_of_run h
  have hboth := haccounts.handlers (by simp [hchildren])
  rw [haccounts.calls, hchildren, hboth, hphase]
  rfl

/-- A finished run in which there was a child has come to the end of waiting for it. -/
theorem awaited_of_done {pid : Nat} (hspawn : .spawn pid ∈ moves) (hdone : l.position = .done) :
    ∃ status fault, l.relay.phase = .awaited status fault := by
  have htells := (attends_of_run h).tells
  rw [hdone] at htells
  have habsent := (accounts_of_run h).absent
  cases hphase : l.relay.phase with
  | absent =>
    have hmem := mem_children.mpr hspawn
    simp [habsent hphase] at hmem
  | running pid =>
    rw [hphase] at htells
    cases htells.1
  | exited pid status =>
    rw [hphase] at htells
    cases htells.1
  | awaited status fault => exact ⟨status, fault, rfl⟩

theorem done_of_awaited {status : ExitStatus} {fault : Option IoFault}
    (hphase : l.relay.phase = .awaited status fault) : l.position = .done := by
  have htells := (attends_of_run h).tells
  rw [hphase] at htells
  exact htells.eq_done

/-- A run that has come to its end is a run of the relay, with nothing left under way. -/
theorem run?_actions_of_done (hdone : l.position = .done) :
    State.init.run? (actions moves) = some l.relay := by
  rw [← Loop.settled_of_ne (l := l) (by simp [hdone]) none]
  exact run?_actions attends_init h

/-- What a run logs, from the signals alone. -/
theorem events_of_spawn {pid : Nat} (hspawn : .spawn pid ∈ moves) :
    l.relay.events = (l.relay.passes.reverse.map fun p => (p.signal, p.fault)).flatMap
      fun p => Log.passEvents (.of (.running pid) p.1 p.2) := by
  rw [State.events, List.flatMap_map, List.flatMap_def, List.flatMap_def]
  refine congrArg List.flatten (List.map_congr_left fun p hp => ?_)
  exact congrArg Log.passEvents (pass_eq_of_spawn h hspawn (List.mem_reverse.mp hp))

end Run

end PanelLauncher.Relay
