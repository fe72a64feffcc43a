import PanelLauncher.Proofs.Relay.Run
import PanelLauncher.Relay.Loop

/-!
# Where the launcher stands, and what has become of the child

`Moves` says once what a move needs and does. `Attends` ties the launcher's position to the child:
while it waits or holds a notification, the child has been started and not been waited for. With
each pass taken as one, a run in the launcher's own steps is a run of the relay (`run?_actions`).
-/

namespace PanelLauncher.Relay

namespace Loop

/-! ## One move -/

/-- What a move needs, and what it does. -/
inductive Moves (l : Loop) : Move → Loop → Prop
  | install {handlers : Handlers} (hposition : l.position = .preparing)
      (hnext : l.relay.handlers.next? = some handlers) :
      Moves l .install { l with relay.handlers := handlers }
  | deliver {signal : Signal} (hcatches : l.relay.handlers.catches signal = true) :
      Moves l (.deliver signal) { l with relay := l.relay.setPending signal true }
  | spawn {pid : Nat} (hposition : l.position = .preparing)
      (hhandlers : l.relay.handlers = .both) :
      Moves l (.spawn pid) ⟨.waiting, { l.relay with phase := .running pid }⟩
  | fail (hposition : l.position = .preparing) : Moves l .fail { l with position := .done }
  | exit {pid : Nat} {status : ExitStatus} (hphase : l.relay.phase = .running pid) :
      Moves l (.exit status) { l with relay.phase := .exited pid status }
  | take {signal : Signal} (hposition : l.position = .waiting)
      (hpending : l.relay.isPending signal = true) :
      Moves l (.take signal) ⟨.holding signal, l.relay.setPending signal false⟩
  | forward {signal : Signal} {fault : Option KillFault}
      (hposition : l.position = .holding signal) :
      Moves l (.forward fault) ⟨.waiting, { l.relay with
        passes := .of l.relay.phase signal fault :: l.relay.passes }⟩
  | await {pid : Nat} {status : ExitStatus} {fault : Option IoFault}
      (hposition : l.position = .waiting) (hphase : l.relay.phase = .exited pid status) :
      Moves l (.await fault) ⟨.done, { l.relay with phase := .awaited status fault }⟩

theorem moves_of_step? {l m : Loop} {move : Move} (h : l.step? move = some m) :
    Moves l move m := by
  unfold step? at h
  cases move with
  | install =>
    simp only [Option.ite_none_right_eq_some, Option.map_eq_some_iff] at h
    obtain ⟨hposition, handlers, hnext, rfl⟩ := h
    exact .install hposition hnext
  | deliver signal =>
    simp only [Option.ite_none_right_eq_some, Option.some.injEq] at h
    obtain ⟨hcatches, rfl⟩ := h
    exact .deliver hcatches
  | spawn pid =>
    simp only [Option.ite_none_right_eq_some, Option.some.injEq] at h
    obtain ⟨⟨hposition, hhandlers⟩, rfl⟩ := h
    exact .spawn hposition hhandlers
  | fail =>
    simp only [Option.ite_none_right_eq_some, Option.some.injEq] at h
    obtain ⟨hposition, rfl⟩ := h
    exact .fail hposition
  | exit status =>
    simp only at h
    split at h
    · next hphase =>
      cases h
      exact .exit hphase
    · cases h
  | take signal =>
    simp only [Option.ite_none_right_eq_some, Option.some.injEq] at h
    obtain ⟨⟨hposition, hpending⟩, rfl⟩ := h
    exact .take hposition hpending
  | forward fault =>
    simp only at h
    split at h
    · next hposition =>
      cases h
      exact .forward hposition
    · cases h
  | await fault =>
    simp only at h
    split at h
    · next hposition hphase =>
      cases h
      exact .await hposition hphase
    · cases h

theorem run?_cons {l n : Loop} {move : Move} {moves : List Move}
    (h : l.run? (move :: moves) = some n) :
    ∃ m, l.step? move = some m ∧ m.run? moves = some n := by
  rw [run?, List.foldlM_cons] at h
  exact Option.bind_eq_some_iff.mp h

theorem run?_append {l n : Loop} {before after : List Move}
    (h : l.run? (before ++ after) = some n) :
    ∃ m, l.run? before = some m ∧ m.run? after = some n := by
  rw [run?, List.foldlM_append] at h
  exact Option.bind_eq_some_iff.mp h

end Loop

/-! ## The child, from where the launcher stands -/

/-- The child that a move starts. -/
def Move.spawned? : Move → Option Nat
  | spawn pid => some pid
  | _ => none

/-- The children that have been started. -/
def children (moves : List Move) : List Nat :=
  moves.filterMap Move.spawned?

theorem mem_children {moves : List Move} {pid : Nat} :
    pid ∈ children moves ↔ .spawn pid ∈ moves := by
  simp only [children, List.mem_filterMap]
  constructor
  · rintro ⟨move, hmem, hpid⟩
    cases move with
    | spawn _ => cases hpid; exact hmem
    | _ => cases hpid
  · exact fun h => ⟨_, h, rfl⟩

theorem children_concat (moves : List Move) (move : Move) :
    children (moves ++ [move]) = children moves ++ move.spawned?.toList := by
  rw [children, List.filterMap_append, List.filterMap_cons, List.filterMap_nil]
  cases move.spawned? <;> rfl

theorem children_concat_of_none {moves : List Move} {move : Move} (h : move.spawned? = none) :
    children (moves ++ [move]) = children moves := by
  rw [children_concat, h]
  exact List.append_nil _

/-- What a position tells of the child, and of the children started so far. -/
def Position.Tells : Position → Phase → List Nat → Prop
  | preparing, phase, pids => phase = .absent ∧ pids = []
  | waiting, phase, pids => ∃ pid, phase.pid? = some pid ∧ pids = [pid]
  | holding _, phase, pids => ∃ pid, phase.pid? = some pid ∧ pids = [pid]
  | done, phase, pids => phase.pid? = none ∧ pids.length ≤ 1

/-- What ties the launcher to its child when moves have led to a state. -/
structure Attends (moves : List Move) (l : Loop) : Prop where
  tells : l.position.Tells l.relay.phase (children moves)
  /-- Once waiting is over, the launcher is done. -/
  awaited : ∀ fault, .await fault ∈ moves → l.position = .done
  /-- Each pass has found the child as one that runs. -/
  passes : ∀ p ∈ l.relay.passes, ∃ pid ∈ children moves, p = .of (.running pid) p.signal p.fault

theorem Position.Tells.length_le {position : Position} {phase : Phase} {pids : List Nat}
    (h : position.Tells phase pids) : pids.length ≤ 1 := by
  cases position with
  | preparing => simp [h.2]
  | waiting => obtain ⟨pid, -, rfl⟩ := h; exact Nat.le_refl 1
  | holding signal => obtain ⟨pid, -, rfl⟩ := h; exact Nat.le_refl 1
  | done => exact h.2

/-- A child that has exited is told of as before. -/
theorem Position.Tells.exited {position : Position} {pid : Nat} {pids : List Nat}
    {status : ExitStatus} (h : position.Tells (.running pid) pids) :
    position.Tells (.exited pid status) pids := by
  cases position with
  | preparing => cases h.1
  | waiting => exact h
  | holding signal => exact h
  | done => cases h.1

theorem attends_init : Attends [] .init :=
  ⟨⟨rfl, rfl⟩, by simp, by simp [Loop.init, State.init]⟩

/-- A move that neither starts a child nor ends the waiting, and passes nothing on. -/
theorem Attends.silent {moves : List Move} {l m : Loop} {move : Move} (h : Attends moves l)
    (hspawn : move.spawned? = none) (hawait : ∀ fault, move ≠ .await fault)
    (htells : m.position.Tells m.relay.phase (children moves))
    (hdone : l.position = .done → m.position = .done) (hpasses : m.relay.passes = l.relay.passes) :
    Attends (moves ++ [move]) m := by
  have hchildren : children (moves ++ [move]) = children moves := children_concat_of_none hspawn
  constructor
  case tells => rwa [hchildren]
  case awaited =>
    intro fault hmem
    rcases List.mem_append.mp hmem with hmem | hmem
    · exact hdone (h.awaited fault hmem)
    · exact absurd (List.mem_singleton.mp hmem).symm (hawait fault)
  case passes =>
    rw [hchildren, hpasses]
    exact h.passes

theorem Attends.moves {moves : List Move} {l m : Loop} {move : Move} (h : Attends moves l)
    (hmoves : l.Moves move m) : Attends (moves ++ [move]) m := by
  have htells := h.tells
  cases hmoves with
  | install hposition hnext => exact h.silent rfl (by simp) htells id rfl
  | deliver hcatches => exact h.silent rfl (by simp) (by simpa using htells) id (by simp)
  | @spawn pid hposition hhandlers =>
    rw [hposition] at htells
    have hone : children (moves ++ [.spawn pid]) = [pid] := by
      rw [children_concat, htells.2]
      rfl
    refine ⟨⟨pid, rfl, hone⟩, ?_, fun p hp => ?_⟩
    · simpa [hposition] using h.awaited
    · obtain ⟨other, hmem, -⟩ := h.passes p hp
      simp [htells.2] at hmem
  | fail hposition =>
    rw [hposition] at htells
    exact h.silent rfl (by simp) ⟨by rw [htells.1]; rfl, by simp [htells.2]⟩ (fun _ => rfl) rfl
  | exit hphase =>
    rw [hphase] at htells
    exact h.silent rfl (by simp) htells.exited id rfl
  | take hposition hpending =>
    rw [hposition] at htells
    refine h.silent rfl (by simp) (by simpa [Position.Tells] using htells) ?_ (by simp)
    simp [hposition]
  | @forward signal fault hposition =>
    rw [hposition] at htells
    have hchildren : children (moves ++ [.forward fault]) = children moves :=
      children_concat_of_none rfl
    refine ⟨by rwa [hchildren], by simpa [hposition] using h.awaited, fun p hp => ?_⟩
    rw [hchildren]
    rcases List.mem_cons.mp hp with rfl | hp
    · obtain ⟨pid, hpid, hpids⟩ := htells
      refine ⟨pid, by simp [hpids], ?_⟩
      rw [Pass.of, hpid]
      rfl
    · exact h.passes p hp
  | @await pid status fault hposition hphase =>
    have hchildren : children (moves ++ [.await fault]) = children moves :=
      children_concat_of_none rfl
    refine ⟨⟨rfl, by rw [hchildren]; exact htells.length_le⟩, fun _ _ => rfl, ?_⟩
    rw [hchildren]
    exact h.passes

theorem Attends.run {done : List Move} {l m : Loop} {moves : List Move} (h : Attends done l)
    (hrun : l.run? moves = some m) : Attends (done ++ moves) m := by
  induction moves generalizing done l with
  | nil =>
    cases hrun
    rwa [List.append_nil]
  | cons move moves ih =>
    obtain ⟨n, hstep, hrest⟩ := Loop.run?_cons hrun
    have hn := ih (h.moves (Loop.moves_of_step? hstep)) hrest
    rwa [List.append_assoc, List.singleton_append] at hn

/-! ## The relay that the launcher's own steps make up -/

/-- The fault of the next sending, if there is one. -/
def nextFault : List Move → Option KillFault
  | [] => none
  | .forward fault :: _ => fault
  | _ :: moves => nextFault moves

/-- The actions of the relay that moves are; a pass stands where its notification is taken. -/
def actions : List Move → List Action
  | [] => []
  | .install :: moves => .install :: actions moves
  | .deliver signal :: moves => .deliver signal :: actions moves
  | .spawn pid :: moves => .spawn pid :: actions moves
  | .fail :: moves => actions moves
  | .exit status :: moves => .exit status :: actions moves
  | .take signal :: moves => .pass signal (nextFault moves) :: actions moves
  | .forward _ :: moves => actions moves
  | .await fault :: moves => .await fault :: actions moves

/-- The relay with the pass that is under way brought to its end. -/
def Loop.settled (l : Loop) (fault : Option KillFault) : State :=
  match l.position with
  | .holding signal => { l.relay with passes := .of l.relay.phase signal fault :: l.relay.passes }
  | _ => l.relay

@[simp] theorem Loop.settled_handlers (l : Loop) (fault : Option KillFault) :
    (l.settled fault).handlers = l.relay.handlers := by
  unfold settled
  split <;> rfl

@[simp] theorem Loop.settled_phase (l : Loop) (fault : Option KillFault) :
    (l.settled fault).phase = l.relay.phase := by
  unfold settled
  split <;> rfl

theorem Loop.settled_setPending (l : Loop) (signal : Signal) (value : Bool)
    (fault : Option KillFault) :
    Loop.settled { l with relay := l.relay.setPending signal value } fault =
      (l.settled fault).setPending signal value := by
  unfold settled
  cases l.position <;> cases signal <;> rfl

/-- The pass under way finds the same number in a child that has exited. -/
theorem Loop.settled_exited {l : Loop} {pid : Nat} (h : l.relay.phase = .running pid)
    (status : ExitStatus) (fault : Option KillFault) :
    Loop.settled { l with relay.phase := .exited pid status } fault =
      { l.settled fault with phase := .exited pid status } := by
  unfold settled
  cases l.position with
  | holding signal =>
    simp only [h]
    rfl
  | _ => rfl

theorem Loop.settled_of_ne {l : Loop} (h : ∀ signal, l.position ≠ .holding signal)
    (fault : Option KillFault) : l.settled fault = l.relay := by
  unfold settled
  split
  · next signal hposition => exact absurd hposition (h signal)
  · rfl

theorem State.run?_cons {s t : State} {a : Action} {as : List Action} (h : s.step? a = some t) :
    s.run? (a :: as) = t.run? as := by
  rw [run?, List.foldlM_cons, h]
  rfl

/-- What a move is for the relay. -/
theorem run?_actions_cons {done : List Move} {l m : Loop} {move : Move} {moves : List Move}
    (h : Attends done l) (hmoves : l.Moves move m) :
    (l.settled (nextFault (move :: moves))).run? (actions (move :: moves)) =
      (m.settled (nextFault moves)).run? (actions moves) := by
  have htells := h.tells
  cases hmoves with
  | @install handlers hposition hnext =>
    rw [Loop.settled_of_ne (by simp [hposition]), Loop.settled_of_ne (by simp [hposition])]
    exact State.run?_cons (by simp [State.step?, hnext])
  | @deliver signal hcatches =>
    rw [Loop.settled_setPending]
    exact State.run?_cons (by simp [State.step?, hcatches, nextFault])
  | @spawn pid hposition hhandlers =>
    rw [hposition] at htells
    rw [Loop.settled_of_ne (by simp [hposition]), Loop.settled_of_ne (by simp)]
    exact State.run?_cons (by simp [State.step?, hhandlers, htells.1])
  | fail hposition =>
    rw [Loop.settled_of_ne (by simp [hposition]), Loop.settled_of_ne (by simp)]
    rfl
  | @exit pid status hphase =>
    rw [Loop.settled_exited hphase]
    exact State.run?_cons (by simp [State.step?, hphase, nextFault])
  | @take signal hposition hpending =>
    rw [hposition] at htells
    obtain ⟨pid, hpid, -⟩ := htells
    rw [Loop.settled_of_ne (by simp [hposition])]
    refine State.run?_cons ?_
    rw [step?_pass, hpid]
    simp [hpending, Loop.settled, State.passed, Pass.of, hpid]
  | @forward signal fault hposition =>
    rw [Loop.settled_of_ne (l := ⟨.waiting, _⟩) (by simp)]
    unfold Loop.settled
    rw [hposition]
    rfl
  | @await pid status fault hposition hphase =>
    rw [Loop.settled_of_ne (by simp [hposition]), Loop.settled_of_ne (by simp)]
    exact State.run?_cons (by simp [State.step?, hphase])

/-- With each pass taken as one, the launcher's own steps are a run of the relay. -/
theorem run?_actions {done : List Move} {l m : Loop} {moves : List Move} (h : Attends done l)
    (hrun : l.run? moves = some m) :
    (l.settled (nextFault moves)).run? (actions moves) = some (m.settled none) := by
  induction moves generalizing done l with
  | nil =>
    cases hrun
    rfl
  | cons move moves ih =>
    obtain ⟨n, hstep, hrest⟩ := Loop.run?_cons hrun
    have hmoves := Loop.moves_of_step? hstep
    rw [run?_actions_cons h hmoves]
    exact ih (h.moves hmoves) hrest

end PanelLauncher.Relay
