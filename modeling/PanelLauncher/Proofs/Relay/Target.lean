import PanelLauncher.Proofs.Relay.Delivery
import PanelLauncher.Proofs.Relay.Loop

/-!
# Where signals are sent to

A signal goes to the child's own number, which is a positive one of 32 bits, and it goes there only
between the start of the child and the end of waiting for it, when nobody else can have the number.
A child whose number is larger gets none. That the child is gone is never found out in a pass.
-/

namespace PanelLauncher.Relay

/-! ## What a pass adds -/

theorem kills_of_passes_eq {s t : State} (h : t.passes = s.passes) : t.kills = s.kills := by
  rw [State.kills, State.kills, h]

theorem events_of_passes_eq {s t : State} (h : t.passes = s.passes) : t.events = s.events := by
  rw [State.events, State.events, h]

theorem kills_of_passes_cons {s t : State} {p : Pass} (h : t.passes = p :: s.passes) :
    t.kills = s.kills ++ p.kill?.toList := by
  rw [State.kills, h, List.reverse_cons, List.filterMap_append, List.filterMap_cons,
    List.filterMap_nil]
  cases p.kill? <;> rfl

theorem events_of_passes_cons {s t : State} {p : Pass} (h : t.passes = p :: s.passes) :
    t.events = s.events ++ Log.passEvents p := by
  rw [State.events, h, List.reverse_cons, List.flatMap_append, List.flatMap_singleton]
  rfl

theorem kill?_of_running (pid : Nat) (signal : Signal) (fault : Option KillFault) :
    (Pass.of (.running pid) signal fault).kill? =
      if pid < 2147483648 then some ((pid : Int), signal) else none := by
  by_cases h : pid < 2147483648 <;> simp [Pass.of, Pass.kill?, Phase.pid?, Forwarding.ofPid, h]

theorem passEvents_of_running (pid : Nat) (signal : Signal) (fault : Option KillFault) :
    Log.passEvents (.of (.running pid) signal fault) =
      .received signal ::
        if pid < 2147483648 then (fault.map (.forwardFailed signal pid)).toList
        else [.pidOutOfRange pid] := by
  by_cases h : pid < 2147483648 <;> cases fault <;>
    simp [Log.passEvents, Pass.of, Phase.pid?, Forwarding.ofPid, h]

/-- A child with a number is one that has not been waited for. -/
theorem phase_of_pid? {phase : Phase} {pid : Nat} (h : phase.pid? = some pid) :
    phase = .running pid ∨ ∃ status, phase = .exited pid status := by
  cases phase with
  | absent => cases h
  | running _ => cases h; exact .inl rfl
  | exited _ status => cases h; exact .inr ⟨status, rfl⟩
  | awaited _ _ => cases h

/-! ## The signals of a run -/

/-- What holds of the signals that have been sent when moves have led to a state. -/
structure OnTarget (moves : List Move) (l : Loop) : Prop where
  /-- With each pass taken as one, this is a run of the relay. -/
  isRelay : State.init.run? (actions moves) = some (l.settled none)
  /-- A notification that has been taken is sent on to the child as it is then: it has been started,
  and it has not been waited for. -/
  forwarded : ∀ before fault after, moves = before ++ .forward fault :: after →
    ∃ (m n : Loop) (signal : Signal) (pid : Nat),
      Loop.init.run? before = some m ∧ m.step? (.forward fault) = some n ∧
      m.position = .holding signal ∧ .spawn pid ∈ before ∧ (∀ wait, .await wait ∉ before) ∧
      (m.relay.phase = .running pid ∨ ∃ status, m.relay.phase = .exited pid status) ∧
      n.relay.kills = m.relay.kills ++
        (if pid < 2147483648 then [((pid : Int), signal)] else []) ∧
      n.relay.events = m.relay.events ++ .received signal ::
        (if pid < 2147483648 then (fault.map (.forwardFailed signal pid)).toList
        else [.pidOutOfRange pid])
  /-- No other move sends anything. -/
  silent : ∀ before move after, moves = before ++ move :: after → (∀ fault, move ≠ .forward fault) →
    ∃ m n : Loop, Loop.init.run? before = some m ∧ m.step? move = some n ∧
      n.relay.kills = m.relay.kills ∧ n.relay.events = m.relay.events
  /-- Whatever is sent goes to the number of the child, and to no group. -/
  target : ∀ target signal, (target, signal) ∈ l.relay.kills →
    ∃ pid : Nat, .spawn pid ∈ moves ∧ target = pid ∧ 0 < target ∧ target < 2147483648
  /-- A child whose number is above these gets nothing, which is warned of each time. -/
  outOfRange : ∀ pid : Nat, .spawn pid ∈ moves → 2147483648 ≤ pid →
    l.relay.kills = [] ∧
    l.relay.events =
      l.relay.passes.reverse.flatMap (fun p => [.received p.signal, .pidOutOfRange pid]) ∧
    (Log.Event.pidOutOfRange pid).level = .warn
  present : .childGone ∉ l.relay.events

theorem Loop.Moves.passes_eq {l m : Loop} {move : Move} (h : l.Moves move m)
    (hmove : ∀ fault, move ≠ .forward fault) : m.relay.passes = l.relay.passes := by
  cases h with
  | deliver hcatches => simp
  | take hposition hpending => simp
  | @forward signal fault hposition => exact absurd rfl (hmove fault)
  | _ => rfl

theorem Attends.children_eq {moves : List Move} {l : Loop} (h : Attends moves l) {pid : Nat}
    (hpid : pid ∈ children moves) : children moves = [pid] := by
  have hlength := h.tells.length_le
  match hchildren : children moves, hpid, hlength with
  | [other], hpid, _ => rw [List.mem_singleton.mp hpid]

section Run

variable {moves : List Move} {l : Loop} (h : Loop.init.run? moves = some l)

include h

theorem attends_of_run : Attends moves l :=
  attends_init.run h

/-- The states around a move of a run. -/
theorem exists_around {before : List Move} {move : Move} {after : List Move}
    (heq : moves = before ++ move :: after) :
    ∃ m n, Loop.init.run? before = some m ∧ m.step? move = some n := by
  rw [heq] at h
  obtain ⟨m, hbefore, hrest⟩ := Loop.run?_append h
  obtain ⟨n, hstep, -⟩ := Loop.run?_cons hrest
  exact ⟨m, n, hbefore, hstep⟩

/-- Each pass of a run is one for the only child, as one that runs. -/
theorem pass_eq_of_spawn {pid : Nat} (hspawn : .spawn pid ∈ moves) {p : Pass}
    (hp : p ∈ l.relay.passes) : p = .of (.running pid) p.signal p.fault := by
  have hattends := attends_of_run h
  obtain ⟨other, hother, heq⟩ := hattends.passes p hp
  rw [hattends.children_eq (mem_children.mpr hspawn), List.mem_singleton] at hother
  rwa [hother] at heq

end Run

/--
**Signals go to the child and to nothing else.** In whatever order the launcher moves, signals come
in and the child exits, a signal is sent only to the positive number of a child that has been started
and not been waited for. Where the number is too large for that, there is a warning and no signal,
and the child is never found gone.
-/
theorem on_target_of_run {moves : List Move} {l : Loop} (h : Loop.init.run? moves = some l)
    (hpid : ∀ pid : Nat, .spawn pid ∈ moves → pid ≠ 0) : OnTarget moves l := by
  have hattends := attends_of_run h
  constructor
  case isRelay => exact run?_actions attends_init h
  case forwarded =>
    -- The launcher holds a notification, so that the child is there; had it been waited for, the
    -- launcher would be done.
    intro before fault after heq
    obtain ⟨m, n, hbefore, hstep⟩ := exists_around h heq
    have hm := attends_of_run hbefore
    cases Loop.moves_of_step? hstep with
    | @forward signal _ hposition =>
      have htells := hm.tells
      rw [hposition] at htells
      obtain ⟨pid, hphase, hchildren⟩ := htells
      have hspawn : .spawn pid ∈ before := mem_children.mp (by simp [hchildren])
      have hwait : ∀ wait, .await wait ∉ before := by
        intro wait hmem
        rw [hm.awaited wait hmem] at hposition
        cases hposition
      have hpass : Pass.of m.relay.phase signal fault = .of (.running pid) signal fault := by
        rw [Pass.of, hphase]
        rfl
      refine ⟨m, _, signal, pid, hbefore, hstep, hposition, hspawn, hwait, phase_of_pid? hphase,
        ?_, ?_⟩
      · rw [kills_of_passes_cons rfl, hpass, kill?_of_running]
        split <;> rfl
      · rw [events_of_passes_cons rfl, hpass, passEvents_of_running]
  case silent =>
    intro before move after heq hmove
    obtain ⟨m, n, hbefore, hstep⟩ := exists_around h heq
    have hpasses := (Loop.moves_of_step? hstep).passes_eq hmove
    exact ⟨m, n, hbefore, hstep, kills_of_passes_eq hpasses, events_of_passes_eq hpasses⟩
  case target =>
    intro target signal hmem
    obtain ⟨p, hp, hkill⟩ := List.mem_filterMap.mp hmem
    obtain ⟨pid, hchild, heq⟩ := hattends.passes p (List.mem_reverse.mp hp)
    have hspawn := mem_children.mp hchild
    have hpos := hpid pid hspawn
    rw [heq, kill?_of_running, Option.ite_none_right_eq_some, Option.some.injEq,
      Prod.mk.injEq] at hkill
    obtain ⟨hlt, rfl, -⟩ := hkill
    exact ⟨pid, hspawn, rfl, by omega, by omega⟩
  case outOfRange =>
    intro pid hspawn hlarge
    have hpass := fun p hp => pass_eq_of_spawn h hspawn (p := p) (List.mem_reverse.mp hp)
    refine ⟨?_, ?_, rfl⟩
    · refine List.filterMap_eq_nil_iff.mpr fun p hp => ?_
      rw [hpass p hp, kill?_of_running, if_neg (by omega)]
    · rw [State.events, List.flatMap_def, List.flatMap_def]
      refine congrArg List.flatten (List.map_congr_left fun p hp => ?_)
      rw [hpass p hp, passEvents_of_running, if_neg (by omega)]
      rfl
  case present =>
    intro hmem
    obtain ⟨p, hp, hevent⟩ := List.mem_flatMap.mp hmem
    obtain ⟨pid, -, heq⟩ := hattends.passes p (List.mem_reverse.mp hp)
    rw [heq, passEvents_of_running] at hevent
    split at hevent
    · cases hfault : p.fault <;> simp [hfault] at hevent
    · simp at hevent

/-- The child exits between the taking of a notification and the sending of its signal. -/
def sampleMoves (pid : Nat) : List Move :=
  [.install, .install, .deliver .terminate, .spawn pid, .take .terminate, .exit (.code 0),
    .deliver .interrupt, .forward (some .noSuchProcess), .take .interrupt, .forward none,
    .await none]

def sampleLoop (pid : Nat) : Loop where
  position := .done
  relay :=
    { handlers := .both
      interruptPending := false
      terminatePending := false
      phase := .awaited (.code 0) none
      passes :=
        [.of (.running pid) .interrupt none, .of (.running pid) .terminate (some .noSuchProcess)] }

/-- The greatest number that a signal is sent to, and the next one. -/
theorem on_target_at_bound :
    (Loop.init.run? (sampleMoves 2147483647) = some (sampleLoop 2147483647) ∧
      (sampleLoop 2147483647).relay.kills = [(2147483647, .terminate), (2147483647, .interrupt)] ∧
      OnTarget (sampleMoves 2147483647) (sampleLoop 2147483647)) ∧
    Loop.init.run? (sampleMoves 2147483648) = some (sampleLoop 2147483648) ∧
      (sampleLoop 2147483648).relay.kills = [] ∧
      OnTarget (sampleMoves 2147483648) (sampleLoop 2147483648) := by
  have hrun (pid : Nat) : Loop.init.run? (sampleMoves pid) = some (sampleLoop pid) := rfl
  have hspawn (pid : Nat) (hpos : pid ≠ 0) :
      ∀ other : Nat, .spawn other ∈ sampleMoves pid → other ≠ 0 := by
    simpa [sampleMoves] using hpos
  exact ⟨⟨hrun _, by decide, on_target_of_run (hrun _) (hspawn _ (by decide))⟩,
    hrun _, by decide, on_target_of_run (hrun _) (hspawn _ (by decide))⟩

end PanelLauncher.Relay
