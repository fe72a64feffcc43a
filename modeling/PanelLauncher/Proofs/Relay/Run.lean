import PanelLauncher.Log.Event

/-!
# Runs of the relay

`Next` says once what an action does; what holds of every run is shown for one action and then
along the run.
-/

namespace PanelLauncher.Relay

namespace State

@[simp] theorem setPending_handlers (s : State) (signal : Signal) (value : Bool) :
    (s.setPending signal value).handlers = s.handlers := by
  cases signal <;> rfl

@[simp] theorem setPending_phase (s : State) (signal : Signal) (value : Bool) :
    (s.setPending signal value).phase = s.phase := by
  cases signal <;> rfl

@[simp] theorem setPending_passes (s : State) (signal : Signal) (value : Bool) :
    (s.setPending signal value).passes = s.passes := by
  cases signal <;> rfl

@[simp] theorem isPending_setPending (s : State) (signal other : Signal) (value : Bool) :
    (s.setPending signal value).isPending other =
      if other = signal then value else s.isPending other := by
  cases signal <;> cases other <;> rfl

@[simp] theorem isPending_handlers (s : State) (handlers : Handlers) (signal : Signal) :
    isPending { s with handlers := handlers } signal = s.isPending signal := by
  cases signal <;> rfl

@[simp] theorem isPending_phase (s : State) (phase : Phase) (signal : Signal) :
    isPending { s with phase := phase } signal = s.isPending signal := by
  cases signal <;> rfl

/-- The state after a pass. -/
def passed (s : State) (p : Pass) : State :=
  { s.setPending p.signal false with passes := p :: s.passes }

@[simp] theorem passed_handlers (s : State) (p : Pass) : (s.passed p).handlers = s.handlers :=
  setPending_handlers s p.signal false

@[simp] theorem passed_phase (s : State) (p : Pass) : (s.passed p).phase = s.phase :=
  setPending_phase s p.signal false

@[simp] theorem passed_passes (s : State) (p : Pass) : (s.passed p).passes = p :: s.passes := rfl

@[simp] theorem isPending_passed (s : State) (p : Pass) (signal : Signal) :
    (s.passed p).isPending signal = if signal = p.signal then false else s.isPending signal := by
  rw [← isPending_setPending]
  cases signal <;> rfl

end State

/-! ## One action -/

/-- What an action needs, and what it does. -/
inductive Next (s : State) : Action → State → Prop
  | install {handlers : Handlers} (hnext : s.handlers.next? = some handlers) :
      Next s .install { s with handlers := handlers }
  | deliver {signal : Signal} (hcatches : s.handlers.catches signal = true) :
      Next s (.deliver signal) (s.setPending signal true)
  | spawn {pid : Nat} (hhandlers : s.handlers = .both) (hphase : s.phase = .absent) :
      Next s (.spawn pid) { s with phase := .running pid }
  | exit {pid : Nat} {status : ExitStatus} (hphase : s.phase = .running pid) :
      Next s (.exit status) { s with phase := .exited pid status }
  | pass {signal : Signal} {fault : Option KillFault} {pid : Nat} (hpid : s.phase.pid? = some pid)
      (hpending : s.isPending signal = true) :
      Next s (.pass signal fault) (s.passed ⟨signal, .ofPid (some pid), fault⟩)
  | await {pid : Nat} {status : ExitStatus} {fault : Option IoFault}
      (hphase : s.phase = .exited pid status) :
      Next s (.await fault) { s with phase := .awaited status fault }

/-- A pass needs a child that has a number and a notification that is pending. -/
theorem step?_pass (s : State) (signal : Signal) (fault : Option KillFault) :
    s.step? (.pass signal fault) = s.phase.pid?.bind fun pid =>
      if s.isPending signal then some (s.passed ⟨signal, .ofPid (some pid), fault⟩) else none := by
  obtain ⟨handlers, interrupt, terminate, phase, passes⟩ := s
  cases phase <;> rfl

theorem next_of_step? {s t : State} {a : Action} (h : s.step? a = some t) : Next s a t := by
  cases a with
  | install =>
    obtain ⟨handlers, hnext, rfl⟩ := Option.map_eq_some_iff.mp h
    exact .install hnext
  | deliver signal =>
    simp only [State.step?, Option.ite_none_right_eq_some, Option.some.injEq] at h
    obtain ⟨hcatches, rfl⟩ := h
    exact .deliver hcatches
  | spawn pid =>
    simp only [State.step?] at h
    split at h
    · next hhandlers hphase =>
      cases h
      exact .spawn hhandlers hphase
    · cases h
  | exit status =>
    simp only [State.step?] at h
    split at h
    · next hphase =>
      cases h
      exact .exit hphase
    · cases h
  | pass signal fault =>
    rw [step?_pass] at h
    obtain ⟨pid, hpid, h⟩ := Option.bind_eq_some_iff.mp h
    simp only [Option.ite_none_right_eq_some, Option.some.injEq] at h
    obtain ⟨hpending, rfl⟩ := h
    exact .pass hpid hpending
  | await fault =>
    simp only [State.step?] at h
    split at h
    · next hphase =>
      cases h
      exact .await hphase
    · cases h

/-! ## Runs -/

theorem run?_cons_eq_some {s t : State} {a : Action} {actions : List Action}
    (h : s.run? (a :: actions) = some t) : ∃ u, Next s a u ∧ u.run? actions = some t := by
  rw [State.run?, List.foldlM_cons] at h
  obtain ⟨u, hstep, hrun⟩ := Option.bind_eq_some_iff.mp h
  exact ⟨u, next_of_step? hstep, hrun⟩

theorem run?_append_eq_some {s t : State} {as bs : List Action} (h : s.run? (as ++ bs) = some t) :
    ∃ u, s.run? as = some u ∧ u.run? bs = some t := by
  rw [State.run?, List.foldlM_append] at h
  exact Option.bind_eq_some_iff.mp h

end PanelLauncher.Relay
