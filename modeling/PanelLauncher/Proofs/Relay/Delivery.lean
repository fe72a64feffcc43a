import PanelLauncher.Proofs.Relay.Run

/-!
# Signals are neither lost nor invented

Along every run of the relay, each notification taken is one signal sent to the child, in the same
order; each signal that is kept stays pending until it is sent; and of each kind no more are sent
than have come in. All of this counts from the installation of the handlers on, before there is a
child.
-/

namespace PanelLauncher.Relay

/-! ## What is taken and what is sent -/

/-- The notification that an action takes. -/
def Action.taken? (a : Action) : Option Signal :=
  match a with
  | pass signal _ => some signal
  | _ => none

/-- The child that an action starts. -/
def Action.spawned? (a : Action) : Option Nat :=
  match a with
  | spawn pid => some pid
  | _ => none

/-- The notifications that are taken, in order. -/
def taken (actions : List Action) : List Signal :=
  actions.filterMap Action.taken?

def spawned (actions : List Action) : List Nat :=
  actions.filterMap Action.spawned?

/-- What is sent in a pass: the number it is sent to, and the signal. -/
def Pass.kill? (p : Pass) : Option (Int × Signal) :=
  match p.forwarding with
  | .kill target => some (target, p.signal)
  | _ => none

/-- What has been sent, in order. -/
def State.kills (s : State) : List (Int × Signal) :=
  s.passes.reverse.filterMap Pass.kill?

/-- What has been logged, in order. -/
def State.events (s : State) : List Log.Event :=
  s.passes.reverse.flatMap Log.passEvents

/-- The notification that an event reports. -/
def received? : Log.Event → Option Signal
  | .received signal => some signal
  | _ => none

theorem mem_spawned {actions : List Action} {pid : Nat} :
    pid ∈ spawned actions ↔ .spawn pid ∈ actions := by
  simp only [spawned, List.mem_filterMap]
  constructor
  · rintro ⟨a, ha, hpid⟩
    cases a <;> simp_all [Action.spawned?]
  · intro h
    exact ⟨_, h, rfl⟩

/-! ## The child of a run -/

/-- The children that have been started by the time of a phase. -/
def Phase.Started : Phase → List Nat → Prop
  | absent, pids => pids = []
  | running pid, pids => pids = [pid]
  | exited pid _, pids => pids = [pid]
  | awaited _ _, pids => ∃ pid, pids = [pid]

/-- There is at most one child, all handlers are there before it, and it gets every signal. -/
structure Attended (pids : List Nat) (s : State) : Prop where
  started : s.phase.Started pids
  handlers : pids ≠ [] → s.handlers = .both
  forwarding : ∀ p ∈ s.passes, ∃ pid ∈ pids, p.forwarding = .ofPid (some pid)

theorem attended_init : Attended [] .init :=
  ⟨rfl, fun h => absurd rfl h, fun _ h => nomatch h⟩

theorem Phase.Started.of_pid? {phase : Phase} {pids : List Nat} {pid : Nat}
    (h : phase.Started pids) (hpid : phase.pid? = some pid) : pids = [pid] := by
  cases phase with
  | absent => cases hpid
  | running pid' => cases hpid; exact h
  | exited pid' status => cases hpid; exact h
  | awaited status fault => cases hpid

theorem Attended.next {pids : List Nat} {s t : State} {a : Action} (h : Attended pids s)
    (hnext : Next s a t) : Attended (pids ++ a.spawned?.toList) t := by
  obtain ⟨hstarted, hhandlers, hforwarding⟩ := h
  cases hnext with
  | spawn hboth hphase =>
    rw [hphase] at hstarted
    cases hstarted
    exact ⟨rfl, fun _ => hboth, fun p hp => nomatch hforwarding p hp⟩
  | install hnext =>
    simp only [Action.spawned?, Option.toList_none, List.append_nil]
    refine ⟨hstarted, fun hne => ?_, hforwarding⟩
    rw [hhandlers hne] at hnext
    cases hnext
  | deliver hcatches =>
    simp only [Action.spawned?, Option.toList_none, List.append_nil]
    exact ⟨by simpa using hstarted, by simpa using hhandlers, by simpa using hforwarding⟩
  | exit hphase =>
    rw [hphase] at hstarted
    cases hstarted
    exact ⟨rfl, hhandlers, hforwarding⟩
  | pass hpid hpending =>
    obtain rfl := hstarted.of_pid? hpid
    simp only [Action.spawned?, Option.toList_none, List.append_nil]
    refine ⟨by simpa using hstarted, by simpa using hhandlers, fun p hp => ?_⟩
    rcases List.mem_cons.mp hp with rfl | hp
    · exact ⟨_, List.mem_singleton_self _, rfl⟩
    · exact hforwarding p hp
  | await hphase =>
    rw [hphase] at hstarted
    cases hstarted
    exact ⟨⟨_, rfl⟩, hhandlers, hforwarding⟩

theorem Attended.run {pids : List Nat} {s t : State} {actions : List Action}
    (h : Attended pids s) (hrun : s.run? actions = some t) :
    Attended (pids ++ spawned actions) t := by
  induction actions generalizing pids s with
  | nil =>
    cases hrun
    rwa [spawned, List.filterMap_nil, List.append_nil]
  | cons a actions ih =>
    obtain ⟨u, hnext, hrest⟩ := run?_cons_eq_some hrun
    have ht := ih (h.next hnext) hrest
    rw [List.append_assoc] at ht
    rw [spawned, List.filterMap_cons]
    cases ha : a.spawned? with
    | none => rwa [ha] at ht
    | some pid => rwa [ha] at ht

theorem Attended.eq_of_mem {pids : List Nat} {s : State} (h : Attended pids s) {pid : Nat}
    (hpid : pid ∈ pids) : pids = [pid] := by
  have hstarted := h.started
  cases hphase : s.phase with
  | absent =>
    rw [hphase] at hstarted
    cases hstarted
    cases hpid
  | running pid' | exited pid' status =>
    rw [hphase] at hstarted
    cases hstarted
    rw [List.mem_singleton.mp hpid]
  | awaited status fault =>
    rw [hphase] at hstarted
    obtain ⟨pid', rfl⟩ := hstarted
    rw [List.mem_singleton.mp hpid]

/-! ## What is taken is sent -/

theorem Next.passes {s t : State} {a : Action} (h : Next s a t) :
    ∃ new, t.passes = new ++ s.passes ∧ new.reverse.map Pass.signal = a.taken?.toList := by
  cases h with
  | pass hpid hpending => exact ⟨[_], rfl, rfl⟩
  | deliver hcatches => exact ⟨[], by simp, rfl⟩
  | _ => exact ⟨[], rfl, rfl⟩

theorem run?_passes {s t : State} {actions : List Action} (h : s.run? actions = some t) :
    ∃ new, t.passes = new ++ s.passes ∧ new.reverse.map Pass.signal = taken actions := by
  induction actions generalizing s with
  | nil =>
    cases h
    exact ⟨[], rfl, rfl⟩
  | cons a actions ih =>
    obtain ⟨u, hnext, hrest⟩ := run?_cons_eq_some h
    obtain ⟨first, hu, hfirst⟩ := hnext.passes
    obtain ⟨later, ht, hlater⟩ := ih hrest
    refine ⟨later ++ first, by rw [ht, hu, List.append_assoc], ?_⟩
    rw [List.reverse_append, List.map_append, hfirst, hlater, taken, taken, List.filterMap_cons]
    cases a.taken? <;> rfl

/-- Passes to one child with a number of 32 bits all send their signal to it. -/
theorem filterMap_kill? {passes : List Pass} {pid : Nat} (hpid : pid < 2147483648)
    (h : ∀ p ∈ passes, p.forwarding = .ofPid (some pid)) :
    passes.filterMap Pass.kill? = (passes.map Pass.signal).map fun signal => ((pid : Int), signal) := by
  induction passes with
  | nil => rfl
  | cons p passes ih =>
    have hp : p.kill? = some ((pid : Int), p.signal) := by
      rw [Pass.kill?, h p List.mem_cons_self, Forwarding.ofPid, if_pos hpid]
    rw [List.filterMap_cons_some hp, ih fun q hq => h q (List.mem_cons_of_mem _ hq)]
    rfl

/-- Each pass reports the notification that it took, once. -/
theorem filterMap_received?_passEvents (passes : List Pass) :
    (passes.flatMap Log.passEvents).filterMap received? = passes.map Pass.signal := by
  induction passes with
  | nil => rfl
  | cons p passes ih =>
    have hp : (Log.passEvents p).filterMap received? = [p.signal] := by
      obtain ⟨signal, forwarding, fault⟩ := p
      cases forwarding <;> cases fault <;> rfl
    rw [List.flatMap_cons, List.filterMap_append, hp, ih]
    rfl

/-! ## What is kept stays until it is taken -/

theorem Next.isPending {s t : State} {a : Action} {signal : Signal} (h : Next s a t)
    (hpending : s.isPending signal = true) : t.isPending signal = true ∨ a.taken? = some signal := by
  cases h with
  | deliver hcatches => left; simp [hpending]
  | @pass taken fault pid hpid htaken =>
    by_cases heq : signal = taken
    · exact .inr (by rw [heq]; rfl)
    · exact .inl (by simp [heq, hpending])
  | _ => left; simpa using hpending

theorem run?_isPending {s t : State} {actions : List Action} {signal : Signal}
    (h : s.run? actions = some t) (hpending : s.isPending signal = true) :
    t.isPending signal = true ∨ signal ∈ taken actions := by
  induction actions generalizing s with
  | nil =>
    cases h
    exact .inl hpending
  | cons a actions ih =>
    obtain ⟨u, hnext, hrest⟩ := run?_cons_eq_some h
    rcases hnext.isPending hpending with hu | ha
    · refine (ih hrest hu).imp_right fun hmem => ?_
      obtain ⟨b, hb, hsignal⟩ := List.mem_filterMap.mp hmem
      exact List.mem_filterMap.mpr ⟨b, List.mem_cons_of_mem _ hb, hsignal⟩
    · exact .inr (List.mem_filterMap.mpr ⟨a, List.mem_cons_self, ha⟩)

/-! ## What is sent has come in -/

/-- How many of a kind have been taken or are pending. -/
def State.kept (s : State) (signal : Signal) : Nat :=
  (s.passes.map Pass.signal).count signal + if s.isPending signal then 1 else 0

theorem Next.kept_le {s t : State} {a : Action} (h : Next s a t) (signal : Signal) :
    t.kept signal ≤ s.kept signal + [a].count (.deliver signal) := by
  cases h with
  | @deliver delivered hcatches =>
    by_cases heq : signal = delivered
    · subst heq
      simp only [State.kept, State.setPending_passes, State.isPending_setPending, if_true,
        List.count_singleton_self]
      omega
    · simp [State.kept, heq]
  | @pass taken fault pid hpid htaken =>
    by_cases heq : signal = taken
    · subst heq
      simp [State.kept, htaken]
    · have hne : ¬ taken = signal := fun h => heq h.symm
      simp [State.kept, heq, hne]
  | _ => simp [State.kept]

theorem run?_kept_le {s t : State} {actions : List Action} (h : s.run? actions = some t)
    (signal : Signal) : t.kept signal ≤ s.kept signal + actions.count (.deliver signal) := by
  induction actions generalizing s with
  | nil =>
    cases h
    exact Nat.le_refl _
  | cons a actions ih =>
    obtain ⟨u, hnext, hrest⟩ := run?_cons_eq_some h
    have hfirst := hnext.kept_le signal
    have hlater := ih hrest
    have hcount : (a :: actions).count (.deliver signal) =
        [a].count (.deliver signal) + actions.count (.deliver signal) := by
      rw [← List.count_append, List.singleton_append]
    omega

/-! ## Waiting comes to its end after the child -/

/-- The child has exited so, and after that waiting for it came to its end. -/
def Reaped (actions : List Action) (status : ExitStatus) (fault : Option IoFault) : Prop :=
  ∃ before after, actions = before ++ .exit status :: after ∧ .await fault ∈ after

theorem Reaped.cons {actions : List Action} {status : ExitStatus} {fault : Option IoFault}
    (h : Reaped actions status fault) (a : Action) : Reaped (a :: actions) status fault := by
  obtain ⟨before, after, rfl, hawait⟩ := h
  exact ⟨a :: before, after, rfl, hawait⟩

/-- The phase before an action that leads to the exit of a child. -/
theorem Next.exited {s t : State} {a : Action} {pid : Nat} {status : ExitStatus} (h : Next s a t)
    (ht : t.phase = .exited pid status) : s.phase = .exited pid status ∨ a = .exit status := by
  cases h with
  | install hnext => exact .inl ht
  | deliver hcatches => exact .inl (by simpa using ht)
  | spawn hboth hphase => cases ht
  | exit hphase => cases ht; exact .inr rfl
  | pass hpid hpending => exact .inl (by simpa using ht)
  | await hphase => cases ht

theorem Next.awaited {s t : State} {a : Action} {status : ExitStatus} {fault : Option IoFault}
    (h : Next s a t) (ht : t.phase = .awaited status fault) :
    s.phase = .awaited status fault ∨
      (∃ pid, s.phase = .exited pid status) ∧ a = .await fault := by
  cases h with
  | install hnext => exact .inl ht
  | deliver hcatches => exact .inl (by simpa using ht)
  | spawn hboth hphase => cases ht
  | exit hphase => cases ht
  | pass hpid hpending => exact .inl (by simpa using ht)
  | await hphase => cases ht; exact .inr ⟨⟨_, hphase⟩, rfl⟩

theorem run?_awaited {s t : State} {actions : List Action} {status : ExitStatus}
    {fault : Option IoFault} (h : s.run? actions = some t) (ht : t.phase = .awaited status fault) :
    s.phase = .awaited status fault ∨
      (∃ pid, s.phase = .exited pid status) ∧ .await fault ∈ actions ∨
      Reaped actions status fault := by
  induction actions generalizing s with
  | nil =>
    cases h
    exact .inl ht
  | cons a actions ih =>
    obtain ⟨u, hnext, hrest⟩ := run?_cons_eq_some h
    rcases ih hrest with hu | ⟨⟨pid, hu⟩, hawait⟩ | hreaped
    · rcases hnext.awaited hu with hs | ⟨hs, rfl⟩
      · exact .inl hs
      · exact .inr (.inl ⟨hs, List.mem_cons_self⟩)
    · rcases hnext.exited hu with hs | rfl
      · exact .inr (.inl ⟨⟨pid, hs⟩, List.mem_cons_of_mem _ hawait⟩)
      · exact .inr (.inr ⟨[], actions, rfl, hawait⟩)
    · exact .inr (.inr (hreaped.cons a))

/-! ## The relay along a run -/

/-- What holds when a run has come to a state. -/
structure Faithful (actions : List Action) (s : State) : Prop where
  /-- Each notification taken is one signal sent to the child. -/
  kills_eq : ∀ pid : Nat, .spawn pid ∈ actions →
    s.kills = (taken actions).map fun signal => ((pid : Int), signal)
  /-- Without a child nothing is taken. -/
  unspawned : (∀ pid : Nat, .spawn pid ∉ actions) → taken actions = [] ∧ s.kills = []
  /-- Each notification taken is reported once. -/
  events_eq : s.events.filterMap received? = taken actions
  /-- A signal that was kept is pending, unless it has been sent since. -/
  delivered : ∀ before signal after, actions = before ++ .deliver signal :: after →
    s.isPending signal = true ∨
      ∃ (s' : State) (sent : List (Int × Signal)) (pid : Nat), State.init.run? before = some s' ∧
        s.kills = s'.kills ++ sent ∧ .spawn pid ∈ actions ∧ ((pid : Int), signal) ∈ sent
  /-- No more signals are sent, or still to be sent, than have come in. -/
  sent_le : ∀ signal, (s.kills.map Prod.snd).count signal + (if s.isPending signal then 1 else 0) ≤
    actions.count (.deliver signal)
  /-- A child that is there can get what is pending. -/
  enabled : ∀ signal, s.isPending signal = true → s.phase.pid?.isSome →
    ∀ fault, (s.step? (.pass signal fault)).isSome
  /-- From before its child on, the launcher keeps every signal. -/
  catches : ∀ pid : Nat, .spawn pid ∈ actions → ∀ signal, s.handlers.catches signal = true
  awaited : ∀ status fault, s.phase = .awaited status fault → Reaped actions status fault

theorem Attended.forwarding_eq {actions : List Action} {s : State}
    (h : Attended (spawned actions) s) {pid : Nat} (hspawn : .spawn pid ∈ actions) :
    ∀ p ∈ s.passes, p.forwarding = .ofPid (some pid) := by
  intro p hp
  obtain ⟨pid', hpid', hp⟩ := h.forwarding p hp
  rw [h.eq_of_mem (mem_spawned.mpr hspawn), List.mem_singleton] at hpid'
  rw [hp, hpid']

theorem Attended.passes_eq_nil {actions : List Action} {s : State}
    (h : Attended (spawned actions) s) (hnone : ∀ pid : Nat, .spawn pid ∉ actions) :
    s.passes = [] := by
  refine List.eq_nil_iff_forall_not_mem.mpr fun p hp => ?_
  obtain ⟨pid, hmem, -⟩ := h.forwarding p hp
  exact hnone pid (mem_spawned.mp hmem)

section Run

variable {actions : List Action} {s : State} (h : State.init.run? actions = some s)
  (hpid : ∀ pid : Nat, .spawn pid ∈ actions → pid < 2147483648)

include h

theorem attended_of_run : Attended (spawned actions) s :=
  attended_init.run h

include hpid

/-- What is sent is what the passes have taken, whether there is a child or not. -/
theorem map_snd_kills : s.kills.map Prod.snd = s.passes.reverse.map Pass.signal := by
  have hattended := attended_of_run h
  by_cases hspawn : ∃ pid : Nat, .spawn pid ∈ actions
  · obtain ⟨pid, hspawn⟩ := hspawn
    have hforwarding := hattended.forwarding_eq hspawn
    rw [State.kills, filterMap_kill? (hpid pid hspawn) fun p hp =>
      hforwarding p (List.mem_reverse.mp hp), List.map_map]
    exact List.map_id _
  · rw [State.kills, hattended.passes_eq_nil fun pid hmem => hspawn ⟨pid, hmem⟩]
    rfl

theorem sent_of_delivered {before : List Action} {signal : Signal} {after : List Action}
    (heq : actions = before ++ .deliver signal :: after) :
    s.isPending signal = true ∨
      ∃ (s' : State) (sent : List (Int × Signal)) (pid : Nat), State.init.run? before = some s' ∧
        s.kills = s'.kills ++ sent ∧ .spawn pid ∈ actions ∧ ((pid : Int), signal) ∈ sent := by
  have hattended := attended_of_run h
  rw [heq] at h
  obtain ⟨s', hbefore, hrest⟩ := run?_append_eq_some h
  obtain ⟨u, hnext, hafter⟩ := run?_cons_eq_some hrest
  have hu : u.isPending signal = true := by
    cases hnext
    simp
  rcases run?_isPending hafter hu with hpending | hmem
  · exact .inl hpending
  obtain ⟨new, hpasses, hnew⟩ := run?_passes hrest
  have hsignal : signal ∈ new.reverse.map Pass.signal := by
    rw [hnew]
    exact hmem
  obtain ⟨p, hp, -⟩ := List.mem_map.mp hsignal
  have hmine : ∀ q ∈ new.reverse, q ∈ s.passes := by
    intro q hq
    rw [hpasses]
    exact List.mem_append_left _ (List.mem_reverse.mp hq)
  obtain ⟨pid, hmem, -⟩ := hattended.forwarding p (hmine p hp)
  have hspawn : .spawn pid ∈ actions := mem_spawned.mp hmem
  refine .inr ⟨s', new.reverse.filterMap Pass.kill?, pid, hbefore, ?kills, hspawn, ?sent⟩
  case kills =>
    rw [State.kills, hpasses, List.reverse_append, List.filterMap_append]
    rfl
  case sent =>
    rw [filterMap_kill? (hpid pid hspawn) fun q hq => hattended.forwarding_eq hspawn q (hmine q hq)]
    exact List.mem_map_of_mem hsignal

end Run

/--
**Nothing is lost and nothing is invented.** In whatever order signals come in, the child is started
and exits, and however sending fares, the relay is faithful all along the run.
-/
theorem faithful_of_run {actions : List Action} {s : State}
    (h : State.init.run? actions = some s)
    (hpid : ∀ pid : Nat, .spawn pid ∈ actions → pid < 2147483648) : Faithful actions s := by
  have hattended := attended_of_run h
  obtain ⟨passes, hpasses, htaken⟩ := run?_passes h
  rw [State.init, List.append_nil] at hpasses
  rw [← hpasses] at htaken
  constructor
  case kills_eq =>
    intro pid hspawn
    rw [State.kills, filterMap_kill? (hpid pid hspawn), htaken]
    intro p hp
    exact hattended.forwarding_eq hspawn p (List.mem_reverse.mp hp)
  case unspawned =>
    intro hnone
    rw [← htaken, State.kills, hattended.passes_eq_nil hnone]
    exact ⟨rfl, rfl⟩
  case events_eq => rw [State.events, filterMap_received?_passEvents, htaken]
  case delivered => exact fun before signal after heq => sent_of_delivered h hpid heq
  case sent_le =>
    intro signal
    have hinit : State.init.kept signal = 0 := by cases signal <;> rfl
    have hkept := run?_kept_le h signal
    rw [hinit, Nat.zero_add] at hkept
    rwa [map_snd_kills h hpid, List.map_reverse, List.count_reverse]
  case enabled =>
    intro signal hpending hchild fault
    obtain ⟨pid, hchild⟩ := Option.isSome_iff_exists.mp hchild
    rw [step?_pass, hchild, Option.bind_some, if_pos hpending]
    rfl
  case catches =>
    intro pid hspawn signal
    rw [hattended.handlers (List.ne_nil_of_mem (mem_spawned.mpr hspawn))]
    rfl
  case awaited =>
    intro status fault hphase
    rcases run?_awaited h hphase with hinit | ⟨⟨pid, hinit⟩, -⟩ | hreaped
    · cases hinit
    · cases hinit
    · exact hreaped

/-- A signal comes in before the child, two of a kind become one, and sending one fails. -/
def sampleRun : List Action :=
  [.install, .install, .deliver .terminate, .spawn 7, .deliver .terminate, .deliver .interrupt,
    .pass .interrupt none, .pass .terminate none, .deliver .terminate, .exit (.code 3),
    .pass .terminate (some .noSuchProcess), .await none]

def sampleEnd : State where
  handlers := .both
  interruptPending := false
  terminatePending := false
  phase := .awaited (.code 3) none
  passes :=
    [⟨.terminate, .kill 7, some .noSuchProcess⟩, ⟨.terminate, .kill 7, none⟩,
      ⟨.interrupt, .kill 7, none⟩]

theorem faithful_sampleRun :
    State.init.run? sampleRun = some sampleEnd ∧ (∀ pid : Nat, .spawn pid ∈ sampleRun → pid = 7) ∧
      Faithful sampleRun sampleEnd := by
  have hrun : State.init.run? sampleRun = some sampleEnd := by decide
  have hspawn : ∀ pid : Nat, .spawn pid ∈ sampleRun → pid = 7 := by simp [sampleRun]
  exact ⟨hrun, hspawn, faithful_of_run hrun fun pid hmem => by rw [hspawn pid hmem]; decide⟩

end PanelLauncher.Relay
