import PanelLauncher.Proofs.Command.Required

/-!
# Area lists behind one another

The arguments of the areas stand between a head and a tail that the areas have no part in. Going
through two lists behind one another is going through the first and then, counting on, through the
second: the arguments follow one another, and a gap of the second list is named at its place in the
whole (`LaunchConfig.build_append_areas`).
-/

namespace PanelLauncher

namespace RequiredField

/-- The same entry of the area that comes so many places later. -/
def shift (offset : Nat) : RequiredField → RequiredField
  | areaNum index => areaNum (offset + index)
  | areaZones index => areaZones (offset + index)
  | field => field

end RequiredField

namespace Build

variable {index : Nat} {areas : List AreaConfig} {args : List String} {field : RequiredField}

/-! ## One area -/

theorem areaArgs_add (offset index : Nat) (area : AreaConfig) :
    areaArgs (offset + index) area = (areaArgs index area).mapError (.shift offset) := by
  unfold areaArgs
  cases area.num <;> cases area.zones <;> rfl

theorem length_areaArgs {area : AreaConfig} (h : areaArgs index area = .ok args) :
    args.length = 4 := by
  unfold areaArgs at h
  split at h
  · cases h
  · cases h
  · cases h
    rfl

theorem areaArgs_eq_error {area : AreaConfig} (h : areaArgs index area = .error field) :
    field = .areaNum index ∨ field = .areaZones index := by
  unfold areaArgs at h
  split at h
  · cases h
    exact .inl rfl
  · cases h
    exact .inr rfl
  · cases h

/-! ## Lists of areas -/

/-- A first area puts its arguments in front of the others'. -/
theorem areaListArgs_cons (index : Nat) (area : AreaConfig) (areas : List AreaConfig) :
    areaListArgs index (area :: areas) =
      (areaArgs index area).bind fun first =>
        (areaListArgs (index + 1) areas).map fun rest => first ++ rest := by
  show (areaArgs index area).bind _ = _
  congr 1

theorem areaListArgs_cons_eq_ok {area : AreaConfig} :
    areaListArgs index (area :: areas) = .ok args ↔
      ∃ first rest, areaArgs index area = .ok first ∧
        areaListArgs (index + 1) areas = .ok rest ∧ args = first ++ rest := by
  rw [areaListArgs_cons]
  cases areaArgs index area with
  | error field => simp [Except.bind]
  | ok first => cases areaListArgs (index + 1) areas <;> simp [Except.bind, Except.map, eq_comm]

theorem areaListArgs_cons_eq_error {area : AreaConfig} :
    areaListArgs index (area :: areas) = .error field ↔
      areaArgs index area = .error field ∨
        ∃ first, areaArgs index area = .ok first ∧
          areaListArgs (index + 1) areas = .error field := by
  rw [areaListArgs_cons]
  cases areaArgs index area with
  | error gap => simp [Except.bind]
  | ok first => cases areaListArgs (index + 1) areas <;> simp [Except.bind, Except.map]

/-- Counting from further on names the same gap further on, and changes no argument. -/
theorem areaListArgs_add (offset index : Nat) (areas : List AreaConfig) :
    areaListArgs (offset + index) areas =
      (areaListArgs index areas).mapError (.shift offset) := by
  induction areas generalizing index with
  | nil => rfl
  | cons area areas ih =>
    rw [areaListArgs_cons, areaListArgs_cons, areaArgs_add, Nat.add_assoc, ih]
    cases areaArgs index area with
    | error field => rfl
    | ok first => cases areaListArgs (index + 1) areas <;> rfl

/-- The second list is gone through only behind the first, and counts on from its end. -/
theorem areaListArgs_append (index : Nat) (xs ys : List AreaConfig) :
    areaListArgs index (xs ++ ys) =
      (areaListArgs index xs).bind fun first =>
        (areaListArgs (xs.length + index) ys).map fun second => first ++ second := by
  induction xs generalizing index with
  | nil =>
    have hzero : ([] : List AreaConfig).length + index = index := Nat.zero_add index
    rw [List.nil_append, hzero]
    show areaListArgs index ys = (areaListArgs index ys).map fun second => [] ++ second
    cases areaListArgs index ys <;> rfl
  | cons x xs ih =>
    have hlength : (x :: xs).length + index = xs.length + (index + 1) := by
      rw [List.length_cons]
      omega
    rw [List.cons_append, areaListArgs_cons, areaListArgs_cons, ih, hlength]
    cases areaArgs index x with
    | error field => rfl
    | ok first =>
      cases areaListArgs (index + 1) xs with
      | error field => rfl
      | ok middle =>
        cases areaListArgs (xs.length + (index + 1)) ys with
        | error field => rfl
        | ok last => exact congrArg Except.ok (List.append_assoc first middle last).symm

theorem length_areaListArgs (h : areaListArgs index areas = .ok args) :
    args.length = 4 * areas.length := by
  induction areas generalizing index args with
  | nil =>
    cases h
    rfl
  | cons area areas ih =>
    obtain ⟨first, rest, hfirst, hrest, rfl⟩ := areaListArgs_cons_eq_ok.mp h
    have hfour : first.length = 4 := length_areaArgs hfirst
    have hmore : rest.length = 4 * areas.length := ih hrest
    rw [List.length_append, List.length_cons]
    omega

/-- The gap that ends the way through areas is in one of them. -/
theorem area_of_areaListArgs_eq_error (h : areaListArgs index areas = .error field) :
    ∃ i, index ≤ i ∧ i < index + areas.length ∧ (field = .areaNum i ∨ field = .areaZones i) := by
  induction areas generalizing index with
  | nil => cases h
  | cons area areas ih =>
    rw [List.length_cons]
    rcases areaListArgs_cons_eq_error.mp h with hfirst | ⟨first, -, hrest⟩
    · exact ⟨index, Nat.le_refl index, by omega, areaArgs_eq_error hfirst⟩
    · obtain ⟨i, hlow, hhigh, hfield⟩ := ih hrest
      exact ⟨i, by omega, by omega, hfield⟩

end Build

namespace LaunchConfig

variable {c : LaunchConfig} {device : Scalar} {mqtt : MqttConfig}

/-- The configuration with other areas. -/
def withAreas (c : LaunchConfig) (areas : List AreaConfig) : LaunchConfig :=
  { c with areas := some areas }

/-- With device and broker there, the areas alone decide between the command and a gap. -/
theorem build_withAreas (hdevice : c.device = some device) (hmqtt : c.mqtt = some mqtt)
    (areas : List AreaConfig) :
    (c.withAreas areas).build.result =
      (Build.areaListArgs 1 areas).map fun args =>
        ⟨c.binary, Build.headArgs c device mqtt ++ args ++ Build.tailArgs c, c.logFile⟩ := by
  unfold build withAreas
  simp only [hdevice, hmqtt]
  cases Build.areaListArgs 1 areas <;> rfl

/-- The command of two area lists, from what each of them gives. -/
theorem build_withAreas_append (hdevice : c.device = some device) (hmqtt : c.mqtt = some mqtt)
    (xs ys : List AreaConfig) :
    (c.withAreas (xs ++ ys)).build.result =
      (Build.areaListArgs 1 xs).bind fun first =>
        ((Build.areaListArgs 1 ys).mapError (.shift xs.length)).map fun second =>
          ⟨c.binary, Build.headArgs c device mqtt ++ (first ++ second) ++ Build.tailArgs c,
            c.logFile⟩ := by
  rw [build_withAreas hdevice hmqtt, Build.areaListArgs_append, Build.areaListArgs_add]
  cases Build.areaListArgs 1 xs with
  | error field => rfl
  | ok first => cases Build.areaListArgs 1 ys <;> rfl

theorem build_withAreas_eq_ok (hdevice : c.device = some device) (hmqtt : c.mqtt = some mqtt)
    {areas : List AreaConfig} {command : LaunchCommand} :
    (c.withAreas areas).build.result = .ok command ↔
      ∃ args, Build.areaListArgs 1 areas = .ok args ∧ command =
        ⟨c.binary, Build.headArgs c device mqtt ++ args ++ Build.tailArgs c, c.logFile⟩ := by
  rw [build_withAreas hdevice hmqtt]
  cases Build.areaListArgs 1 areas with
  | error field => simp [Except.map]
  | ok args => simp [Except.map, eq_comm]

theorem build_withAreas_eq_error (hdevice : c.device = some device) (hmqtt : c.mqtt = some mqtt)
    {areas : List AreaConfig} {field : RequiredField} :
    (c.withAreas areas).build.result = .error field ↔
      Build.areaListArgs 1 areas = .error field := by
  rw [build_withAreas hdevice hmqtt]
  cases Build.areaListArgs 1 areas <;> simp [Except.map]

/--
**The arguments of area lists follow one another.** A derivation over two lists succeeds just if it
does over each of them, and then puts the arguments of both, four for an area, between the same head
and tail. A gap of the first list ends it alike; one of the second ends it as far behind the first
list as it stands in its own.
-/
theorem build_append_areas (hdevice : c.device = some device) (hmqtt : c.mqtt = some mqtt) :
    (∀ xs ys, (∃ command, (c.withAreas (xs ++ ys)).build.result = .ok command) ↔
      (∃ command, (c.withAreas xs).build.result = .ok command) ∧
        ∃ command, (c.withAreas ys).build.result = .ok command) ∧
    (∃ head tail : List String, ∀ xs ys first second,
      (c.withAreas xs).build.result = .ok first → (c.withAreas ys).build.result = .ok second →
      ∃ a b both, (c.withAreas (xs ++ ys)).build.result = .ok both ∧
        first.args = head ++ a ++ tail ∧ second.args = head ++ b ++ tail ∧
        both.args = head ++ a ++ b ++ tail ∧
        a.length = 4 * xs.length ∧ b.length = 4 * ys.length) ∧
    (∀ xs ys field, (c.withAreas xs).build.result = .error field →
      (c.withAreas (xs ++ ys)).build.result = .error field) ∧
    (∀ xs ys first field, (c.withAreas xs).build.result = .ok first →
      (c.withAreas ys).build.result = .error field →
      ∃ i, 1 ≤ i ∧ i ≤ ys.length ∧
        (field = .areaNum i ∧
            (c.withAreas (xs ++ ys)).build.result = .error (.areaNum (xs.length + i)) ∨
          field = .areaZones i ∧
            (c.withAreas (xs ++ ys)).build.result = .error (.areaZones (xs.length + i)))) := by
  refine ⟨?both, ⟨Build.headArgs c device mqtt, Build.tailArgs c, ?args⟩, ?first, ?second⟩
  case both =>
    intro xs ys
    rw [build_withAreas_append hdevice hmqtt, build_withAreas hdevice hmqtt,
      build_withAreas hdevice hmqtt]
    cases Build.areaListArgs 1 xs with
    | error field => simp [Except.bind, Except.map]
    | ok first =>
      cases Build.areaListArgs 1 ys with
      | error field => simp [Except.bind, Except.map, Except.mapError]
      | ok second => simp [Except.bind, Except.map, Except.mapError]
  case args =>
    intro xs ys first second hfirst hsecond
    obtain ⟨a, ha, rfl⟩ := (build_withAreas_eq_ok hdevice hmqtt).mp hfirst
    obtain ⟨b, hb, rfl⟩ := (build_withAreas_eq_ok hdevice hmqtt).mp hsecond
    have hboth : (c.withAreas (xs ++ ys)).build.result = .ok
        ⟨c.binary, Build.headArgs c device mqtt ++ (a ++ b) ++ Build.tailArgs c, c.logFile⟩ := by
      rw [build_withAreas_append hdevice hmqtt, ha, hb]
      rfl
    refine ⟨a, b, _, hboth, rfl, rfl, ?_, Build.length_areaListArgs ha,
      Build.length_areaListArgs hb⟩
    simp only [List.append_assoc]
  case first =>
    intro xs ys field hfield
    rw [build_withAreas_eq_error hdevice hmqtt] at hfield
    rw [build_withAreas_append hdevice hmqtt, hfield]
    rfl
  case second =>
    intro xs ys first field hfirst hfield
    obtain ⟨a, ha, -⟩ := (build_withAreas_eq_ok hdevice hmqtt).mp hfirst
    rw [build_withAreas_eq_error hdevice hmqtt] at hfield
    have hboth : (c.withAreas (xs ++ ys)).build.result = .error (field.shift xs.length) := by
      rw [build_withAreas_append hdevice hmqtt, ha, hfield]
      rfl
    obtain ⟨i, hlow, hhigh, hkind⟩ := Build.area_of_areaListArgs_eq_error hfield
    refine ⟨i, hlow, by omega, ?_⟩
    rcases hkind with rfl | rfl
    · exact .inl ⟨rfl, hboth⟩
    · exact .inr ⟨rfl, hboth⟩

/-- Two areas behind a first one; the second of them lacks its zones. -/
theorem build_append_areas_gap :
    (flagLike.withAreas [⟨some (.text "1"), some []⟩]).build.result = .ok
      ⟨defaultBinary, ["-v", "-d", "-v", "--mqtt_server=--mqtt_port=1", "--mqtt_topic=",
        "-a", "1", "-z", "", "-u", "-S", "-S", "-u"], none⟩ ∧
    (flagLike.withAreas [⟨some (.text "2"), some []⟩, ⟨some (.text "3"), none⟩]).build.result =
      .error (.areaZones 2) ∧
    (flagLike.withAreas ([⟨some (.text "1"), some []⟩] ++
      [⟨some (.text "2"), some []⟩, ⟨some (.text "3"), none⟩])).build.result =
      .error (.areaZones 3) := by
  obtain ⟨-, -, -, hsecond⟩ := build_append_areas (c := flagLike) rfl rfl
  have hfirst : (flagLike.withAreas [⟨some (.text "1"), some []⟩]).build.result = .ok
      ⟨defaultBinary, ["-v", "-d", "-v", "--mqtt_server=--mqtt_port=1", "--mqtt_topic=",
        "-a", "1", "-z", "", "-u", "-S", "-S", "-u"], none⟩ := by
    decide
  have hgap : (flagLike.withAreas
      [⟨some (.text "2"), some []⟩, ⟨some (.text "3"), none⟩]).build.result =
        .error (.areaZones 2) :=
    rfl
  obtain ⟨i, -, -, ⟨hfield, -⟩ | ⟨hfield, hboth⟩⟩ := hsecond _ _ _ _ hfirst hgap
  · cases hfield
  · cases hfield
    exact ⟨hfirst, hgap, hboth⟩

end LaunchConfig

end PanelLauncher
