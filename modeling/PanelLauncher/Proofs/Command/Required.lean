import PanelLauncher.Proofs.Command.Options

/-!
# The entries that a command needs

The required entries of a configuration have an order, in which those of the areas come last, area
by area. A build fails just if one of them is absent, and then names the first that is; what else a
configuration says has no part in this (`LaunchConfig.build_names_first_gap`).
-/

namespace PanelLauncher

/-- What an area has to have, each entry with whether it is there. -/
def AreaConfig.required (area : AreaConfig) (index : Nat) : List (RequiredField × Bool) :=
  [(.areaNum index, area.num.isSome), (.areaZones index, area.zones.isSome)]

/-- What areas have to have, the first of which is number `index`. -/
def AreaConfig.requiredOfList (index : Nat) (areas : List AreaConfig) :
    List (RequiredField × Bool) :=
  (areas.zipIdx index).flatMap fun (area, i) => area.required i

/-- What a configuration has to have, in order, each entry with whether it is there. -/
def LaunchConfig.required (c : LaunchConfig) : List (RequiredField × Bool) :=
  [(.device, c.device.isSome), (.mqtt, c.mqtt.isSome), (.areas, c.areas.isSome)] ++
    AreaConfig.requiredOfList 1 (c.areas.getD [])

/-! ## The first gap -/

/-- The first entry that is absent. -/
def firstGap? (entries : List (RequiredField × Bool)) : Option RequiredField :=
  (entries.find? (!·.2)).map (·.1)

@[simp] theorem firstGap?_nil : firstGap? [] = none := rfl

@[simp] theorem firstGap?_cons_true (field : RequiredField)
    (entries : List (RequiredField × Bool)) :
    firstGap? ((field, true) :: entries) = firstGap? entries := rfl

@[simp] theorem firstGap?_cons_false (field : RequiredField)
    (entries : List (RequiredField × Bool)) :
    firstGap? ((field, false) :: entries) = some field := rfl

theorem firstGap?_eq_some {entries : List (RequiredField × Bool)} {field : RequiredField} :
    firstGap? entries = some field ↔
      ∃ before after, entries = before ++ (field, false) :: after ∧ ∀ e ∈ before, e.2 = true := by
  unfold firstGap?
  constructor
  · intro h
    obtain ⟨⟨found, there⟩, hfind, rfl⟩ := Option.map_eq_some_iff.mp h
    obtain ⟨hthere, before, after, rfl, hbefore⟩ := List.find?_eq_some_iff_append.mp hfind
    cases there with
    | true => cases hthere
    | false => exact ⟨before, after, rfl, by simpa using hbefore⟩
  · rintro ⟨before, after, rfl, hbefore⟩
    have hfind : (before ++ (field, false) :: after).find? (!·.2) = some (field, false) :=
      List.find?_eq_some_iff_append.mpr ⟨rfl, before, after, rfl, by simpa using hbefore⟩
    rw [hfind, Option.map_some]

theorem firstGap?_eq_none {entries : List (RequiredField × Bool)} :
    firstGap? entries = none ↔ ∀ e ∈ entries, e.2 = true := by
  simp [firstGap?]

/-! ## The gap that a build names -/

/-- Going through areas ends at the first gap, counted from where it began. -/
theorem Build.areaListArgs_eq_error {index : Nat} {areas : List AreaConfig}
    {field : RequiredField} :
    areaListArgs index areas = .error field ↔
      firstGap? (AreaConfig.requiredOfList index areas) = some field := by
  induction areas generalizing index with
  | nil => simp [areaListArgs, AreaConfig.requiredOfList]
  | cons area areas ih =>
    have hrequired : AreaConfig.requiredOfList index (area :: areas) =
        area.required index ++ AreaConfig.requiredOfList (index + 1) areas := by
      simp [AreaConfig.requiredOfList, List.zipIdx_cons]
    rw [hrequired]
    obtain ⟨num, zones⟩ := area
    cases num with
    | none => simp [areaListArgs, areaArgs, AreaConfig.required, bind, Except.bind]
    | some num =>
      cases zones with
      | none => simp [areaListArgs, areaArgs, AreaConfig.required, bind, Except.bind]
      | some zones =>
        -- nothing is missing here, so the gap is that of the areas behind it
        have hrest : firstGap? (AreaConfig.required ⟨some num, some zones⟩ index ++
            AreaConfig.requiredOfList (index + 1) areas) =
              firstGap? (AreaConfig.requiredOfList (index + 1) areas) := by
          simp [AreaConfig.required]
        rw [hrest, ← ih]
        cases hargs : areaListArgs (index + 1) areas with
        | error gap => simp [areaListArgs, areaArgs, hargs, bind, Except.bind]
        | ok args =>
          simp [areaListArgs, areaArgs, hargs, bind, Except.bind, pure, Except.pure]

namespace LaunchConfig

variable {c : LaunchConfig}

theorem build_eq_error {field : RequiredField} :
    c.build.result = .error field ↔ firstGap? c.required = some field := by
  unfold build required
  cases hdevice : c.device with
  | none => simp
  | some device =>
    cases hmqtt : c.mqtt with
    | none => simp
    | some mqtt =>
      cases hareas : c.areas with
      | none => simp
      | some areas =>
        have hgap : firstGap? ([(.device, true), (.mqtt, true), (.areas, true)] ++
            AreaConfig.requiredOfList 1 areas) =
              firstGap? (AreaConfig.requiredOfList 1 areas) := rfl
        simp only [Option.isSome_some, Option.getD_some, hgap, ← Build.areaListArgs_eq_error]
        cases hargs : Build.areaListArgs 1 areas with
        | error gap => simp
        | ok args => simp

/-- A command has all that the configuration says, every area included. -/
def IsWhole (c : LaunchConfig) (command : LaunchCommand) : Prop :=
  ∃ (device : Scalar) (mqtt : MqttConfig) (areas : List CompleteArea),
    c.device = some device ∧ c.mqtt = some mqtt ∧
    c.areas = some (areas.map CompleteArea.toConfig) ∧
    command = ⟨c.binary, (c.settings device mqtt areas).flatMap Setting.args, c.logFile⟩

theorem isWhole_of_build {command : LaunchCommand} (h : c.build.result = .ok command) :
    c.IsWhole command := by
  obtain ⟨device, mqtt, areas, hdevice, hmqtt, hareas, hargs⟩ := build_eq_ok h
  refine ⟨device, mqtt, areas, hdevice, hmqtt, hareas, ?_⟩
  rw [← hargs]
  unfold build at h
  simp only [hdevice, hmqtt, hareas] at h
  split at h
  · cases h
  · cases h
    rfl

/--
**A build names the first gap.** It fails just if a required entry is absent, and then with the
first one, all before it being there; otherwise it gives the whole command. Two configurations that
agree on which required entries are there fail alike, whatever else they say.
-/
theorem build_names_first_gap (c : LaunchConfig) :
    (∀ field, c.build.result = .error field ↔
      ∃ before after, c.required = before ++ (field, false) :: after ∧
        ∀ e ∈ before, e.2 = true) ∧
    ((∃ command, c.build.result = .ok command) ↔ ∀ e ∈ c.required, e.2 = true) ∧
    (∀ command, c.build.result = .ok command → c.IsWhole command) ∧
    ∀ c' : LaunchConfig, c'.required = c.required →
      ∀ field, c'.build.result = .error field ↔ c.build.result = .error field := by
  refine ⟨?error, ?ok, fun _ => isWhole_of_build, ?alike⟩
  case error =>
    intro field
    rw [build_eq_error, firstGap?_eq_some]
  case ok =>
    rw [← firstGap?_eq_none]
    constructor
    · rintro ⟨command, hcommand⟩
      cases hgap : firstGap? c.required with
      | none => rfl
      | some field =>
        rw [build_eq_error.mpr hgap] at hcommand
        cases hcommand
    · intro hgap
      cases hresult : c.build.result with
      | ok command => exact ⟨command, rfl⟩
      | error field =>
        rw [build_eq_error.mp hresult] at hgap
        cases hgap
  case alike =>
    intro c' hrequired field
    rw [build_eq_error, build_eq_error, hrequired]

/-- The zones of the first area are missed before the number of the second. -/
example (mqtt : MqttConfig) (num : Scalar) :
    ({ empty with
        device := some (.text ""), mqtt := some mqtt
        areas := some [⟨some num, none⟩, ⟨none, some []⟩] } : LaunchConfig).build.result =
      .error (.areaZones 1) :=
  rfl

end LaunchConfig

end PanelLauncher
