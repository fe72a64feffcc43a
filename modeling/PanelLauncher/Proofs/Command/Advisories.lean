import Mathlib.Data.List.Forall2
import PanelLauncher.Proofs.Command.Areas
import PanelLauncher.Proofs.Launch.Stage

/-!
# Broker options and the log of a derivation

Each broker option that carries a value is told once: to the daemon if the configuration has it,
else in the log, each time in the order of the options (`MqttConfig.told`, `MqttConfig.untold`). A
derivation that ends early has logged the beginning of what it logs when the gaps are filled
(`LaunchConfig.broker_options_accounted`).
-/

namespace PanelLauncher

/-- The broker option of a setting, with its value. -/
def Setting.broker? : Setting → Option (MqttOption × String)
  | valued (.mqtt o) value => some (o, value)
  | _ => none

/-- The broker option that a remark is about. -/
def Advisory.option? : Advisory → Option MqttOption
  | absentOption o => some o
  | _ => none

/-- The broker option that an event is about. -/
def Log.Event.option? : Log.Event → Option MqttOption
  | advisory a => a.option?
  | _ => none

/-- What a derivation logs, up to where it ended. -/
def LaunchConfig.buildEvents (c : LaunchConfig) : List Log.Event :=
  c.build.advisories.map .advisory

namespace MqttConfig

variable (mqtt : MqttConfig)

/-- The options that have a value, each with its text. -/
def told : List (MqttOption × String) :=
  MqttOption.all.filterMap fun o => (o.value mqtt).map fun v => (o, v.render)

/-- The options that have none. -/
def untold : List MqttOption :=
  MqttOption.all.filter fun o => (o.value mqtt).isNone

variable {mqtt}

theorem mem_told {o : MqttOption} {value : String} :
    (o, value) ∈ mqtt.told ↔ (o.value mqtt).map Scalar.render = some value := by
  have hall : o ∈ MqttOption.all := by cases o <;> decide
  simp only [told, List.mem_filterMap, Option.map_eq_some_iff, Prod.mk.injEq]
  constructor
  · rintro ⟨o', -, v, hv, rfl, rfl⟩
    exact ⟨v, hv, rfl⟩
  · rintro ⟨v, hv, rfl⟩
    exact ⟨o, hall, v, hv, rfl, rfl⟩

theorem map_fst_told :
    mqtt.told.map Prod.fst = MqttOption.all.filter fun o => (o.value mqtt).isSome := by
  have hfst (o : MqttOption) : ((o.value mqtt).map fun v => (o, v.render)).map Prod.fst =
      Option.guard (fun o => (o.value mqtt).isSome) o := by
    cases hvalue : o.value mqtt <;> simp [Option.guard, hvalue]
  rw [told, List.map_filterMap, ← List.filterMap_eq_filter]
  exact congrArg (List.filterMap · MqttOption.all) (funext hfst)

/-- An option is told or untold, and either way once. -/
theorem count_told_add_count_untold (o : MqttOption) :
    (mqtt.told.map Prod.fst).count o + mqtt.untold.count o = 1 := by
  have hone : MqttOption.all.count o = 1 := by cases o <;> decide
  rw [map_fst_told, untold]
  cases hvalue : o.value mqtt with
  | none =>
    have htold : o ∉ MqttOption.all.filter fun o => (o.value mqtt).isSome := by
      simp [List.mem_filter, hvalue]
    rw [List.count_eq_zero_of_not_mem htold, List.count_filter (by simp [hvalue]), hone]
  | some v =>
    have huntold : o ∉ MqttOption.all.filter fun o => (o.value mqtt).isNone := by
      simp [List.mem_filter, hvalue]
    rw [List.count_eq_zero_of_not_mem huntold, List.count_filter (by simp [hvalue]), hone]

end MqttConfig

/-! ## What becomes an argument -/

namespace Build

theorem mqttArgs_eq_told (mqtt : MqttConfig) :
    mqttArgs mqtt = (mqtt.told.map fun (o, value) => s!"--mqtt_{o.name}={value}") ++
      switch "-r" mqtt.retain := by
  have hflag (o : MqttOption) (value : String) :
      o.flag ++ value = s!"--mqtt_{o.name}={value}" := by
    cases o <;> rfl
  have harg (o : MqttOption) : ((o.value mqtt).map fun v => (o, v.render)).map
      (fun (o, value) => s!"--mqtt_{o.name}={value}") =
        (o.value mqtt).map fun v => o.flag ++ v.render := by
    cases o.value mqtt with
    | none => rfl
    | some v => exact congrArg some (hflag o v.render).symm
  rw [mqttArgs, MqttConfig.told, List.map_filterMap]
  exact congrArg (List.filterMap · MqttOption.all ++ _) (funext fun o => (harg o).symm)

end Build

namespace Setting

theorem filterMap_broker?_switchIf (s : Switch) (on : Bool) :
    (switchIf s on).filterMap broker? = [] := by
  cases on <;> rfl

theorem filterMap_broker?_valuedIf {v : Valued} (h : ∀ o, v ≠ .mqtt o) (value : Option String) :
    (valuedIf v value).filterMap broker? = [] := by
  cases value with
  | none => rfl
  | some value =>
    cases v with
    | mqtt o => exact absurd rfl (h o)
    | _ => rfl

theorem filterMap_broker?_areas (areas : List CompleteArea) :
    (areas.flatMap CompleteArea.settings).filterMap broker? = [] := by
  induction areas with
  | nil => rfl
  | cons area areas ih => rw [List.flatMap_cons, List.filterMap_append, ih]; rfl

theorem filterMap_broker?_mqtt (mqtt : MqttConfig) :
    (MqttOption.all.flatMap fun o =>
      valuedIf (.mqtt o) ((o.value mqtt).map Scalar.render)).filterMap broker? = mqtt.told := by
  have hvalue (o : MqttOption) :
      (valuedIf (.mqtt o) ((o.value mqtt).map Scalar.render)).filterMap broker? =
        ((o.value mqtt).map fun v => (o, v.render)).toList := by
    cases o.value mqtt <;> rfl
  rw [List.filterMap_flatMap, MqttConfig.told, List.filterMap_eq_flatMap_toList]
  exact congrArg (List.flatMap · MqttOption.all) (funext hvalue)

end Setting

namespace LaunchConfig

variable {c c' : LaunchConfig} {device : Scalar} {mqtt : MqttConfig}

theorem filterMap_broker?_settings (areas : List CompleteArea) :
    (c.settings device mqtt areas).filterMap Setting.broker? = mqtt.told := by
  simp only [settings, List.filterMap_append, Setting.filterMap_broker?_switchIf,
    Setting.filterMap_broker?_valuedIf (v := .device) (by simp),
    Setting.filterMap_broker?_valuedIf (v := .userCode) (by simp),
    Setting.filterMap_broker?_valuedIf (v := .statusPeriod) (by simp),
    Setting.filterMap_broker?_areas, Setting.filterMap_broker?_mqtt, List.nil_append,
    List.append_nil]

/-- Whoever reads the arguments of a command finds just these broker options. -/
theorem read?_args_eq_told (hmqtt : c.mqtt = some mqtt) {command : LaunchCommand}
    (h : c.build.result = .ok command) :
    ∃ settings, Setting.read? command.args = some settings ∧
      settings.filterMap Setting.broker? = mqtt.told := by
  obtain ⟨device, mqtt', areas, -, hmqtt', -, hargs⟩ := build_eq_ok h
  cases hmqtt.symm.trans hmqtt'
  refine ⟨c.settings device mqtt areas, ?_, filterMap_broker?_settings areas⟩
  rw [hargs, Setting.read?_flatMap_args]

/-- The broker's arguments stand together, whatever stands around them. -/
theorem exists_args_eq (hmqtt : c.mqtt = some mqtt) {command : LaunchCommand}
    (h : c.build.result = .ok command) :
    ∃ before after, command.args = before ++ Build.mqttArgs mqtt ++ after := by
  unfold build at h
  cases hdevice : c.device with
  | none => simp [hdevice] at h
  | some device =>
    cases hareas : c.areas with
    | none => simp [hdevice, hmqtt, hareas] at h
    | some areas =>
      cases hargs : Build.areaListArgs 1 areas with
      | error field => simp [hdevice, hmqtt, hareas, hargs] at h
      | ok args =>
        simp only [hdevice, hmqtt, hareas, hargs, Except.ok.injEq] at h
        refine ⟨Build.switch "-v" c.verbose ++ Build.switch "-D" c.daemon ++ ["-d", device.render],
          args ++ Build.tailArgs c, ?_⟩
        rw [← h, Build.headArgs, List.append_assoc _ args]

/-! ## What is logged -/

/-- The remarks on the broker come first, whether or not the areas have a gap. -/
theorem advisories_of_mqtt (hdevice : c.device = some device) (hmqtt : c.mqtt = some mqtt) :
    ∃ rest, c.build.advisories = Build.mqttAdvisories mqtt ++ rest ∧
      rest.filterMap Advisory.option? = [] := by
  have hareas (areas : List AreaConfig) :
      (Build.areaAdvisories areas).filterMap Advisory.option? = [] := by
    cases areas <;> rfl
  have hcode (code : Option Scalar) :
      (Build.userCodeAdvisories code).filterMap Advisory.option? = [] := by
    unfold Build.userCodeAdvisories
    split <;> rfl
  unfold build
  simp only [hdevice, hmqtt]
  cases c.areas with
  | none => exact ⟨[], (List.append_nil _).symm, rfl⟩
  | some areas =>
    dsimp only
    cases Build.areaListArgs 1 areas with
    | error field => exact ⟨_, rfl, hareas areas⟩
    | ok args =>
      refine ⟨_, List.append_assoc .., ?_⟩
      rw [List.filterMap_append, hareas, hcode, List.append_nil]

theorem filterMap_option?_buildEvents (hdevice : c.device = some device)
    (hmqtt : c.mqtt = some mqtt) :
    c.buildEvents.filterMap Log.Event.option? = mqtt.untold := by
  obtain ⟨rest, hrest, hnone⟩ := advisories_of_mqtt hdevice hmqtt
  have hadvisory (o : MqttOption) :
      (if (o.value mqtt).isNone then some (Advisory.absentOption o) else none).bind
        Advisory.option? = Option.guard (fun o => (o.value mqtt).isNone) o := by
    cases hvalue : o.value mqtt <;> simp [Option.guard, hvalue, Advisory.option?]
  have hevent : Log.Event.option? ∘ Log.Event.advisory = Advisory.option? := rfl
  rw [buildEvents, List.filterMap_map, hevent, hrest, List.filterMap_append, hnone,
    List.append_nil, Build.mqttAdvisories, List.filterMap_filterMap, MqttConfig.untold,
    ← List.filterMap_eq_filter]
  exact congrArg (List.filterMap · MqttOption.all) (funext hadvisory)

/-- An absent server is warned of, any other absent option is a matter of debugging; the message
names the option. -/
theorem level_of_option? {e : Log.Event} {o : MqttOption} (h : e.option? = some o) :
    e.level = (if o = .server then .warn else .debug) ∧
      ∃ rest : String, e.message = s!"No MQTT {o.name} in config{rest}" := by
  cases e with
  | advisory a =>
    cases a with
    | absentOption o' =>
      cases h
      cases o with
      | server => exact ⟨rfl, "!", rfl⟩
      | _ => exact ⟨rfl, ", using paraevo default", rfl⟩
    | _ => cases h
  | _ => cases h

end LaunchConfig

/-! ## Filling gaps -/

/-- An area with what another one has, and possibly with more. -/
structure AreaConfig.FilledBy (area area' : AreaConfig) : Prop where
  num : ∀ v, area.num = some v → area'.num = some v
  zones : ∀ vs, area.zones = some vs → area'.zones = some vs

namespace LaunchConfig

/-- A configuration in which required entries that were absent may have been added, and nothing
else is different. -/
structure FilledBy (c c' : LaunchConfig) : Prop where
  device : ∀ v, c.device = some v → c'.device = some v
  mqtt : ∀ v, c.mqtt = some v → c'.mqtt = some v
  areas : ∀ areas, c.areas = some areas →
    ∃ areas', c'.areas = some areas' ∧ List.Forall₂ AreaConfig.FilledBy areas areas'
  others : c' = { c with device := c'.device, mqtt := c'.mqtt, areas := c'.areas }

variable {c c' : LaunchConfig} {device : Scalar} {mqtt : MqttConfig}

theorem areaAdvisories_of_filledBy {areas areas' : List AreaConfig}
    (h : List.Forall₂ AreaConfig.FilledBy areas areas') :
    Build.areaAdvisories areas' = Build.areaAdvisories areas := by
  cases h <;> rfl

/-- Complete areas have no gap to be filled. -/
theorem eq_of_filledBy {areas : List CompleteArea} {areas' : List AreaConfig}
    (h : List.Forall₂ AreaConfig.FilledBy (areas.map CompleteArea.toConfig) areas') :
    areas' = areas.map CompleteArea.toConfig := by
  induction areas generalizing areas' with
  | nil => cases h; rfl
  | cons area areas ih =>
    obtain ⟨area', rest, hfirst, hrest, rfl⟩ := List.forall₂_cons_left_iff.mp h
    have hsame : area' = area.toConfig := by
      obtain ⟨num, zones⟩ := area'
      cases hfirst.num _ rfl
      cases hfirst.zones _ rfl
      rfl
    rw [hsame, ih hrest, List.map_cons]

/-- A derivation logs the beginning of what it logs when gaps are filled: no remark depends on what
is looked at only after it. -/
theorem FilledBy.buildEvents_prefix (h : c.FilledBy c') : c.buildEvents <+: c'.buildEvents := by
  refine List.IsPrefix.map _ ?_
  cases hdevice : c.device with
  | none => simp [build, hdevice]
  | some device =>
    cases hmqtt : c.mqtt with
    | none => simp [build, hdevice, hmqtt]
    | some mqtt =>
      have hdevice' := h.device _ hdevice
      have hmqtt' := h.mqtt _ hmqtt
      cases hareas : c.areas with
      | none =>
        obtain ⟨rest, hrest, -⟩ := advisories_of_mqtt hdevice' hmqtt'
        simp [build.eq_def c, hdevice, hmqtt, hareas, hrest]
      | some areas =>
        obtain ⟨areas', hareas', hfilled⟩ := h.areas _ hareas
        have hadvisories := areaAdvisories_of_filledBy hfilled
        cases hargs : Build.areaListArgs 1 areas with
        | error field =>
          -- the areas are there, so that the remark on them has been made before the gap
          unfold build
          simp only [hdevice, hmqtt, hareas, hargs, hdevice', hmqtt', hareas', hadvisories]
          cases Build.areaListArgs 1 areas' with
          | error field' => exact List.prefix_rfl
          | ok args => exact List.prefix_append _ _
        | ok args =>
          obtain ⟨complete, rfl, -⟩ := Build.areaListArgs_eq_ok hargs
          cases eq_of_filledBy hfilled
          have hsame : c' = c := by
            rw [h.others, hdevice', hmqtt', hareas', ← hdevice, ← hmqtt, ← hareas]
          exact hsame ▸ List.prefix_rfl

/--
**No broker option vanishes, and the log of a derivation is a beginning.** With device and broker
there, each broker option is either an argument with its value or the subject of one event, in the
order of the options, and no other broker option is read from a command. What is logged is a
beginning of what is logged when gaps are filled, wherever the derivation ended.
-/
theorem broker_options_accounted (c : LaunchConfig) :
    (∀ files, (Launch.derive c files).happenings = c.buildEvents.map .logged) ∧
    (∀ device mqtt, c.device = some device → c.mqtt = some mqtt →
      ∃ told : List (MqttOption × String),
        Build.mqttArgs mqtt = (told.map fun (o, value) => s!"--mqtt_{o.name}={value}") ++
          Build.switch "-r" mqtt.retain ∧
        (∀ command, c.build.result = .ok command →
          (∃ before after, command.args = before ++ Build.mqttArgs mqtt ++ after) ∧
          ∃ settings, Setting.read? command.args = some settings ∧
            settings.filterMap Setting.broker? = told) ∧
        (∀ o value, (o, value) ∈ told ↔ (o.value mqtt).map Scalar.render = some value) ∧
        (∀ o, (told.map Prod.fst).count o +
          (c.buildEvents.filterMap Log.Event.option?).count o = 1) ∧
        (told.map Prod.fst).Sublist [.server, .port, .topic, .login, .password] ∧
        (c.buildEvents.filterMap Log.Event.option?).Sublist
          [.server, .port, .topic, .login, .password]) ∧
    (∀ e ∈ c.buildEvents, ∀ o, e.option? = some o →
      e.level = (if o = .server then .warn else .debug) ∧
        ∃ rest : String, e.message = s!"No MQTT {o.name} in config{rest}") ∧
    ∀ c' : LaunchConfig, c.FilledBy c' → c.buildEvents <+: c'.buildEvents := by
  refine ⟨fun files => ?logged, fun device mqtt hdevice hmqtt => ⟨mqtt.told,
    Build.mqttArgs_eq_told mqtt, fun command hcommand =>
      ⟨exists_args_eq hmqtt hcommand, read?_args_eq_told hmqtt hcommand⟩,
    fun o value => MqttConfig.mem_told, fun o => ?once, ?told, ?untold⟩,
    fun e _ o => level_of_option?, fun c' h => h.buildEvents_prefix⟩
  case logged => simp [Launch.derive, buildEvents]
  case once =>
    rw [filterMap_option?_buildEvents hdevice hmqtt]
    exact MqttConfig.count_told_add_count_untold o
  case told =>
    rw [MqttConfig.map_fst_told]
    exact List.filter_sublist
  case untold =>
    rw [filterMap_option?_buildEvents hdevice hmqtt]
    exact List.filter_sublist

/-- A configuration that has no areas, and little else. -/
def unlisted : LaunchConfig :=
  { empty with
    device := some (.text "d")
    mqtt := some { MqttConfig.empty with port := some (.text "1") }
    userCode := some (.text "") }

/-- With areas, more is logged behind the same beginning; the port is an argument in both. -/
theorem broker_options_accounted_unlisted :
    unlisted.build.result = .error .areas ∧
    (unlisted.withAreas []).build.result =
      .ok ⟨defaultBinary, ["-d", "d", "--mqtt_port=1"], none⟩ ∧
    unlisted.buildEvents <+: (unlisted.withAreas []).buildEvents ∧
    (unlisted.buildEvents.filterMap Log.Event.option?).Sublist
      [.server, .port, .topic, .login, .password] := by
  obtain ⟨-, haccounted, -, hfilled⟩ := broker_options_accounted unlisted
  obtain ⟨-, -, -, -, -, -, huntold⟩ := haccounted _ _ rfl rfl
  exact ⟨rfl, by decide, hfilled (unlisted.withAreas []) ⟨fun _ h => h, fun _ h => h, nofun, rfl⟩,
    huntold⟩

end LaunchConfig

end PanelLauncher
