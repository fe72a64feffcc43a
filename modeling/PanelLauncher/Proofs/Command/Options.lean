import Mathlib.Data.List.Basic
import PanelLauncher.Command.Options

/-!
# The arguments of a command, read back

Settings that have been written as arguments are read back as they were (`read?_flatMap_args`): an
option is told by its argument alone, whatever the values around it look like. The arguments of a
built command are such settings, each option once, so that what the daemon is told is what the
configuration asks for.
-/

namespace PanelLauncher

/-! ## Reading settings back -/

theorem MqttOption.toList_flag (o : MqttOption) :
    o.flag.toList = '-' :: '-' :: 'm' :: 'q' :: 't' :: 't' :: '_' :: (o.name.toList ++ ['=']) := by
  cases o <;> rfl

/-- The option of an argument is the one whose flag it begins with. -/
theorem Valued.ofArg?_flag_append (o : MqttOption) (value : String) :
    ofArg? (o.flag ++ value) = some (.mqtt o, value) := by
  cases o <;>
    simp [ofArg?, joined, MqttOption.all, Valued.flag, MqttOption.toList_flag, MqttOption.name,
      List.findSome?]

/-- Two hyphens begin none of the other flags. -/
theorem Setting.read?_of_two_hyphens {arg : String} {cs : List Char}
    (harg : arg.toList = '-' :: '-' :: cs) (args : List String) :
    read? (arg :: args) =
      (Valued.ofArg? arg).bind fun (o, value) => (read? args).map (.valued o value :: ·) := by
  have hswitch : Switch.all.find? (·.flag = arg) = none := by
    rw [List.find?_eq_none]
    rintro s - hs
    rw [← of_decide_eq_true hs] at harg
    cases s <;> cases harg
  have hseparate : Valued.separate.find? (·.flag = arg) = none := by
    rw [List.find?_eq_none]
    intro o ho hs
    rw [← of_decide_eq_true hs] at harg
    simp only [Valued.separate, List.mem_cons, List.not_mem_nil, or_false] at ho
    rcases ho with rfl | rfl | rfl | rfl | rfl <;> cases harg
  rw [read?, hswitch, hseparate]

theorem Setting.read?_args_append (s : Setting) (args : List String) :
    read? (s.args ++ args) = (read? args).map (s :: ·) := by
  cases s with
  | switch s => cases s <;> rfl
  | valued o value =>
    cases o with
    | mqtt o =>
      obtain ⟨cs, harg⟩ : ∃ cs, (o.flag ++ value).toList = '-' :: '-' :: cs := by
        rw [String.toList_append, o.toList_flag]
        exact ⟨_, rfl⟩
      rw [Setting.args, List.cons_append, List.nil_append, read?_of_two_hyphens harg,
        Valued.ofArg?_flag_append]
      rfl
    | _ => rfl

theorem Setting.read?_flatMap_args (ss : List Setting) :
    read? (ss.flatMap Setting.args) = some ss := by
  induction ss with
  | nil => rfl
  | cons s ss ih => rw [List.flatMap_cons, read?_args_append, ih, Option.map_some]

/-! ## The settings of a command -/

/-- An area that has a number and zones. -/
abbrev CompleteArea := Scalar × List Scalar

namespace CompleteArea

def toConfig (area : CompleteArea) : AreaConfig :=
  ⟨some area.1, some area.2⟩

/-- The texts of the number and of the zones. -/
def texts (area : CompleteArea) : String × String :=
  (area.1.render, ",".intercalate (area.2.map Scalar.render))

def settings (area : CompleteArea) : List Setting :=
  [.valued .area area.texts.1, .valued .zones area.texts.2]

end CompleteArea

/-- Arguments come out of areas only if each is complete, and are those of their settings. -/
theorem Build.areaListArgs_eq_ok {index : Nat} {areas : List AreaConfig} {args : List String}
    (h : areaListArgs index areas = .ok args) :
    ∃ complete : List CompleteArea, areas = complete.map CompleteArea.toConfig ∧
      args = (complete.flatMap CompleteArea.settings).flatMap Setting.args := by
  induction areas generalizing index args with
  | nil =>
    cases h
    exact ⟨[], rfl, rfl⟩
  | cons area areas ih =>
    obtain ⟨num, zones⟩ := area
    cases num with
    | none => cases h
    | some num =>
      cases zones with
      | none => cases h
      | some zones =>
        cases hrest : areaListArgs (index + 1) areas with
        | error field => simp [areaListArgs, areaArgs, hrest, bind, Except.bind] at h
        | ok rest =>
          obtain ⟨complete, rfl, rfl⟩ := ih hrest
          simp only [areaListArgs, areaArgs, hrest, bind, Except.bind, pure, Except.pure,
            Except.ok.injEq] at h
          refine ⟨(num, zones) :: complete, rfl, ?_⟩
          rw [← h]
          rfl

/-- A switch that is on. -/
def Setting.switchIf (s : Switch) (on : Bool) : List Setting :=
  if on then [.switch s] else []

/-- An option that is given. -/
def Setting.valuedIf (o : Valued) (value : Option String) : List Setting :=
  value.toList.map (.valued o)

theorem Build.switch_eq (s : Switch) (value : Option Scalar) :
    switch s.flag value = (Setting.switchIf s (isEnabled value)).flatMap Setting.args := by
  unfold switch Setting.switchIf
  split <;> rfl

/-- The text of a user code, unless it is empty. -/
def Scalar.code? (code : Option Scalar) : Option String :=
  (code.map Scalar.render).filter (· ≠ "")

theorem Build.userCodeArgs_eq (code : Option Scalar) :
    userCodeArgs code =
      (Setting.valuedIf .userCode (Scalar.code? code)).flatMap Setting.args := by
  cases code with
  | none => rfl
  | some code =>
    by_cases hcode : code.render = ""
    · simp [userCodeArgs, Setting.valuedIf, Scalar.code?, Option.filter_some, hcode]
    · simp [userCodeArgs, Setting.valuedIf, Scalar.code?, Option.filter_some, hcode, Setting.args,
        Valued.flag]

theorem Build.periodArgs_eq (period : Option Scalar) :
    periodArgs period =
      (Setting.valuedIf .statusPeriod (period.map Scalar.render)).flatMap Setting.args := by
  cases period <;> rfl

theorem Build.mqttArgs_eq (mqtt : MqttConfig) :
    mqttArgs mqtt =
      ((MqttOption.all.flatMap fun o =>
        Setting.valuedIf (.mqtt o) ((o.value mqtt).map Scalar.render)) ++
          Setting.switchIf .retain (isEnabled mqtt.retain)).flatMap Setting.args := by
  have hvalue (o : MqttOption) :
      (Setting.valuedIf (.mqtt o) ((o.value mqtt).map Scalar.render)).flatMap Setting.args =
        ((o.value mqtt).map fun v => o.flag ++ v.render).toList := by
    cases o.value mqtt <;> rfl
  rw [List.flatMap_append, ← Build.switch_eq, List.flatMap_assoc]
  simp only [hvalue, mqttArgs, List.filterMap_eq_flatMap_toList]
  rfl

/-- The settings of a configuration in the order of its arguments. -/
def LaunchConfig.settings (c : LaunchConfig) (device : Scalar) (mqtt : MqttConfig)
    (areas : List CompleteArea) : List Setting :=
  Setting.switchIf .verbose (isEnabled c.verbose) ++
    (Setting.switchIf .daemon (isEnabled c.daemon) ++
      (Setting.valuedIf .device (some device.render) ++
        ((MqttOption.all.flatMap fun o =>
          Setting.valuedIf (.mqtt o) ((o.value mqtt).map Scalar.render)) ++
          (Setting.switchIf .retain (isEnabled mqtt.retain) ++
            (areas.flatMap CompleteArea.settings ++
              (Setting.valuedIf .userCode (Scalar.code? c.userCode) ++
                Setting.valuedIf .statusPeriod (c.statusPeriod.map Scalar.render)))))))

/-- What is required of a configuration is there when its command can be built. -/
theorem LaunchConfig.build_eq_ok {c : LaunchConfig} {command : LaunchCommand}
    (h : c.build.result = .ok command) :
    ∃ (device : Scalar) (mqtt : MqttConfig) (areas : List CompleteArea),
      c.device = some device ∧ c.mqtt = some mqtt ∧
      c.areas = some (areas.map CompleteArea.toConfig) ∧
      command.args = (c.settings device mqtt areas).flatMap Setting.args := by
  unfold build at h
  cases hdevice : c.device with
  | none => simp [hdevice] at h
  | some device =>
    cases hmqtt : c.mqtt with
    | none => simp [hdevice, hmqtt] at h
    | some mqtt =>
      cases hareas : c.areas with
      | none => simp [hdevice, hmqtt, hareas] at h
      | some areas =>
        cases hargs : Build.areaListArgs 1 areas with
        | error field => simp [hdevice, hmqtt, hareas, hargs] at h
        | ok args =>
          simp only [hdevice, hmqtt, hareas, hargs, Except.ok.injEq] at h
          obtain ⟨complete, rfl, rfl⟩ := Build.areaListArgs_eq_ok hargs
          refine ⟨device, mqtt, complete, rfl, rfl, rfl, ?_⟩
          rw [← h]
          simp only [settings, Build.headArgs, Build.tailArgs, List.flatMap_append,
            Build.mqttArgs_eq, Build.userCodeArgs_eq, Build.periodArgs_eq, ← Build.switch_eq,
            List.append_assoc]
          rfl

/-! ## What the daemon is told -/

/-- The options that the settings of a configuration add up to. -/
def LaunchConfig.options (c : LaunchConfig) (device : Scalar) (mqtt : MqttConfig)
    (areas : List CompleteArea) : Options where
  isOn
    | .verbose => isEnabled c.verbose
    | .daemon => isEnabled c.daemon
    | .retain => isEnabled mqtt.retain
  value
    | .device => some device.render
    | .mqtt o => (o.value mqtt).map Scalar.render
    | .userCode => Scalar.code? c.userCode
    | .statusPeriod => c.statusPeriod.map Scalar.render
    | .area => none
    | .zones => none
  areas := areas.map CompleteArea.texts

namespace Options

theorem setOn_of_isOn_eq {o : Options} {s : Switch} {on : Bool} (h : o.isOn s = on) :
    o.setOn s on = o := by
  have hsame : (fun t => if t = s then on else o.isOn t) = o.isOn := by
    funext t
    by_cases ht : t = s
    · rw [if_pos ht, ht, h]
    · rw [if_neg ht]
  rw [setOn, hsame]

theorem setValue_of_value_eq {o : Options} {v : Valued} {value : Option String}
    (h : o.value v = value) : o.setValue v value = o := by
  have hsame : (fun w => if w = v then value else o.value w) = o.value := by
    funext w
    by_cases hw : w = v
    · rw [if_pos hw, hw, h]
    · rw [if_neg hw]
  rw [setValue, hsame]

theorem addAll?_switchIf {o : Options} {s : Switch} (h : o.isOn s = false) (on : Bool)
    (rest : List Setting) :
    o.addAll? (Setting.switchIf s on ++ rest) = (o.setOn s on).addAll? rest := by
  cases on with
  | false => rw [setOn_of_isOn_eq h]; rfl
  | true => simp [Setting.switchIf, addAll?, h]

theorem addAll?_valuedIf {o : Options} {v : Valued} (harea : v ≠ .area) (hzones : v ≠ .zones)
    (h : o.value v = none) (value : Option String) (rest : List Setting) :
    o.addAll? (Setting.valuedIf v value ++ rest) = (o.setValue v value).addAll? rest := by
  cases value with
  | none => rw [setValue_of_value_eq h]; rfl
  | some value => cases v <;> simp_all [Setting.valuedIf, addAll?]

theorem addAll?_areas (o : Options) (areas : List CompleteArea) (rest : List Setting) :
    o.addAll? (areas.flatMap CompleteArea.settings ++ rest) =
      addAll? { o with areas := o.areas ++ areas.map CompleteArea.texts } rest := by
  induction areas generalizing o with
  | nil => simp
  | cons area areas ih =>
    rw [List.flatMap_cons, List.append_assoc, CompleteArea.settings, List.cons_append,
      List.cons_append, List.nil_append, addAll?, ih]
    simp

theorem addAll?_mqtt (value : MqttOption → Option String) {ms : List MqttOption}
    (hms : ms.Nodup) {o : Options} (h : ∀ m ∈ ms, o.value (.mqtt m) = none)
    (rest : List Setting) :
    o.addAll? ((ms.flatMap fun m => Setting.valuedIf (.mqtt m) (value m)) ++ rest) =
      (ms.foldl (fun o m => o.setValue (.mqtt m) (value m)) o).addAll? rest := by
  induction ms generalizing o with
  | nil => rfl
  | cons m ms ih =>
    have hm : Valued.mqtt m ≠ .area ∧ Valued.mqtt m ≠ .zones := by simp
    have hrest : ∀ n ∈ ms, (o.setValue (.mqtt m) (value m)).value (.mqtt n) = none := by
      intro n hn
      have hne : n ≠ m := by
        rintro rfl
        exact (List.nodup_cons.mp hms).1 hn
      simp [setValue, hne, h n (List.mem_cons_of_mem _ hn)]
    rw [List.flatMap_cons, List.append_assoc, addAll?_valuedIf hm.1 hm.2 (h m List.mem_cons_self),
      ih (List.nodup_cons.mp hms).2 hrest, List.foldl_cons]

theorem addAll?_settings (c : LaunchConfig) (device : Scalar) (mqtt : MqttConfig)
    (areas : List CompleteArea) :
    empty.addAll? (c.settings device mqtt areas) = some (c.options device mqtt areas) := by
  have hlast (o : Options) (h : o.value .statusPeriod = none) (value : Option String) :
      o.addAll? (Setting.valuedIf .statusPeriod value) =
        some (o.setValue .statusPeriod value) := by
    have := addAll?_valuedIf (by decide) (by decide) h value []
    rwa [List.append_nil] at this
  rw [LaunchConfig.settings, addAll?_switchIf rfl, addAll?_switchIf rfl,
    addAll?_valuedIf (by decide) (by decide) rfl, addAll?_mqtt _ (by decide) (fun _ _ => rfl),
    addAll?_switchIf rfl, addAll?_areas, addAll?_valuedIf (by decide) (by decide) rfl,
    hlast _ rfl]
  refine congrArg some (Options.ext ?isOn ?value rfl)
  case isOn =>
    funext s
    cases s <;> rfl
  case value =>
    funext v
    cases v with
    | mqtt o => cases o <;> rfl
    | _ => rfl

end Options

/-! ## Texts that are not empty -/

theorem Decimal.positional_ne_nil (d : Decimal) : d.positional ≠ [] := by
  unfold positional
  dsimp only
  split
  · exact List.append_ne_nil_of_right_ne_nil _ (List.cons_ne_nil _ _)
  · split
    · exact List.append_ne_nil_of_right_ne_nil _ (List.cons_ne_nil _ _)
    · exact List.cons_ne_nil _ _

theorem Decimal.scientific_ne_nil (d : Decimal) : d.scientific ≠ [] := by
  have hdigits : digitChars d.digits ≠ [] := Nat.toDigits_ne_nil
  unfold scientific
  split
  · next hnil => exact absurd hnil hdigits
  · exact List.cons_ne_nil _ _
  · exact List.cons_ne_nil _ _

theorem Number.text_ne_nil (n : Number) : n.text ≠ [] := by
  cases n with
  | int value =>
    exact List.append_ne_nil_of_right_ne_nil _ Nat.toDigits_ne_nil
  | float value =>
    cases value with
    | nan => exact List.cons_ne_nil _ _
    | infinite negative => exact List.append_ne_nil_of_right_ne_nil _ (List.cons_ne_nil _ _)
    | finite negative magnitude =>
      refine List.append_ne_nil_of_right_ne_nil _ ?_
      split
      · exact Decimal.positional_ne_nil _
      · exact Decimal.scientific_ne_nil _

/-- Only the empty text is written as nothing. -/
theorem Scalar.render_eq_empty {s : Scalar} : s.render = "" ↔ s = .text "" := by
  constructor
  · intro h
    cases s with
    | bool value => cases value <;> exact absurd h (by decide)
    | number value => exact absurd (String.ofList_eq_empty_iff.mp h) value.text_ne_nil
    | text value => exact congrArg text h
  · rintro rfl
    rfl

theorem Scalar.code?_eq_none {code : Option Scalar} :
    code? code = none ↔ code = none ∨ code = some (.text "") := by
  cases code with
  | none => simp [code?]
  | some code =>
    simp only [code?, Option.map_some, Option.filter_eq_none_iff, Option.some.injEq,
      forall_eq', decide_eq_true_eq, not_not, Scalar.render_eq_empty, reduceCtorEq, false_or]

/-! ## What a configuration asks for -/

/-- The daemon is told what the configuration says, each entry in its own place. -/
structure LaunchConfig.Asks (c : LaunchConfig) (o : Options) : Prop where
  verbose : o.isOn .verbose = true ↔ c.verbose = some (.bool true)
  daemon : o.isOn .daemon = true ↔ c.daemon = some (.bool true)
  device : ∃ device, c.device = some device ∧ o.value .device = some device.render
  mqtt : ∃ mqtt, c.mqtt = some mqtt ∧
    (∀ m, o.value (.mqtt m) = (m.value mqtt).map Scalar.render) ∧
    (o.isOn .retain = true ↔ mqtt.retain = some (.bool true))
  areas : ∃ areas : List CompleteArea, c.areas = some (areas.map CompleteArea.toConfig) ∧
    o.areas = areas.map CompleteArea.texts
  userCode : o.value .userCode = (c.userCode.map Scalar.render).filter (· ≠ "")
  statusPeriod : o.value .statusPeriod = c.statusPeriod.map Scalar.render

theorem isEnabled_eq_true {switch : Option Scalar} :
    isEnabled switch = true ↔ switch = some (.bool true) :=
  beq_iff_eq

/-- The arguments of a configuration are read back to what it asks for. -/
theorem LaunchConfig.ofArgs?_eq_some {c : LaunchConfig} {command : LaunchCommand}
    (h : c.build.result = .ok command) :
    ∃ o, Options.ofArgs? command.args = some o ∧ c.Asks o := by
  obtain ⟨device, mqtt, areas, hdevice, hmqtt, hareas, hargs⟩ := build_eq_ok h
  refine ⟨c.options device mqtt areas, ?read, ?asks⟩
  case read =>
    rw [hargs, Options.ofArgs?, Setting.read?_flatMap_args, Option.bind_some,
      Options.addAll?_settings]
  case asks =>
    exact
      { verbose := isEnabled_eq_true
        daemon := isEnabled_eq_true
        device := ⟨device, hdevice, rfl⟩
        mqtt := ⟨mqtt, hmqtt, fun _ => rfl, isEnabled_eq_true⟩
        areas := ⟨areas, hareas, rfl⟩
        userCode := rfl
        statusPeriod := rfl }

/--
The arguments of a built command are read without a rest, to just what the configuration asks for;
so every configuration with the same arguments asks for the same.
-/
theorem LaunchConfig.build_args_unambiguous {c : LaunchConfig} {command : LaunchCommand}
    (h : c.build.result = .ok command) :
    ∃ o, Options.ofArgs? command.args = some o ∧ c.Asks o ∧
      (o.value .userCode = none ↔ c.userCode = none ∨ c.userCode = some (.text "")) ∧
      ∀ (c' : LaunchConfig) (command' : LaunchCommand),
        c'.build.result = .ok command' → command'.args = command.args → c'.Asks o := by
  obtain ⟨o, hread, hasks⟩ := ofArgs?_eq_some h
  refine ⟨o, hread, hasks, ?code, ?same⟩
  case code =>
    rw [hasks.userCode]
    exact Scalar.code?_eq_none
  case same =>
    intro c' command' h' hargs
    obtain ⟨o', hread', hasks'⟩ := ofArgs?_eq_some h'
    rw [hargs, hread] at hread'
    cases hread'
    exact hasks'

/-- Every value of it looks like an option. -/
def LaunchConfig.flagLike : LaunchConfig where
  binaryPath := none
  verbose := some (.bool true)
  daemon := some (.text "true")
  device := some (.text "-v")
  mqtt := some
    { MqttConfig.empty with server := some (.text "--mqtt_port=1"), topic := some (.text "") }
  areas := some [⟨some (.text "-z"), some [.text "-a", .text "-D"]⟩, ⟨some (.bool true), some []⟩]
  userCode := some (.text "-S")
  statusPeriod := some (.text "-u")
  logFile := none

def LaunchConfig.flagLikeArgs : List String :=
  ["-v", "-d", "-v", "--mqtt_server=--mqtt_port=1", "--mqtt_topic=", "-a", "-z", "-z", "-a,-D",
    "-a", "true", "-z", "", "-u", "-S", "-S", "-u"]

theorem LaunchConfig.build_args_unambiguous_flagLike :
    flagLike.build.result = .ok ⟨defaultBinary, flagLikeArgs, none⟩ ∧
      ∃ o, Options.ofArgs? flagLikeArgs = some o ∧ flagLike.Asks o := by
  have hbuild : flagLike.build.result = .ok ⟨defaultBinary, flagLikeArgs, none⟩ := by decide
  obtain ⟨o, hread, hasks, -, -⟩ := build_args_unambiguous hbuild
  exact ⟨hbuild, o, hread, hasks⟩

end PanelLauncher
