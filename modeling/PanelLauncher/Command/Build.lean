import PanelLauncher.Command.Basic
import PanelLauncher.Config.Basic
import PanelLauncher.Error

/-!
# From a configuration to a command

The arguments come in a fixed order: switches, device, broker, areas, user code, period. The first
required entry that is absent ends the derivation. Broker options may be absent; each is either an
argument or an advisory.
-/

namespace PanelLauncher

inductive MqttOption
  | server
  | port
  | topic
  | login
  | password
  deriving DecidableEq, Repr

namespace MqttOption

def all : List MqttOption := [server, port, topic, login, password]

def name : MqttOption → String
  | server => "server"
  | port => "port"
  | topic => "topic"
  | login => "login"
  | password => "password"

def value (c : MqttConfig) : MqttOption → Option Scalar
  | server => c.server
  | port => c.port
  | topic => c.topic
  | login => c.login
  | password => c.password

def flag (o : MqttOption) : String :=
  s!"--mqtt_{o.name}="

end MqttOption

inductive Advisory
  | absentOption (o : MqttOption)
  | noAreas
  | emptyUserCode
  deriving DecidableEq, Repr

/-- A derivation: its remarks up to where it ended, and the command or the first gap. -/
structure Build where
  advisories : List Advisory
  result : Except RequiredField LaunchCommand

namespace Build

def switch (flag : String) (value : Option Scalar) : List String :=
  if isEnabled value then [flag] else []

def mqttArgs (c : MqttConfig) : List String :=
  (MqttOption.all.filterMap fun o => (o.value c).map fun v => o.flag ++ v.render) ++
    switch "-r" c.retain

def mqttAdvisories (c : MqttConfig) : List Advisory :=
  MqttOption.all.filterMap fun o => if (o.value c).isNone then some (.absentOption o) else none

def areaArgs (index : Nat) (area : AreaConfig) : Except RequiredField (List String) :=
  match area.num, area.zones with
  | none, _ => .error (.areaNum index)
  | some _, none => .error (.areaZones index)
  | some num, some zones =>
    .ok ["-a", num.render, "-z", ",".intercalate (zones.map Scalar.render)]

/-- The arguments of the areas, the first of which is number `index`. -/
def areaListArgs (index : Nat) : List AreaConfig → Except RequiredField (List String)
  | [] => .ok []
  | area :: areas => do
    let first ← areaArgs index area
    let rest ← areaListArgs (index + 1) areas
    return first ++ rest

def areaAdvisories (areas : List AreaConfig) : List Advisory :=
  if areas.isEmpty then [.noAreas] else []

/-- A user code that renders to nothing is left out. -/
def userCodeArgs (code : Option Scalar) : List String :=
  match code with
  | none => []
  | some code => if code.render.isEmpty then [] else ["-u", code.render]

def userCodeAdvisories (code : Option Scalar) : List Advisory :=
  if code.any (·.render.isEmpty) then [.emptyUserCode] else []

def periodArgs (period : Option Scalar) : List String :=
  match period with
  | none => []
  | some period => ["-S", period.render]

def headArgs (c : LaunchConfig) (device : Scalar) (mqtt : MqttConfig) : List String :=
  switch "-v" c.verbose ++ switch "-D" c.daemon ++ ["-d", device.render] ++ mqttArgs mqtt

def tailArgs (c : LaunchConfig) : List String :=
  userCodeArgs c.userCode ++ periodArgs c.statusPeriod

end Build

def LaunchConfig.build (c : LaunchConfig) : Build :=
  match c.device with
  | none => ⟨[], .error .device⟩
  | some device =>
    match c.mqtt with
    | none => ⟨[], .error .mqtt⟩
    | some mqtt =>
      match c.areas with
      | none => ⟨Build.mqttAdvisories mqtt, .error .areas⟩
      | some areas =>
        let advisories := Build.mqttAdvisories mqtt ++ Build.areaAdvisories areas
        match Build.areaListArgs 1 areas with
        | .error field => ⟨advisories, .error field⟩
        | .ok areaArgs =>
          ⟨advisories ++ Build.userCodeAdvisories c.userCode, .ok
            { program := c.binary
              args := Build.headArgs c device mqtt ++ areaArgs ++ Build.tailArgs c
              logFile := c.logFile }⟩

end PanelLauncher
