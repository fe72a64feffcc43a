import PanelLauncher.Number.Basic

/-!
# Configurations

What a configuration says about the panel daemon and the system around it. Every entry may be
absent; which ones are needed is known only when the command line is built.
-/

namespace PanelLauncher

/-- A value that reaches the command line as text. -/
inductive Scalar
  | bool (value : Bool)
  | number (value : Number)
  | text (value : String)
  deriving DecidableEq, Repr

namespace Scalar

def render : Scalar → String
  | bool true => "true"
  | bool false => "false"
  | number value => String.ofList value.text
  | text value => value

end Scalar

/-- A switch is on if it is present and the boolean `true`; nothing else turns it on. -/
def isEnabled (switch : Option Scalar) : Bool :=
  switch == some (.bool true)

structure MqttConfig where
  server : Option Scalar
  port : Option Scalar
  topic : Option Scalar
  login : Option Scalar
  password : Option Scalar
  retain : Option Scalar
  deriving DecidableEq, Repr

def MqttConfig.empty : MqttConfig :=
  ⟨none, none, none, none, none, none⟩

structure AreaConfig where
  num : Option Scalar
  zones : Option (List Scalar)
  deriving DecidableEq, Repr

def AreaConfig.empty : AreaConfig :=
  ⟨none, none⟩

structure LaunchConfig where
  binaryPath : Option String
  verbose : Option Scalar
  daemon : Option Scalar
  device : Option Scalar
  mqtt : Option MqttConfig
  areas : Option (List AreaConfig)
  userCode : Option Scalar
  statusPeriod : Option Scalar
  logFile : Option String
  deriving DecidableEq, Repr

namespace LaunchConfig

def empty : LaunchConfig :=
  ⟨none, none, none, none, none, none, none, none, none⟩

def defaultPath : String := "/etc/paraevo.yaml"

def defaultBinary : String := "/opt/paraevo/paraevo"

def binary (config : LaunchConfig) : String :=
  config.binaryPath.getD defaultBinary

end LaunchConfig

end PanelLauncher
