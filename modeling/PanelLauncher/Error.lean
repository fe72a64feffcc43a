import PanelLauncher.Config.Error
import PanelLauncher.Host.Errno

/-!
# Failures of the launcher

Each stage of a launch has its own failure. All of them end the launcher with the same status.
-/

namespace PanelLauncher

/-- An entry without which no command line can be built. Areas are counted from one. -/
inductive RequiredField
  | device
  | mqtt
  | areas
  | areaNum (index : Nat)
  | areaZones (index : Nat)
  deriving DecidableEq, Repr

def RequiredField.message : RequiredField → String
  | device => "Device not present in config"
  | mqtt => "No MQTT settings in config"
  | areas => "No area config"
  | areaNum index => s!"Area config #{index} does not have \"num\""
  | areaZones index => s!"Area config #{index} does not have \"zones\""

inductive IoFault
  | os (errno : Errno)
  | notUtf8
  | nulInFileName
  | nulInArgument
  deriving DecidableEq, Repr

def IoFault.message : IoFault → String
  | os errno => errno.message
  | notUtf8 => "stream did not contain valid UTF-8"
  | nulInFileName => "file name contained an unexpected NUL byte"
  | nulInArgument => "nul byte found in provided data"

inductive LaunchError
  | configRead (path : String) (fault : IoFault)
  | configParse (path : String) (fault : Config.ParseError)
  | missingField (field : RequiredField)
  | logFile (path : String) (fault : IoFault)
  | spawn (program : String) (fault : IoFault)
  | wait (fault : IoFault)
  | signal (fault : IoFault)
  deriving DecidableEq, Repr

namespace LaunchError

def message : LaunchError → String
  | configRead path fault => s!"Failed to read config file {path}: {fault.message}"
  | configParse path fault => s!"Failed to parse config file {path}: {fault.message}"
  | missingField field => s!"Configuration error: {field.message}"
  | logFile path fault => s!"Failed to open log file {path}: {fault.message}"
  | spawn program fault => s!"Failed to start {program}: {fault.message}"
  | wait fault => s!"Failed to wait for child process: {fault.message}"
  | signal fault => s!"Failed to install signal handler: {fault.message}"

/-- The status that the launcher exits with on any failure of its own. -/
def exitStatus (_ : LaunchError) : UInt8 := 255

end LaunchError

end PanelLauncher
