import PanelLauncher.Command.Build

/-!
# The options of the daemon

The daemon's arguments are options, read from the left: some stand alone, some take the argument
behind them whatever it looks like, and some carry their value behind an equals sign. No option but
that of an area may come twice, and the zones of an area follow its number.
-/

namespace PanelLauncher

inductive Switch
  | verbose
  | daemon
  | retain
  deriving DecidableEq, Repr

namespace Switch

def all : List Switch := [verbose, daemon, retain]

def flag : Switch → String
  | verbose => "-v"
  | daemon => "-D"
  | retain => "-r"

end Switch

inductive Valued
  | device
  | area
  | zones
  | userCode
  | statusPeriod
  | mqtt (o : MqttOption)
  deriving DecidableEq, Repr

namespace Valued

/-- The options whose value is the argument behind them. -/
def separate : List Valued := [device, area, zones, userCode, statusPeriod]

/-- The options whose value is a part of their argument. -/
def joined : List Valued := MqttOption.all.map mqtt

def flag : Valued → String
  | device => "-d"
  | area => "-a"
  | zones => "-z"
  | userCode => "-u"
  | statusPeriod => "-S"
  | mqtt o => o.flag

def ofArg? (arg : String) : Option (Valued × String) :=
  joined.findSome? fun o =>
    if o.flag.toList.isPrefixOf arg.toList then
      some (o, String.ofList (arg.toList.drop o.flag.toList.length))
    else none

end Valued

inductive Setting
  | switch (s : Switch)
  | valued (o : Valued) (value : String)
  deriving DecidableEq, Repr

def Setting.args : Setting → List String
  | switch s => [s.flag]
  | valued (.mqtt o) value => [o.flag ++ value]
  | valued o value => [o.flag, value]

/-- Reads arguments from the left; `none` if one is unknown or the last one lacks its value. -/
def Setting.read? : List String → Option (List Setting)
  | [] => some []
  | arg :: args =>
    match Switch.all.find? (·.flag = arg) with
    | some s => (read? args).map (.switch s :: ·)
    | none =>
      match Valued.separate.find? (·.flag = arg) with
      | some o =>
        match args with
        | value :: args => (read? args).map (.valued o value :: ·)
        | [] => none
      | none => (Valued.ofArg? arg).bind fun (o, value) => (read? args).map (.valued o value :: ·)

@[ext]
structure Options where
  isOn : Switch → Bool
  /-- Of an area nothing is kept here. -/
  value : Valued → Option String
  areas : List (String × String)

namespace Options

def empty : Options := ⟨fun _ => false, fun _ => none, []⟩

def setOn (o : Options) (s : Switch) (on : Bool) : Options :=
  { o with isOn := fun t => if t = s then on else o.isOn t }

def setValue (o : Options) (v : Valued) (value : Option String) : Options :=
  { o with value := fun w => if w = v then value else o.value w }

/-- Adds settings in order; `none` if one comes twice or an area is not complete. -/
def addAll? (o : Options) : List Setting → Option Options
  | [] => some o
  | .switch s :: rest => if o.isOn s then none else addAll? (o.setOn s true) rest
  | .valued .area num :: .valued .zones zones :: rest =>
    addAll? { o with areas := o.areas ++ [(num, zones)] } rest
  | .valued .area _ :: _ => none
  | .valued .zones _ :: _ => none
  | .valued v value :: rest =>
    if (o.value v).isSome then none else addAll? (o.setValue v (some value)) rest

def ofArgs? (args : List String) : Option Options :=
  (Setting.read? args).bind (addAll? empty)

end Options

end PanelLauncher
