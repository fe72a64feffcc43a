import PanelLauncher.Config.Basic
import PanelLauncher.Text.Plain

/-!
# The launcher's own command line

One optional argument names the configuration; `--help` and `--version` are the only options. Two
hyphens end the options, one hyphen alone is an argument. Nothing is passed over in silence: an
argument that has no use is refused.
-/

namespace PanelLauncher.CommandLine

inductive Flag
  | help
  | version
  deriving DecidableEq, Repr

namespace Flag

def all : List Flag := [help, version]

def name : Flag → String
  | help => "help"
  | version => "version"

def short : Flag → Char
  | help => 'h'
  | version => 'V'

def ofName? (name : String) : Option Flag :=
  all.find? (·.name = name)

def ofShort? (c : Char) : Option Flag :=
  all.find? (·.short = c)

end Flag

inductive Stop
  | shown (flag : Flag)
  | surplus (arg : String)
  | unknownShort (letter : Char)
  /-- An unknown option with a long name; whether a configuration stands before it. -/
  | unknownLong (name : String) (hasConfig : Bool)
  | emptyValue
  | flagValue (flag : Flag) (value : String)
  deriving DecidableEq, Repr

def splitLong (arg : List Char) : String × Option String :=
  let name := String.ofList (arg.takeWhile (· ≠ '='))
  match arg.dropWhile (· ≠ '=') with
  | [] => (name, none)
  | _ :: value => (name, some (String.ofList value))

/-- Help and version are shown only if what stands before them is in order. -/
def showFlag (config : Option String) (flag : Flag) : Stop :=
  if config = some "" then .emptyValue else .shown flag

def option? (config : Option String) (arg : String) : Option Stop :=
  match arg.toList with
  | '-' :: '-' :: long =>
    let (name, value) := splitLong long
    some <| match Flag.ofName? name, value with
      | some flag, none => showFlag config flag
      | some flag, some value => .flagValue flag value
      | none, _ => .unknownLong name config.isSome
  | '-' :: letter :: _ =>
    some <| match Flag.ofShort? letter with
      | some flag => showFlag config flag
      | none => .unknownShort letter
  | _ => none

/-- Reads arguments; `config` is the configuration named so far. -/
def read (optionsEnded : Bool) (config : Option String) : List String → Except Stop (Option String)
  | [] => if config = some "" then .error .emptyValue else .ok config
  | arg :: args =>
    if !optionsEnded && arg = "--" then read true config args
    else
      match if optionsEnded then none else option? config arg with
      | some stop => .error stop
      | none =>
        match config with
        | none => read optionsEnded (some arg) args
        | some _ => .error (.surplus arg)

def parse (args : List String) : Except Stop String :=
  (read false none args).map (·.getD LaunchConfig.defaultPath)

/-! ## Names that are alike -/

def matchPosition? (c : Char) (low bound : Nat) (taken : List Nat) (name : List Char) :
    Option Nat :=
  (name.zipIdx.find? fun (d, j) => d = c && low ≤ j && j < bound && !taken.contains j).map (·.2)

/-- Pairs equal characters of two names that are not far apart, each used once. -/
def matchedPairs (reach : Nat) (a b : List Char) : List (Nat × Nat) :=
  (a.zipIdx.foldl (fun (pairs : List (Nat × Nat)) (c, i) =>
    match matchPosition? c (i - reach) (i + reach + 1) (pairs.map (·.2)) b with
    | some j => (i, j) :: pairs
    | none => pairs) []).reverse

def ratio (num den : Nat) : Magnitude :=
  (Magnitude.ofRatio? num den).getD .zero

def sum (x y : Magnitude) : Magnitude :=
  ratio (x.units + y.units) 1

/--
The mean of three shares: of the characters of either name that are matched, and of the matched
ones that are in order. Every step of it is rounded.
-/
def similarity (a b : List Char) : Magnitude :=
  let pairs := matchedPairs (max a.length b.length / 2 - 1) a b
  let matched := pairs.length
  let inA := pairs.map fun (i, _) => a[i]?
  let inB := (b.zipIdx.filter fun (_, j) => pairs.any (·.2 = j)).map fun (c, _) => some c
  let swapped := ((inA.zip inB).filter fun (x, y) => x ≠ y).length / 2
  if matched = 0 then .zero
  else
    let share (part whole : Nat) : Magnitude := ratio (part * Magnitude.one) whole
    let shares :=
      sum (sum (share matched a.length) (share matched b.length))
        (share (matched - swapped) matched)
    ratio shares.units 3

/-- Names of a greater similarity than seven tenths are alike. -/
def likeness : Magnitude :=
  ratio (7 * Magnitude.one) 10

def suggestion? (name : String) : Option Flag :=
  let scored := Flag.all.map fun flag => (flag, (similarity name.toList flag.name.toList).units)
  let alike := scored.filter fun (_, score) => likeness.units < score
  (alike.foldl (fun best (flag, score) =>
    if best.all fun (_, greatest) => greatest ≤ score then some (flag, score) else best)
    (none : Option (Flag × Nat))).map (·.1)

/-! ## What is printed

Texts from outside are shown without what a terminal would take for control sequences.
-/

def programName : String := "paraevo-launcher"

def versionText : String := "paraevo-launcher 0.1.0\n"

def usageName (program : Option String) : String :=
  let parts := ((program.getD "").splitOn "/").filter fun part => part ≠ "" && part ≠ "."
  match parts.getLast? with
  | some ".." => programName
  | some name => name
  | none => programName

def usage (name : String) (flag : Option Flag) (isGiven : Bool) : String :=
  let flagText := match flag with
    | some flag => s!" --{flag.name}"
    | none => ""
  let configText := if isGiven then "<CONFIG>" else "[CONFIG]"
  s!"Usage: {Text.plain name}{flagText} {configText}\n"

def helpText (name : String) : String :=
  "Starts the paraevo alarm panel daemon from its YAML configuration\n\n" ++
    usage name none false ++
    "\nArguments:\n  [CONFIG]  Path to the YAML configuration file [default: " ++
    LaunchConfig.defaultPath ++
    "]\n\nOptions:\n  -h, --help     Print help\n  -V, --version  Print version\n"

def moreHelp : String := "\nFor more information, try '--help'.\n"

def unexpected (arg : String) : String :=
  s!"error: unexpected argument '{Text.plain arg}' found\n\n"

/-- How an argument that looks like an option is passed as one that is none. -/
def escapeTip (arg : String) : String :=
  let arg := Text.plain arg
  s!"  tip: to pass '{arg}' as a value, use '-- {arg}'\n\n"

namespace Stop

def message (name : String) : Stop → String
  | shown .help => helpText name
  | shown .version => versionText
  | surplus arg => unexpected arg ++ usage name none false ++ moreHelp
  | unknownShort letter =>
    let arg := String.ofList ['-', letter]
    unexpected arg ++ escapeTip arg ++ usage name none false ++ moreHelp
  | unknownLong option hasConfig =>
    let arg := "--" ++ option
    match suggestion? option with
    | some flag =>
      unexpected arg ++ s!"  tip: a similar argument exists: '--{flag.name}'\n\n" ++
        usage name (some flag) hasConfig ++ moreHelp
    | none => unexpected arg ++ escapeTip arg ++ usage name none hasConfig ++ moreHelp
  | emptyValue => "error: a value is required for '[CONFIG]' but none was supplied\n" ++ moreHelp
  | flagValue flag value =>
    s!"error: unexpected value '{Text.plain value}' for '--{flag.name}' found; " ++
      "no more were expected\n\n" ++ usage name (some flag) false ++ moreHelp

def isRequested : Stop → Bool
  | shown _ => true
  | _ => false

def exitStatus (s : Stop) : UInt8 :=
  if s.isRequested then 0 else 2

end Stop

end PanelLauncher.CommandLine
