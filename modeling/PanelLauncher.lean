import PanelLauncher.Host.System
import PanelLauncher.Main
import PanelLauncher.Command.ShellLine
import PanelLauncher.Proofs.Command.Reading
import PanelLauncher.Proofs.Command.Line
import PanelLauncher.Proofs.Launch.Stage
import PanelLauncher.Command.Options
import PanelLauncher.Proofs.Command.Options
import PanelLauncher.Proofs.Host.FileTree
import PanelLauncher.Proofs.Launch.Ending
import PanelLauncher.Proofs.Launch.FailFast
import PanelLauncher.Proofs.Command.Required
import PanelLauncher.Proofs.Command.Areas
import PanelLauncher.Proofs.Command.Advisories
import PanelLauncher.Proofs.Launch.AppendOnly
import PanelLauncher.Proofs.Yaml.Value
import PanelLauncher.Proofs.Relay.Run
import PanelLauncher.Proofs.Relay.Delivery
import PanelLauncher.Proofs.Config.Schema
import PanelLauncher.Proofs.Config.Reader
import PanelLauncher.Proofs.Config.Loading
import PanelLauncher.Proofs.Config.Position
import PanelLauncher.Proofs.Config.Digits
import PanelLauncher.Proofs.Command.Zones
import PanelLauncher.Proofs.Config.Floats
import PanelLauncher.Command.ShellExecution
import PanelLauncher.Proofs.Command.FirstWord
import PanelLauncher.Proofs.CommandLine
import PanelLauncher.Proofs.Relay.Loop
import PanelLauncher.Proofs.Relay.Target
import PanelLauncher.Proofs.Launch.Relay
