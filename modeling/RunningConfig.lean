import RunningConfig.Device.Edit
import RunningConfig.Main
import RunningConfig.Proofs.Load
import RunningConfig.Proofs.Recovery.NormalForm
import RunningConfig.Proofs.Render.Gating
import RunningConfig.Proofs.Render.Promises
import RunningConfig.Proofs.Yaml.RoundTrip
import RunningConfig.Schema.Model
import RunningConfig.Yaml.Printer.Document
import RunningConfig.Proofs.Schema.Admission
import RunningConfig.Proofs.Schema.Grammar
import RunningConfig.Proofs.Config.Grammar
import RunningConfig.Proofs.Schema.Respelling
import RunningConfig.Proofs.Schema.Writing
import RunningConfig.Proofs.Config.ModelValues
import RunningConfig.Proofs.Render.Frame
import RunningConfig.Proofs.CommandLine
import RunningConfig.Proofs.Config.Checks
import RunningConfig.Proofs.Config.Slots
import RunningConfig.Proofs.Config.Assembly
import RunningConfig.Proofs.Export.Containment
import RunningConfig.Proofs.Render.Placement
import RunningConfig.Proofs.Recovery.Credentials
import RunningConfig.Proofs.Subnet
import RunningConfig.Proofs.Render.PortNames
import RunningConfig.Proofs.Render.Banner
import RunningConfig.Proofs.Render.LineRanges
import RunningConfig.Proofs.Name.Pattern
