import Flowchart.Main
import Flowchart.Output.Reference
import Flowchart.Proofs.Dot.Drawing
import Flowchart.Proofs.Finding.Chart
import Flowchart.Proofs.Source.RoundTrip
import Flowchart.Settings.Printer
import Flowchart.Proofs.Files.Access
import Flowchart.Proofs.Files.Sparing
import Flowchart.Proofs.Session.History
import Flowchart.Proofs.CommandLine.Outcome
import Flowchart.Proofs.CommandLine.Sparing
import Flowchart.Proofs.Source.Reading
import Flowchart.Proofs.Text.Terminators
import Flowchart.Proofs.Finding.Lines
import Flowchart.Proofs.Finding.Endings
import Flowchart.Proofs.Finding.Stateless
import Flowchart.Proofs.Output.Path
import Flowchart.Proofs.Session.Page
import Flowchart.Proofs.Source.Accounting
import Flowchart.Proofs.Source.Grammar
import Flowchart.Proofs.Dot.Identifier
import Flowchart.Proofs.Files.Leaving
import Flowchart.Proofs.Output.Page
import Flowchart.Proofs.Engine.Graphviz
import Flowchart.Proofs.Session.Outcome
import Flowchart.Proofs.Finding.Rows
import Flowchart.Proofs.Finding.Report
import Flowchart.Proofs.Output.Reference
import Flowchart.Proofs.Chart.Attribution
import Flowchart.Proofs.Session.Destination
import Flowchart.Proofs.Dot.Stable
import Flowchart.Proofs.Toml.Keys
import Flowchart.Proofs.Toml.Tree
import Flowchart.Proofs.Settings.Fields
import Flowchart.Proofs.Settings.Items
import Flowchart.Proofs.Settings.Edits
import Flowchart.Proofs.Toml.Spelling
import Flowchart.Proofs.Toml.Blocks
import Flowchart.Proofs.Settings.RoundTrip
