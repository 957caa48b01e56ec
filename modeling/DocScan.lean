import DocScan.Descriptor.Session
import DocScan.Explain.Cursor
import DocScan.Explain.Unchecked
import DocScan.Log.Session
import DocScan.Main
import DocScan.Settings.Arguments
import DocScan.TypeExpr.Formation
import DocScan.Proofs.Component.Layout
import DocScan.Proofs.Explain.NormalForm
import DocScan.Proofs.Explain.Positions
import DocScan.Proofs.Component.Reading
import DocScan.Proofs.Explain.Agreement
import DocScan.Proofs.Explain.Truncation
import DocScan.Proofs.Padding
import DocScan.Proofs.Correlation.Nesting
import DocScan.Proofs.Settings.Loading
import DocScan.Proofs.Settings.Course
import DocScan.Proofs.Settings.Startup
import DocScan.Proofs.Json.Numbers
import DocScan.Proofs.Json.Documents
import DocScan.Proofs.Log.Written
import DocScan.Proofs.Log.Course
import DocScan.Proofs.Command.Scope
import DocScan.Proofs.Descriptor.Building
import DocScan.Proofs.Descriptor.Course
import DocScan.Proofs.Command.Failing
import DocScan.Proofs.Explain.Cells
import DocScan.Proofs.Command.Notices
import DocScan.Proofs.Codec.Encoding
import DocScan.Proofs.Input.Sources
import DocScan.Proofs.Command.Listing
import DocScan.Proofs.Text.Literals
import DocScan.Proofs.Command.Describing
import DocScan.Proofs.TypeExpr.Naming
import DocScan.Proofs.Command.Classifying
import DocScan.Proofs.Descriptor.Kinds
import DocScan.Proofs.Descriptor.JsonForm
import DocScan.Proofs.Settings.Spelling
import DocScan.Proofs.Settings.Stability
import DocScan.Proofs.Text.Segments
import DocScan.Proofs.Explain.Consumption
import DocScan.Proofs.Log.Replacing
import DocScan.Proofs.Command.Gate
import DocScan.Proofs.Text.Layers
