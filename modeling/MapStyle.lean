import MapStyle.Editor
import MapStyle.Filter.Format
import MapStyle.Json.Printer
import MapStyle.Proofs.Filter.Grammar
import MapStyle.Proofs.Filter.Typed
import MapStyle.Proofs.Json.Ensures
import MapStyle.Proofs.Json.Readers
import MapStyle.Proofs.Json.Representable
import MapStyle.Proofs.Json.Silent
import MapStyle.Proofs.Number.DecimalText
import MapStyle.Proofs.Number.DocumentText
import MapStyle.Proofs.Number.ShortestText
import MapStyle.Proofs.Number.WholeNumbers
import MapStyle.Proofs.Session.Edits
import MapStyle.Proofs.Session.Layers
import MapStyle.Proofs.Session.Positions
import MapStyle.Proofs.Session.Repair
import MapStyle.Proofs.Session.Reports
import MapStyle.Proofs.Session.RuleNames
import MapStyle.Proofs.Session.Steps
import MapStyle.Proofs.Sld.Blocks
import MapStyle.Proofs.Sld.Characters
import MapStyle.Proofs.Sld.DocumentShape
import MapStyle.Proofs.Sld.Faithful
import MapStyle.Proofs.Sld.Interrupted
import MapStyle.Proofs.Sld.NormalForm
import MapStyle.Proofs.Sld.Numbers
import MapStyle.Proofs.Sld.RunLog
import MapStyle.Proofs.Sld.Segments
import MapStyle.Proofs.Sld.Unsupported
import MapStyle.Proofs.Sld.Warnings
import MapStyle.Proofs.Style.Decoded
import MapStyle.Proofs.Style.Issues
import MapStyle.Proofs.Style.RoundTrip
import MapStyle.Proofs.Style.Storable
import MapStyle.Proofs.Style.Tolerance
import MapStyle.Proofs.Text.Cuts
import MapStyle.Proofs.Xml.Calls
import MapStyle.Proofs.Xml.Comments
import MapStyle.Proofs.Xml.LineEnds
import MapStyle.Proofs.Xml.Places
import MapStyle.Proofs.Xml.SameText
import MapStyle.Proofs.Xml.Selection
import MapStyle.Proofs.Xml.Unescape
import MapStyle.Session.Edit
import MapStyle.Style.Issue
import MapStyle.Xml.Call
