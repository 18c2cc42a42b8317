import AutomationIndex.Command.Form
import AutomationIndex.Command.Layout
import AutomationIndex.Command.Option
import AutomationIndex.Command.Output
import AutomationIndex.Command.Run
import AutomationIndex.Disk.Basic
import AutomationIndex.Disk.Change
import AutomationIndex.Disk.Glob
import AutomationIndex.Disk.Read
import AutomationIndex.Disk.Resolve
import AutomationIndex.Disk.Way
import AutomationIndex.Json.Basic
import AutomationIndex.Json.Reader
import AutomationIndex.Json.Writer
import AutomationIndex.Loading
import AutomationIndex.Location.Basic
import AutomationIndex.Location.Containment
import AutomationIndex.Log
import AutomationIndex.Main
import AutomationIndex.Number.Double
import AutomationIndex.Package.Attribute
import AutomationIndex.Package.Cpu
import AutomationIndex.Package.Document
import AutomationIndex.Package.Fault
import AutomationIndex.Package.Header
import AutomationIndex.Package.Object
import AutomationIndex.Package.Report
import AutomationIndex.Package.Role
import AutomationIndex.Project.Basic
import AutomationIndex.Project.BuildInfo
import AutomationIndex.Project.Configuration
import AutomationIndex.Project.Descriptor
import AutomationIndex.Project.Report
import AutomationIndex.Project.UserSettings
import AutomationIndex.Scan.Find
import AutomationIndex.Scan.Ignore
import AutomationIndex.Scan.IgnoreFile
import AutomationIndex.Scan.Walk
import AutomationIndex.Settings.Basic
import AutomationIndex.Settings.Check
import AutomationIndex.Settings.Coercion
import AutomationIndex.Settings.Source
import AutomationIndex.Text.Blank
import AutomationIndex.Text.Case
import AutomationIndex.Text.CaseTable
import AutomationIndex.Text.Digit
import AutomationIndex.Text.Point
import AutomationIndex.Text.Quoted
import AutomationIndex.Text.Utf8
import AutomationIndex.Text.VisibleTable
import AutomationIndex.Toml.Document
import AutomationIndex.Toml.Fault
import AutomationIndex.Toml.Scalar
import AutomationIndex.Toml.Table
import AutomationIndex.Toml.Text
import AutomationIndex.Toml.Value
import AutomationIndex.Wildcard
import AutomationIndex.Workspace.Index
import AutomationIndex.Workspace.Session
import AutomationIndex.Xml.Charset
import AutomationIndex.Xml.CodePage
import AutomationIndex.Xml.Content
import AutomationIndex.Xml.Declaration
import AutomationIndex.Xml.Declarations
import AutomationIndex.Xml.Doctype.Grammar
import AutomationIndex.Xml.Doctype.Prolog
import AutomationIndex.Xml.Doctype.Token
import AutomationIndex.Xml.Document
import AutomationIndex.Xml.Element
import AutomationIndex.Xml.Fault
import AutomationIndex.Xml.Lexeme
import AutomationIndex.Xml.Name
import AutomationIndex.Xml.Namespace
import AutomationIndex.Xml.Source
import AutomationIndex.Xml.Tag
import AutomationIndex.Xml.Value
import AutomationIndex.Proofs.Disk.Tree
import AutomationIndex.Proofs.Disk.Unlinked
import AutomationIndex.Proofs.Location.Enclosure
import AutomationIndex.Proofs.Logged
import AutomationIndex.Proofs.Scan.Found
import AutomationIndex.Proofs.Project.Load
import AutomationIndex.Proofs.Workspace.Discovery
import AutomationIndex.Proofs.Scan.Completion
import AutomationIndex.Proofs.Workspace.Completion
import AutomationIndex.Proofs.Disk.Resolved
import AutomationIndex.Proofs.Disk.Selection
import AutomationIndex.Proofs.Project.Configurations
import AutomationIndex.Proofs.Project.Layout
import AutomationIndex.Proofs.Workspace.Lookup
import AutomationIndex.Proofs.Workspace.History
import AutomationIndex.Proofs.Disk.Reading
import AutomationIndex.Proofs.Scan.Agreement
import AutomationIndex.Proofs.Project.Opened
import AutomationIndex.Proofs.Wildcard
import AutomationIndex.Proofs.Xml.Declared
import AutomationIndex.Proofs.Xml.Readable
import AutomationIndex.Proofs.Location.Characters
import AutomationIndex.Proofs.Project.Completion
import AutomationIndex.Proofs.Scan.Faults
import AutomationIndex.Proofs.Project.Kinds
import AutomationIndex.Proofs.Project.Degradation
import AutomationIndex.Proofs.Workspace.Degradation
import AutomationIndex.Proofs.Package.Acceptance
import AutomationIndex.Proofs.Scan.Complete
import AutomationIndex.Proofs.Project.Listing
import AutomationIndex.Proofs.Workspace.Spelling
import AutomationIndex.Proofs.Text.Encoding
import AutomationIndex.Proofs.Text.LineEnds
import AutomationIndex.Proofs.Json.LineEnds
import AutomationIndex.Proofs.Settings.Opening
import AutomationIndex.Proofs.Settings.Inline
import AutomationIndex.Proofs.Xml.Escaped
import AutomationIndex.Proofs.Xml.Written
import AutomationIndex.Proofs.Xml.Tagged
import AutomationIndex.Proofs.Xml.Named
import AutomationIndex.Proofs.Xml.Headed
import AutomationIndex.Proofs.Package.Versions
import AutomationIndex.Proofs.Package.Written
import AutomationIndex.Proofs.Package.Recovery
import AutomationIndex.Proofs.Json.RoundTrip
import AutomationIndex.Proofs.Settings.NormalForm
import AutomationIndex.Proofs.Location.Written
import AutomationIndex.Proofs.Command.Told
import AutomationIndex.Proofs.Command.Arguments
import AutomationIndex.Proofs.Command.Agreement
import AutomationIndex.Proofs.Location.Joined
import AutomationIndex.Proofs.Package.Placement
import AutomationIndex.Proofs.Location.Fragment
import AutomationIndex.Proofs.Project.Styles
import AutomationIndex.Proofs.Scan.Exact
import AutomationIndex.Proofs.Package.Dialect
import AutomationIndex.Proofs.Scan.Narrowed
import AutomationIndex.Proofs.Scan.Anchored
import AutomationIndex.Proofs.Disk.Onward
import AutomationIndex.Proofs.Scan.Direct
import AutomationIndex.Proofs.Disk.Added
import AutomationIndex.Proofs.Command.Nearest
import AutomationIndex.Proofs.Package.Items
import AutomationIndex.Proofs.Project.Includes
import AutomationIndex.Proofs.Settings.Declared
import AutomationIndex.Proofs.Disk.Rewritten
import AutomationIndex.Proofs.Settings.Spelled
import AutomationIndex.Proofs.Disk.RealPlace
import AutomationIndex.Proofs.Workspace.Places
import AutomationIndex.Proofs.Text.Marks
import AutomationIndex.Proofs.Location.Anchor
import AutomationIndex.Proofs.Location.Named
import AutomationIndex.Proofs.Location.Remainder
import AutomationIndex.Proofs.Location.Rebased
import AutomationIndex.Proofs.Location.Relative
import AutomationIndex.Proofs.Location.Deepest
import AutomationIndex.Proofs.Disk.Outside
import AutomationIndex.Proofs.Project.Active
import AutomationIndex.Proofs.Text.Words
import AutomationIndex.Proofs.Project.Namespaces
import AutomationIndex.Proofs.Scan.Listed
import AutomationIndex.Proofs.Project.Written
