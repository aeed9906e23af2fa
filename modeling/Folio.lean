import Folio.Cli.Arguments
import Folio.Cli.Help
import Folio.Cli.Report
import Folio.Cli.SiteTool
import Folio.Cli.TemplateTool
import Folio.Decimal.Shortest
import Folio.Error
import Folio.Folder.Disk
import Folio.Folder.Path
import Folio.Folder.Walk
import Folio.Http.Answer
import Folio.Http.Message
import Folio.Http.Query
import Folio.Http.Uri
import Folio.Json.Reader
import Folio.Json.Value
import Folio.Json.Writer
import Folio.Main
import Folio.Page.Basic
import Folio.Page.Parts
import Folio.Page.Program
import Folio.Pattern.Bracket
import Folio.Pattern.ByteSpan
import Folio.Pattern.Classes
import Folio.Pattern.Escape
import Folio.Pattern.Expression
import Folio.Pattern.Footprint
import Folio.Pattern.Program
import Folio.Pattern.Reader
import Folio.Pattern.Search
import Folio.Pattern.Shape
import Folio.Pattern.Syntax
import Folio.Proofs.Scanner.Events
import Folio.Proofs.Scanner.Grammar
import Folio.Registry.Basic
import Folio.Registry.Descriptor
import Folio.Registry.Traffic
import Folio.Render.Basic
import Folio.Render.Fill
import Folio.Render.Output
import Folio.Render.Page
import Folio.Render.Template
import Folio.Request.Basic
import Folio.Request.Model
import Folio.Request.PathData
import Folio.Route.Declaration
import Folio.Route.Table
import Folio.Scanner.Basic
import Folio.Scanner.ByteStream
import Folio.Scanner.CharStream
import Folio.Scanner.Options
import Folio.Settings.Basic
import Folio.Settings.Load
import Folio.Settings.Problems
import Folio.Settings.SocketAddress
import Folio.Shutdown
import Folio.Site.Basic
import Folio.Site.Demonstration
import Folio.Site.Dispatch
import Folio.Template.Store
import Folio.Text.Blank
import Folio.Text.Casing
import Folio.Text.Hexadecimal
import Folio.Text.Quoted
import Folio.Text.Utf8
import Folio.Toml.Reader
import Folio.Toml.Scalar
import Folio.Toml.Table
import Folio.Toml.Text
import Folio.Unicode.Age
import Folio.Unicode.Break
import Folio.Unicode.CaseMap
import Folio.Unicode.Category
import Folio.Unicode.CharSet
import Folio.Unicode.Edition
import Folio.Unicode.Named
import Folio.Unicode.Property
import Folio.Unicode.Script
import Folio.Proofs.Scanner.Reading
import Folio.Proofs.Render.Script
import Folio.Proofs.Render.Running
import Folio.Proofs.Render.Expansion
import Folio.Proofs.Render.PassingOn
import Folio.Proofs.Render.Perform
import Folio.Proofs.Render.Depth
import Folio.Proofs.Render.Preserving
import Folio.Proofs.Site.Answering
import Folio.Proofs.Site.Assembling
import Folio.Proofs.Site.Handling
import Folio.Proofs.Site.Nesting
import Folio.Proofs.Registry.Lookup
import Folio.Proofs.Registry.Session
import Folio.Proofs.Registry.Traffic
import Folio.Proofs.Route.Building
import Folio.Proofs.Scanner.Writing
import Folio.Proofs.Scanner.Streaming
import Folio.Proofs.Scanner.Buffering
import Folio.Proofs.Text.Utf8
import Folio.Proofs.Text.Casing
import Folio.Proofs.Pattern.Grammar
import Folio.Proofs.Pattern.Matching
import Folio.Proofs.Route.Resolution
import Folio.Proofs.Pattern.Emission
import Folio.Proofs.Pattern.Searching
import Folio.Proofs.Unicode.Folding
import Folio.Proofs.Unicode.Membership
import Folio.Proofs.Pattern.Beginning
import Folio.Proofs.Route.Confinement
import Folio.Proofs.Pattern.Ending
import Folio.Proofs.Pattern.Fitting
import Folio.Proofs.Pattern.Compiling
import Folio.Proofs.Route.Defaults
import Folio.Proofs.Scanner.Rooted
import Folio.Proofs.Route.Stripping
import Folio.Proofs.Route.Linking
import Folio.Proofs.Route.Caseless
import Folio.Proofs.Settings.Rooting
import Folio.Proofs.Scanner.Rejection
import Folio.Proofs.Render.Congruence
import Folio.Proofs.Render.Keeping
import Folio.Proofs.Site.Repeating
import Folio.Proofs.Render.Filling
import Folio.Proofs.Render.Watching
import Folio.Proofs.Render.Tallying
import Folio.Proofs.Site.Accounting
import Folio.Proofs.Http.Serving
import Folio.Proofs.Cli.Inspecting
import Folio.Proofs.Render.Settling
import Folio.Proofs.Site.Terminating
import Folio.Proofs.Scanner.Decoding
import Folio.Proofs.Page.Resolving
import Folio.Proofs.Render.Sections
import Folio.Proofs.Folder.Naming
import Folio.Proofs.Folder.Walking
import Folio.Proofs.Template.Locating
import Folio.Proofs.Registry.Evicting
import Folio.Proofs.Scanner.Batching
import Folio.Proofs.Scanner.Naming
import Folio.Proofs.Render.Access
import Folio.Proofs.Json.Members
import Folio.Proofs.Request.Selecting
import Folio.Proofs.Page.Registering
import Folio.Proofs.Shutdown.Hearing
