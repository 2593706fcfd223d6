import GuardedTools.Access.Audit
import GuardedTools.Access.Gate
import GuardedTools.Access.Identity
import GuardedTools.Access.Notation
import GuardedTools.Access.Policy
import GuardedTools.Access.PolicyFile
import GuardedTools.Access.PolicyTables
import GuardedTools.Binary64
import GuardedTools.Binary64.Shortest
import GuardedTools.Calendar
import GuardedTools.Calendar.Reader
import GuardedTools.Check
import GuardedTools.Check.Bound
import GuardedTools.Check.CalendarValue
import GuardedTools.Check.Form
import GuardedTools.Check.Issue
import GuardedTools.Check.Numeral
import GuardedTools.Check.Scalar
import GuardedTools.Check.Verdict
import GuardedTools.Command
import GuardedTools.Command.Line
import GuardedTools.Decimal
import GuardedTools.Digest.Sha2
import GuardedTools.Dump
import GuardedTools.Extension
import GuardedTools.Extension.Shim
import GuardedTools.Files
import GuardedTools.Http.App
import GuardedTools.Http.Message
import GuardedTools.Http.Target
import GuardedTools.Json
import GuardedTools.Json.Encoded
import GuardedTools.Json.Printer
import GuardedTools.Json.Reader
import GuardedTools.Json.Strict
import GuardedTools.Log
import GuardedTools.Logging
import GuardedTools.Logging.Config
import GuardedTools.Logging.File
import GuardedTools.Logging.Format
import GuardedTools.Logging.Maker
import GuardedTools.Logging.Reference
import GuardedTools.Main
import GuardedTools.Proofs.Access.Decision
import GuardedTools.Proofs.Access.Document
import GuardedTools.Proofs.Access.Inheritance
import GuardedTools.Proofs.Access.Loading
import GuardedTools.Proofs.Access.Roles
import GuardedTools.Proofs.Access.Token
import GuardedTools.Proofs.Access.Trail
import GuardedTools.Proofs.Access.Written
import GuardedTools.Proofs.Basic
import GuardedTools.Proofs.Binary64
import GuardedTools.Proofs.Check.Accepting
import GuardedTools.Proofs.Check.Finite
import GuardedTools.Proofs.Check.Records
import GuardedTools.Proofs.Command
import GuardedTools.Proofs.Extension
import GuardedTools.Proofs.Extension.Shim
import GuardedTools.Proofs.Json.Finite
import GuardedTools.Proofs.Json.Grammar
import GuardedTools.Proofs.Json.Members
import GuardedTools.Proofs.Json.Numerals
import GuardedTools.Proofs.Json.Quotes
import GuardedTools.Proofs.Json.ReadLimits
import GuardedTools.Proofs.Json.RoundTrip
import GuardedTools.Proofs.Json.Strict
import GuardedTools.Proofs.Json.Validity
import GuardedTools.Proofs.Logging
import GuardedTools.Proofs.Service.Accounting
import GuardedTools.Proofs.Service.Advertised
import GuardedTools.Proofs.Service.ArgumentForms
import GuardedTools.Proofs.Service.Caller
import GuardedTools.Proofs.Service.Denial
import GuardedTools.Proofs.Service.Discovery
import GuardedTools.Proofs.Service.Dispatch
import GuardedTools.Proofs.Service.Export
import GuardedTools.Proofs.Service.Failure
import GuardedTools.Proofs.Service.FilteredDiscovery
import GuardedTools.Proofs.Service.Identity
import GuardedTools.Proofs.Service.Labels
import GuardedTools.Proofs.Service.Mediation
import GuardedTools.Proofs.Service.Startup
import GuardedTools.Proofs.Service.Transport
import GuardedTools.Proofs.Shape.Accepted
import GuardedTools.Proofs.Shape.Alternatives
import GuardedTools.Proofs.Shape.Canonical
import GuardedTools.Proofs.Shape.Carries
import GuardedTools.Proofs.Shape.Conforming
import GuardedTools.Proofs.Shape.Depth
import GuardedTools.Proofs.Shape.Document
import GuardedTools.Proofs.Shape.Finite
import GuardedTools.Proofs.Shape.Heeded
import GuardedTools.Proofs.Shape.Naming
import GuardedTools.Proofs.Shape.Numbers
import GuardedTools.Proofs.Shape.Recovered
import GuardedTools.Proofs.Shape.References
import GuardedTools.Proofs.Shape.Told
import GuardedTools.Proofs.Shape.WellFormed
import GuardedTools.Proofs.Text
import GuardedTools.Proofs.Tool.Arguments
import GuardedTools.Proofs.Tool.Building
import GuardedTools.Proofs.Tool.CallShape
import GuardedTools.Proofs.Tool.Collection
import GuardedTools.Proofs.Tool.Finite
import GuardedTools.Proofs.Tool.Made
import GuardedTools.Proofs.Tool.Name
import GuardedTools.Proofs.Tool.Receiver
import GuardedTools.Proofs.Tool.Registry
import GuardedTools.Proofs.TypeTag.Canonical
import GuardedTools.Proofs.TypeTag.Rendering
import GuardedTools.Proofs.TypeTag.Search
import GuardedTools.Proofs.Value.Everywhere
import GuardedTools.Proofs.Yaml.Tokens
import GuardedTools.Proofs.Yaml.Values
import GuardedTools.Service
import GuardedTools.Service.Dispatch
import GuardedTools.Service.Endpoint
import GuardedTools.Service.Journal
import GuardedTools.Settings
import GuardedTools.Settings.EnvFile
import GuardedTools.Settings.Notation
import GuardedTools.Settings.Sources
import GuardedTools.Shape
import GuardedTools.Shape.Definitions
import GuardedTools.Shape.Limits
import GuardedTools.Shape.OfType
import GuardedTools.Shape.Schema
import GuardedTools.Storage.Address
import GuardedTools.Storage.Engine
import GuardedTools.Text
import GuardedTools.Text.Base64
import GuardedTools.Text.Blank
import GuardedTools.Text.Case
import GuardedTools.Text.Category
import GuardedTools.Text.Digit
import GuardedTools.Text.EncodingName
import GuardedTools.Text.Fold
import GuardedTools.Text.Normal
import GuardedTools.Text.Pattern
import GuardedTools.Text.Pattern.Brackets
import GuardedTools.Text.Pattern.Escape
import GuardedTools.Text.Pattern.Fault
import GuardedTools.Text.Pattern.Meaning
import GuardedTools.Text.Pattern.Reader
import GuardedTools.Text.Pattern.Size
import GuardedTools.Text.Pattern.Source
import GuardedTools.Text.Pattern.Term
import GuardedTools.Text.Percent
import GuardedTools.Text.PointSet
import GuardedTools.Text.Printable
import GuardedTools.Text.Property
import GuardedTools.Text.Quoted
import GuardedTools.Text.Script
import GuardedTools.Text.Utf8
import GuardedTools.Text.Word
import GuardedTools.Token
import GuardedTools.Token.Key
import GuardedTools.Token.Validity
import GuardedTools.Tool.BuildError
import GuardedTools.Tool.Call
import GuardedTools.Tool.Candidate
import GuardedTools.Tool.Declaration
import GuardedTools.Tool.Definition
import GuardedTools.Tool.Definition.Notation
import GuardedTools.Tool.Descriptor
import GuardedTools.Tool.Module
import GuardedTools.Tool.Notation
import GuardedTools.Tool.Registry
import GuardedTools.Tool.Sample
import GuardedTools.Tool.Signature
import GuardedTools.TypeExpr
import GuardedTools.TypeExpr.Fault
import GuardedTools.TypeExpr.Forward
import GuardedTools.TypeExpr.Notation
import GuardedTools.TypeExpr.Term
import GuardedTools.TypeTag
import GuardedTools.Value
import GuardedTools.Value.Canonical
import GuardedTools.Value.Display
import GuardedTools.Value.Integer
import GuardedTools.Value.Items
import GuardedTools.Value.Notation
import GuardedTools.Value.Order
import GuardedTools.Value.Published
import GuardedTools.Value.SetOrder
import GuardedTools.Yaml
import GuardedTools.Yaml.Cursor
import GuardedTools.Yaml.Node
import GuardedTools.Yaml.Node.Reader
import GuardedTools.Yaml.Node.Scalar
import GuardedTools.Yaml.Token.Mark
import GuardedTools.Yaml.Token.Reader
import GuardedTools.Yaml.Token.Scalar
