import ApiCatalog.Api
import ApiCatalog.Catalog
import ApiCatalog.Condition.Basic
import ApiCatalog.Condition.Parser
import ApiCatalog.Config.Basic
import ApiCatalog.Config.Environment
import ApiCatalog.Config.Printer
import ApiCatalog.Config.Reader
import ApiCatalog.Config.Validation
import ApiCatalog.Decimal.Double
import ApiCatalog.Decimal.Shortest
import ApiCatalog.Definition.Basic
import ApiCatalog.Definition.Draft
import ApiCatalog.Definition.Reader
import ApiCatalog.Document.Extent
import ApiCatalog.Document.Record
import ApiCatalog.Document.Scalar
import ApiCatalog.Document.Schema
import ApiCatalog.Document.Tree
import ApiCatalog.Duration
import ApiCatalog.Error
import ApiCatalog.Export
import ApiCatalog.Export.Document
import ApiCatalog.Export.Version
import ApiCatalog.Group
import ApiCatalog.Identity.Chain
import ApiCatalog.Identity.Directory
import ApiCatalog.Identity.DirectoryServer
import ApiCatalog.Identity.Roster
import ApiCatalog.Identity.SearchFilter
import ApiCatalog.Identity.User
import ApiCatalog.Import
import ApiCatalog.Import.Groups
import ApiCatalog.Import.Members
import ApiCatalog.Import.Pages
import ApiCatalog.Import.Plans
import ApiCatalog.Json.Basic
import ApiCatalog.Json.Printer
import ApiCatalog.Json.Reader
import ApiCatalog.Login
import ApiCatalog.Mapping.Application
import ApiCatalog.Mapping.Grant
import ApiCatalog.Mapping.Rules
import ApiCatalog.Membership
import ApiCatalog.Metrics
import ApiCatalog.Ordered
import ApiCatalog.Page
import ApiCatalog.Plan
import ApiCatalog.Proofs.Accounts
import ApiCatalog.Proofs.Atomicity
import ApiCatalog.Proofs.Canonical
import ApiCatalog.Proofs.Condition.Parse
import ApiCatalog.Proofs.Confinement
import ApiCatalog.Proofs.Convergence
import ApiCatalog.Proofs.Document
import ApiCatalog.Proofs.History
import ApiCatalog.Proofs.Holdings
import ApiCatalog.Proofs.Import.Groups
import ApiCatalog.Proofs.Import.Holdings
import ApiCatalog.Proofs.Import.Matching
import ApiCatalog.Proofs.Import.Members
import ApiCatalog.Proofs.Import.NewApi
import ApiCatalog.Proofs.Import.Outcome
import ApiCatalog.Proofs.Import.Pages
import ApiCatalog.Proofs.Import.Plans
import ApiCatalog.Proofs.Import.Refusal
import ApiCatalog.Proofs.Import.RoleChanges
import ApiCatalog.Proofs.Independence
import ApiCatalog.Proofs.Integrity
import ApiCatalog.Proofs.Json
import ApiCatalog.Proofs.Login
import ApiCatalog.Proofs.Mapping
import ApiCatalog.Proofs.Mapping.Application
import ApiCatalog.Proofs.Mapping.Assignments
import ApiCatalog.Proofs.NormalForm
import ApiCatalog.Proofs.Ordered
import ApiCatalog.Proofs.Ownership
import ApiCatalog.Proofs.Rearrangement
import ApiCatalog.Proofs.Record
import ApiCatalog.Proofs.Regular
import ApiCatalog.Proofs.Reimport
import ApiCatalog.Proofs.Restore
import ApiCatalog.Proofs.Results
import ApiCatalog.Proofs.RoundTrip
import ApiCatalog.Proofs.Store.Consistent
import ApiCatalog.Proofs.Store.Counts
import ApiCatalog.Proofs.Store.Fresh
import ApiCatalog.Proofs.Store.Representation
import ApiCatalog.Proofs.Store.Tables
import ApiCatalog.Proofs.Store.Writes
import ApiCatalog.Proofs.Task
import ApiCatalog.Proofs.Text.Blank
import ApiCatalog.Proofs.Text.Case
import ApiCatalog.Proofs.Upsert
import ApiCatalog.Proofs.Validation
import ApiCatalog.Role
import ApiCatalog.Role.Reader
import ApiCatalog.Server
import ApiCatalog.Server.Message
import ApiCatalog.Server.Route
import ApiCatalog.Server.Status
import ApiCatalog.Store.Basic
import ApiCatalog.Store.Fresh
import ApiCatalog.Store.Writes
import ApiCatalog.Text.Alphanumeric
import ApiCatalog.Text.Blank
import ApiCatalog.Text.Case
import ApiCatalog.Text.Case.Table
import ApiCatalog.Text.Direction
import ApiCatalog.Text.Joining
import ApiCatalog.Text.Mark
import ApiCatalog.Text.Mark.Table
import ApiCatalog.Text.Normal
import ApiCatalog.Text.Normal.Table
import ApiCatalog.Text.Ranges
import ApiCatalog.Text.Utf8
import ApiCatalog.Url.Absolute
import ApiCatalog.Url.Domain
import ApiCatalog.Url.Domain.Mapping
import ApiCatalog.Url.Domain.Mapping.Table
import ApiCatalog.Url.Encoded
import ApiCatalog.Url.Host
import ApiCatalog.Url.Punycode
import ApiCatalog.Wire
import ApiCatalog.Word
import ApiCatalog.Yaml.Content
import ApiCatalog.Yaml.Cursor
import ApiCatalog.Yaml.Node
import ApiCatalog.Yaml.Reader
import ApiCatalog.Yaml.Token
import ApiCatalog.Proofs.Erasure
import ApiCatalog.Proofs.Noninterference
import ApiCatalog.Proofs.Identity
import ApiCatalog.Proofs.Resolution
import ApiCatalog.Proofs.SearchFilter.Value
import ApiCatalog.Proofs.SearchFilter.Reading
import ApiCatalog.Proofs.Text.Span
import ApiCatalog.Proofs.SearchFilter.Parse
import ApiCatalog.Proofs.SearchFilter.Users
import ApiCatalog.Proofs.Directory
import ApiCatalog.Proofs.Condition.Progress
import ApiCatalog.Proofs.Condition.Comparisons
import ApiCatalog.Proofs.Condition.Spellings
import ApiCatalog.Proofs.Tolerance
import ApiCatalog.Proofs.Import.MissingGroups
import ApiCatalog.Proofs.Completeness
