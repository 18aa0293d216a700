import SecurityConsole.ApiError
import SecurityConsole.Console.Basic
import SecurityConsole.Console.Branding
import SecurityConsole.Console.Channel
import SecurityConsole.Console.Inventory
import SecurityConsole.Console.Job
import SecurityConsole.Console.Navigation
import SecurityConsole.Console.Requests
import SecurityConsole.Console.SignIn
import SecurityConsole.Console.Tally
import SecurityConsole.Console.Transport
import SecurityConsole.Console.Workload
import SecurityConsole.Credentials
import SecurityConsole.Envelope
import SecurityConsole.History
import SecurityConsole.Http.Message
import SecurityConsole.Json.Document
import SecurityConsole.Json.Numeral
import SecurityConsole.Json.Printer
import SecurityConsole.Json.Token
import SecurityConsole.Json.Value
import SecurityConsole.Notice
import SecurityConsole.Number.Double
import SecurityConsole.Number.Rounding
import SecurityConsole.Number.Shortest
import SecurityConsole.Number.Word
import SecurityConsole.Proofs.Branding.Converging
import SecurityConsole.Proofs.Branding.Head
import SecurityConsole.Proofs.Branding.Signals
import SecurityConsole.Proofs.Identity.Attribution
import SecurityConsole.Proofs.Identity.Origin
import SecurityConsole.Proofs.Inventory.Totals
import SecurityConsole.Proofs.Job.Acts
import SecurityConsole.Proofs.Job.Blind
import SecurityConsole.Proofs.Job.Ensures
import SecurityConsole.Proofs.Json.Grammar
import SecurityConsole.Proofs.Json.Printing
import SecurityConsole.Proofs.Json.Quoted
import SecurityConsole.Proofs.Json.Reading
import SecurityConsole.Proofs.Json.TextTable
import SecurityConsole.Proofs.Navigation.Journey
import SecurityConsole.Proofs.Navigation.Outcome
import SecurityConsole.Proofs.Navigation.Protected
import SecurityConsole.Proofs.Navigation.Steps
import SecurityConsole.Proofs.Resource.Ids
import SecurityConsole.Proofs.Resource.Listing
import SecurityConsole.Proofs.Resource.Records
import SecurityConsole.Proofs.Resource.Unset
import SecurityConsole.Proofs.Route.Apart
import SecurityConsole.Proofs.Route.Matching
import SecurityConsole.Proofs.Route.Spelling
import SecurityConsole.Proofs.Run.Accounting
import SecurityConsole.Proofs.Run.Alike
import SecurityConsole.Proofs.Run.Batch
import SecurityConsole.Proofs.Run.Delivery
import SecurityConsole.Proofs.Run.Effects
import SecurityConsole.Proofs.Run.Expiry
import SecurityConsole.Proofs.Run.History
import SecurityConsole.Proofs.Run.Numbering
import SecurityConsole.Proofs.Run.Promise
import SecurityConsole.Proofs.Run.Settlement
import SecurityConsole.Proofs.Run.Task
import SecurityConsole.Proofs.Run.Trail
import SecurityConsole.Proofs.Session.Changes
import SecurityConsole.Proofs.Session.Stored
import SecurityConsole.Proofs.Session.Torn
import SecurityConsole.Proofs.Settings.Layers
import SecurityConsole.Proofs.Settings.Leaves
import SecurityConsole.Proofs.Settings.Merging
import SecurityConsole.Proofs.Settings.Variables
import SecurityConsole.Proofs.SignIn.Failure
import SecurityConsole.Proofs.SignIn.Restart
import SecurityConsole.Proofs.SignIn.Rules
import SecurityConsole.Proofs.Storage.Contents
import SecurityConsole.Proofs.Storage.Interruption
import SecurityConsole.Proofs.Storage.Reopening
import SecurityConsole.Proofs.Storage.Stages
import SecurityConsole.Proofs.Storage.Tree
import SecurityConsole.Proofs.Storage.Writing
import SecurityConsole.Proofs.Time.Ages
import SecurityConsole.Proofs.Time.Calendar
import SecurityConsole.Proofs.Time.Digits
import SecurityConsole.Proofs.Time.Reading
import SecurityConsole.Proofs.Time.Showing
import SecurityConsole.Proofs.Time.Writing
import SecurityConsole.Proofs.Trace.Headers
import SecurityConsole.Proofs.Transport.Refusal
import SecurityConsole.Proofs.Transport.Status
import SecurityConsole.Proofs.Transport.Unwrapping
import SecurityConsole.Proofs.Url.Joining
import SecurityConsole.Proofs.Validation.Forms
import SecurityConsole.Resource.Alerts
import SecurityConsole.Resource.Assets
import SecurityConsole.Resource.BusinessLines
import SecurityConsole.Resource.Catalog
import SecurityConsole.Resource.Components
import SecurityConsole.Resource.Dashboard
import SecurityConsole.Resource.Endpoint
import SecurityConsole.Resource.Fix
import SecurityConsole.Resource.Hosts
import SecurityConsole.Resource.Notifications
import SecurityConsole.Resource.Policies
import SecurityConsole.Resource.Severity
import SecurityConsole.Resource.System
import SecurityConsole.Resource.Tasks
import SecurityConsole.Resource.Users
import SecurityConsole.Route.Pattern
import SecurityConsole.Route.Table
import SecurityConsole.Route.View
import SecurityConsole.Schema.Basic
import SecurityConsole.Schema.Reader
import SecurityConsole.Session
import SecurityConsole.SessionUser
import SecurityConsole.Settings.Basic
import SecurityConsole.Settings.Dotenv
import SecurityConsole.Settings.Environment
import SecurityConsole.Settings.Sources
import SecurityConsole.Settings.Tree
import SecurityConsole.Settings.Yaml
import SecurityConsole.Settings.Yaml.Collection
import SecurityConsole.Settings.Yaml.Marks
import SecurityConsole.Settings.Yaml.Node
import SecurityConsole.Settings.Yaml.Scalar
import SecurityConsole.Settings.Yaml.Value
import SecurityConsole.SiteConfig
import SecurityConsole.Storage.Basic
import SecurityConsole.Storage.FileStore
import SecurityConsole.Storage.FileTree
import SecurityConsole.Storage.Items
import SecurityConsole.Text.Blank
import SecurityConsole.Text.Combining
import SecurityConsole.Text.Cut
import SecurityConsole.Text.Hex
import SecurityConsole.Text.Invisible
import SecurityConsole.Text.Lossy
import SecurityConsole.Text.Quoted
import SecurityConsole.Text.Uppercase
import SecurityConsole.Text.Utf8
import SecurityConsole.Time.Date
import SecurityConsole.Time.Display
import SecurityConsole.Time.Moment
import SecurityConsole.Time.Stamp
import SecurityConsole.Time.Zone
import SecurityConsole.Trace.Context
import SecurityConsole.Url.Address
import SecurityConsole.Url.Form
import SecurityConsole.Url.Join
import SecurityConsole.Url.Percent
import SecurityConsole.Validation.DomainName
import SecurityConsole.Validation.Email
import SecurityConsole.Validation.IpAddress
import SecurityConsole.Validation.Rules
