import VpcMachines.Calendar
import VpcMachines.Cloud
import VpcMachines.Decimal.Layout
import VpcMachines.Decimal.Reading
import VpcMachines.Decimal.Shortest
import VpcMachines.Fault
import VpcMachines.Files
import VpcMachines.Instance
import VpcMachines.Json.Basic
import VpcMachines.Json.Printer
import VpcMachines.Json.Reader
import VpcMachines.Json.Shape
import VpcMachines.Link.Host
import VpcMachines.Link.Query
import VpcMachines.Listing.Page
import VpcMachines.Listing.Walk
import VpcMachines.Machine.Basic
import VpcMachines.Machine.Lifecycle
import VpcMachines.Network
import VpcMachines.Pool.Basic
import VpcMachines.Pool.Membership
import VpcMachines.Program
import VpcMachines.Reference.Basic
import VpcMachines.Reference.Resolve
import VpcMachines.Rest.Client
import VpcMachines.Rest.Record
import VpcMachines.Schema.Datum
import VpcMachines.Schema.IntegerText
import VpcMachines.Schema.Scalar
import VpcMachines.Schema.Verdict
import VpcMachines.Secret.Basic
import VpcMachines.Secret.Store
import VpcMachines.Settings.Basic
import VpcMachines.Settings.Load
import VpcMachines.Text.Base64
import VpcMachines.Text.Blank
import VpcMachines.Text.Halves
import VpcMachines.Text.Lowercase
import VpcMachines.Text.Newline
import VpcMachines.Text.Quoted
import VpcMachines.Text.Ranges
import VpcMachines.Text.Shown
import VpcMachines.Text.Split
import VpcMachines.Text.Utf8
import VpcMachines.Yaml.Atom
import VpcMachines.Yaml.Document
import VpcMachines.Yaml.Fault
import VpcMachines.Yaml.Graph.Basic
import VpcMachines.Yaml.Graph.Merging
import VpcMachines.Yaml.Graph.Reading
import VpcMachines.Yaml.Line
import VpcMachines.Yaml.Number
import VpcMachines.Yaml.NumberOrder
import VpcMachines.Yaml.Rendering
import VpcMachines.Yaml.Resolution
import VpcMachines.Yaml.Scalar.Block
import VpcMachines.Yaml.Scalar.Plain
import VpcMachines.Yaml.Scalar.Quoted
import VpcMachines.Yaml.Scan
import VpcMachines.Yaml.Tag
import VpcMachines.Yaml.Timestamp
import VpcMachines.Yaml.Token
import VpcMachines.Proofs.Schema.Acceptance
import VpcMachines.Proofs.Schema.Written
import VpcMachines.Proofs.Settings.Validity
import VpcMachines.Proofs.Schema.Projection
import VpcMachines.Proofs.Trace
import VpcMachines.Proofs.Ending
import VpcMachines.Proofs.Yielding
import VpcMachines.Proofs.Running
import VpcMachines.Proofs.Stopping
import VpcMachines.Proofs.Quiet
import VpcMachines.Proofs.Listing.Search
import VpcMachines.Proofs.Listing.Chain
import VpcMachines.Proofs.Listing.Coverage
import VpcMachines.Proofs.Listing.Cursors
import VpcMachines.Proofs.Lookups
import VpcMachines.Proofs.Machine.Stages
import VpcMachines.Proofs.Machine.Bootstrap
import VpcMachines.Proofs.Machine.Fleet
import VpcMachines.Proofs.Machine.Uniqueness
import VpcMachines.Proofs.Pool.Exits
import VpcMachines.Proofs.Pool.Guards
import VpcMachines.Proofs.Pool.Site
import VpcMachines.Proofs.Pool.Uniqueness
import VpcMachines.Proofs.Mutation
import VpcMachines.Proofs.Surfacing
import VpcMachines.Proofs.Machine.Failures
import VpcMachines.Proofs.Serving
import VpcMachines.Proofs.Rest.Services
import VpcMachines.Proofs.Rest.Tolerance
import VpcMachines.Proofs.Teardown
import VpcMachines.Proofs.Reference.Catalog
import VpcMachines.Proofs.Machine.Meaning
import VpcMachines.Proofs.Machine.World
import VpcMachines.Proofs.FaithfulStatus
import VpcMachines.Proofs.Link.Query
import VpcMachines.Proofs.Rest.Records
import VpcMachines.Proofs.Rest.Cursor
import VpcMachines.Proofs.Rest.Readings
import VpcMachines.Proofs.Machine.Spelling
import VpcMachines.Proofs.Rest.Listings
import VpcMachines.Proofs.Rest.Absence
import VpcMachines.Proofs.Rest.Completeness
import VpcMachines.Proofs.Listing.Pages
import VpcMachines.Proofs.Listing.Flattening
import VpcMachines.Proofs.Listing.Sights
import VpcMachines.Proofs.Listing.Laziness
import VpcMachines.Proofs.Pool.Crowding
import VpcMachines.Proofs.Pool.Ports
import VpcMachines.Proofs.Text.Base64
import VpcMachines.Proofs.Text.Padding
import VpcMachines.Proofs.Yaml.Words
import VpcMachines.Proofs.Yaml.Mappings
import VpcMachines.Proofs.Yaml.Numerals
import VpcMachines.Proofs.Yaml.Restatement
import VpcMachines.Proofs.Failing
import VpcMachines.Proofs.Yaml.Writing
import VpcMachines.Proofs.Files.Documents
import VpcMachines.Proofs.Files.Confinement
import VpcMachines.Proofs.Settings.Loading
import VpcMachines.Proofs.Secret.Layout
import VpcMachines.Proofs.Secret.Encoded
import VpcMachines.Proofs.Secret.Delivery
import VpcMachines.Proofs.Secret.Contract
import VpcMachines.Proofs.Secret.Namespaces
import VpcMachines.Proofs.Machine.UserData
import VpcMachines.Proofs.Rest.Body
import VpcMachines.Proofs.Rest.UserData
