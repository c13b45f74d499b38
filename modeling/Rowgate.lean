import Rowgate.Binary.Format
import Rowgate.Binary.Shortest
import Rowgate.Config.App
import Rowgate.Config.Database
import Rowgate.Config.EnvFile
import Rowgate.Config.Error
import Rowgate.Config.Files
import Rowgate.Config.Load
import Rowgate.Handler.Calls
import Rowgate.Handler.Descriptor
import Rowgate.Handler.Dispatch
import Rowgate.Http.Endpoint
import Rowgate.Http.Message
import Rowgate.Http.Method
import Rowgate.Http.Pattern
import Rowgate.Http.Router
import Rowgate.Input.Decode
import Rowgate.Input.DecodeError
import Rowgate.Input.Fields
import Rowgate.Input.Page
import Rowgate.Input.Shape
import Rowgate.Input.Source
import Rowgate.Json.Numeral
import Rowgate.Json.Parser
import Rowgate.Json.Printer
import Rowgate.Json.Value
import Rowgate.Keyed
import Rowgate.Number.Power
import Rowgate.Operation.Basic
import Rowgate.Operation.Error
import Rowgate.Operation.Report
import Rowgate.Operation.Status
import Rowgate.Proofs.Checked
import Rowgate.Sample.Folder
import Rowgate.Sample.Item
import Rowgate.Sample.Note
import Rowgate.Sample.Replay
import Rowgate.Sample.Routes
import Rowgate.Sample.Script
import Rowgate.Sample.Shapes
import Rowgate.Sample.Shelf
import Rowgate.Sample.World
import Rowgate.Service.Basic
import Rowgate.Service.Catalog
import Rowgate.Sql.Filter
import Rowgate.Sql.Name
import Rowgate.Sql.Page
import Rowgate.Sql.Predicate
import Rowgate.Sql.Query
import Rowgate.Sql.Statement
import Rowgate.Store.Assignments
import Rowgate.Store.Delete
import Rowgate.Store.Error
import Rowgate.Store.Insert
import Rowgate.Store.Pool
import Rowgate.Store.Select
import Rowgate.Store.Session
import Rowgate.Store.Update
import Rowgate.Text.Form
import Rowgate.Text.Hidden
import Rowgate.Text.Integer
import Rowgate.Text.Percent
import Rowgate.Text.Quoted
import Rowgate.Text.Real
import Rowgate.Text.Utf8
import Rowgate.Text.Word
import Rowgate.Toml.Parser
import Rowgate.Toml.Scalar
import Rowgate.Toml.Table
import Rowgate.Toml.Text
import Rowgate.Toml.Value
import Rowgate.Url.Address
import Rowgate.Url.Basic
import Rowgate.Proofs.Draft
import Rowgate.Proofs.Layout
import Rowgate.Proofs.Letters
import Rowgate.Proofs.Spacing
import Rowgate.Proofs.Placeholder
import Rowgate.Proofs.Formula
import Rowgate.Proofs.Lexer
import Rowgate.Proofs.Reader
import Rowgate.Proofs.Where
import Rowgate.Proofs.Guard
import Rowgate.Proofs.Mask
import Rowgate.Proofs.ValueFree
import Rowgate.Proofs.GivenNames
import Rowgate.Proofs.Characters
import Rowgate.Proofs.Quoting
import Rowgate.Proofs.Words
import Rowgate.Proofs.Invocations
import Rowgate.Proofs.Responses
import Rowgate.Proofs.Runs
import Rowgate.Proofs.Writes
import Rowgate.Proofs.Bytes
import Rowgate.Proofs.Tables
import Rowgate.Proofs.Members
import Rowgate.Proofs.Bodies
import Rowgate.Proofs.Records
import Rowgate.Proofs.Forms
import Rowgate.Proofs.Decimals
import Rowgate.Proofs.Pages
import Rowgate.Proofs.Slots
import Rowgate.Proofs.Outcome
import Rowgate.Proofs.Merging
import Rowgate.Proofs.Regrouping
import Rowgate.Proofs.InsertionOrder
import Rowgate.Proofs.Sections
import Rowgate.Proofs.Documents
import Rowgate.Proofs.Configuration
import Rowgate.Proofs.Layers
import Rowgate.Proofs.Exchange
import Rowgate.Proofs.OtherHost
import Rowgate.Proofs.HostOverride
import Rowgate.Proofs.Ranking
import Rowgate.Proofs.Mounting
import Rowgate.Proofs.Clauses
import Rowgate.Proofs.Recovery
import Rowgate.Proofs.Offenders
import Rowgate.Proofs.Renumbering
import Rowgate.Proofs.TextValues
import Rowgate.Proofs.Literals
import Rowgate.Proofs.Agreement
import Rowgate.Proofs.Sentinel
import Rowgate.Proofs.SingleRow
import Rowgate.Proofs.Counting
import Rowgate.Proofs.Variants
import Rowgate.Proofs.TakenOver
import Rowgate.Proofs.Declared
import Rowgate.Proofs.Escapes
import Rowgate.Proofs.Credentials
import Rowgate.Proofs.Lenient
import Rowgate.Proofs.Locations
import Rowgate.Proofs.UrlParts
import Rowgate.Proofs.Destinations
import Rowgate.Proofs.NameGrammar
import Rowgate.Proofs.Composition
import Rowgate.Proofs.Parameters
