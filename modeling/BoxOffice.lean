import BoxOffice.Broker.Hub
import BoxOffice.Broker.Message
import BoxOffice.Broker.Redis
import BoxOffice.Broker.RedisUrl
import BoxOffice.Config
import BoxOffice.Decode
import BoxOffice.FileTree
import BoxOffice.Http.App
import BoxOffice.Http.Form
import BoxOffice.Http.Request
import BoxOffice.Http.Response
import BoxOffice.Id
import BoxOffice.Json.Fault
import BoxOffice.Json.Node
import BoxOffice.Json.Printer
import BoxOffice.Json.Token
import BoxOffice.Json.Value
import BoxOffice.Log
import BoxOffice.Net.DomainMapping
import BoxOffice.Net.DomainName
import BoxOffice.Net.Host
import BoxOffice.Net.SocketAddress
import BoxOffice.Net.Url
import BoxOffice.Number.Double
import BoxOffice.Number.Shortest
import BoxOffice.Service.Availability
import BoxOffice.Service.Notifier
import BoxOffice.Service.Plan
import BoxOffice.Startup
import BoxOffice.Store.DatabaseUrl
import BoxOffice.Store.Error
import BoxOffice.Store.Gateway
import BoxOffice.Store.Memory
import BoxOffice.Store.Postgres
import BoxOffice.Store.Query
import BoxOffice.Store.Script
import BoxOffice.Store.Sql
import BoxOffice.Store.Table
import BoxOffice.Text.Blank
import BoxOffice.Text.CodePoints
import BoxOffice.Text.Combining
import BoxOffice.Text.Composition
import BoxOffice.Text.Direction
import BoxOffice.Text.Joining
import BoxOffice.Text.Numeral
import BoxOffice.Text.Percent
import BoxOffice.Text.Printable
import BoxOffice.Text.Punycode
import BoxOffice.Text.Quoted
import BoxOffice.Text.Split
import BoxOffice.Text.Utf8
import BoxOffice.Ticket.Notification
import BoxOffice.Ticket.Policy
import BoxOffice.Ticket.Record
import BoxOffice.Ticket.Request
import BoxOffice.Ticket.View
import BoxOffice.TicketError
import BoxOffice.Time.Reading
import BoxOffice.Time.Timestamp
import BoxOffice.Uuid
import BoxOffice.Proofs.Chain
import BoxOffice.Proofs.Store.Lookup
import BoxOffice.Proofs.Service.Run
import BoxOffice.Proofs.Service.Calls
import BoxOffice.Proofs.Service.Message
import BoxOffice.Proofs.Service.Stages
import BoxOffice.Proofs.Service.Inquiry
import BoxOffice.Proofs.Json.Fields
import BoxOffice.Proofs.Ticket.Document
import BoxOffice.Proofs.Service.Listing
import BoxOffice.Proofs.Service.Winner
import BoxOffice.Proofs.Service.Elsewhere
import BoxOffice.Proofs.Service.Standing
import BoxOffice.Proofs.Service.Deadline
import BoxOffice.Proofs.Text.Numeral
import BoxOffice.Proofs.Store.Column
import BoxOffice.Proofs.Json.Grammar
import BoxOffice.Proofs.Json.Spelling
import BoxOffice.Proofs.Json.Roundtrip
import BoxOffice.Proofs.Store.Agreement
import BoxOffice.Proofs.Broker.Delivery
import BoxOffice.Proofs.Service.Isolation
import BoxOffice.Proofs.Service.Shown
import BoxOffice.Proofs.Http.Form
import BoxOffice.Proofs.Http.Answer
import BoxOffice.Proofs.Http.Uniform
import BoxOffice.Proofs.Service.Failure
import BoxOffice.Proofs.Session.Alike
import BoxOffice.Proofs.Session.Transcript
import BoxOffice.Proofs.Session.Broker
import BoxOffice.Proofs.Session.Reads
import BoxOffice.Proofs.Broker.Traffic
import BoxOffice.Proofs.Broker.InTurn
import BoxOffice.Proofs.Broker.Overlap
import BoxOffice.Proofs.Time.Roundtrip
import BoxOffice.Proofs.Json.Plain
import BoxOffice.Proofs.Json.Order
import BoxOffice.Proofs.Json.Lexing
import BoxOffice.Proofs.Json.Syntax
import BoxOffice.Proofs.Ticket.Format
import BoxOffice.Proofs.Ticket.Roundtrip
import BoxOffice.Proofs.Store.Meaning
import BoxOffice.Proofs.Service.Rearrangement
import BoxOffice.Proofs.Service.Stock
import BoxOffice.Proofs.Store.Placeholders
import BoxOffice.Proofs.Store.Paging
import BoxOffice.Proofs.Service.Payload
import BoxOffice.Proofs.Http.Trail
import BoxOffice.Proofs.Session.Seeding
import BoxOffice.Proofs.Service.Threshold
import BoxOffice.Proofs.Ticket.Discount
import BoxOffice.Proofs.Settings
import BoxOffice.Proofs.Uuid
import BoxOffice.Proofs.Http.Identifier
import BoxOffice.Proofs.Text.ByteOrder
import BoxOffice.Proofs.Id
