import FileServer.AccessLog.Account
import FileServer.AccessLog.Entry
import FileServer.AccessLog.Format
import FileServer.Calendar.Date
import FileServer.Calendar.HttpDate
import FileServer.Calendar.Instant
import FileServer.Disk.Edit
import FileServer.Disk.Error
import FileServer.Disk.Path
import FileServer.Disk.Tree
import FileServer.Disk.Walk
import FileServer.Host.Files
import FileServer.Host.Sockets
import FileServer.Journal.Desk
import FileServer.Journal.Incident
import FileServer.Journal.Record
import FileServer.Journal.Writer
import FileServer.Launch.Banner
import FileServer.Launch.Error
import FileServer.Launch.Prepare
import FileServer.Launch.Run
import FileServer.Main
import FileServer.MediaType.Registry
import FileServer.MediaType.Resolve
import FileServer.Message.CrossOrigin
import FileServer.Message.Headers
import FileServer.Message.Request
import FileServer.Message.Response
import FileServer.Message.Status
import FileServer.Net.Address
import FileServer.Net.Listeners
import FileServer.Number.Binary64
import FileServer.Number.Decimal
import FileServer.Number.Wide
import FileServer.Page.Escape
import FileServer.Page.Listing
import FileServer.Page.Problem
import FileServer.Proofs.Accounts
import FileServer.Proofs.Agreement
import FileServer.Proofs.Answers
import FileServer.Proofs.Composition
import FileServer.Proofs.Containment
import FileServer.Proofs.CrossOrigin
import FileServer.Proofs.DateParts
import FileServer.Proofs.Dates
import FileServer.Proofs.Fields
import FileServer.Proofs.Framing
import FileServer.Proofs.HttpDates
import FileServer.Proofs.Links
import FileServer.Proofs.Numerals
import FileServer.Proofs.Outcomes
import FileServer.Proofs.Paths
import FileServer.Proofs.Percent
import FileServer.Proofs.Pieces
import FileServer.Proofs.Places
import FileServer.Proofs.Printable
import FileServer.Proofs.Refusals
import FileServer.Proofs.Revalidation
import FileServer.Proofs.Spellings
import FileServer.Proofs.Targets
import FileServer.Proofs.Translation
import FileServer.Proofs.Utf8
import FileServer.Settings.Basic
import FileServer.Settings.Decode
import FileServer.Settings.Environment
import FileServer.Settings.Error
import FileServer.Settings.Format
import FileServer.Settings.Ini
import FileServer.Settings.Json.Document
import FileServer.Settings.Json.Number
import FileServer.Settings.Json.Relaxed
import FileServer.Settings.Key
import FileServer.Settings.Load
import FileServer.Settings.Ron.Document
import FileServer.Settings.Ron.Number
import FileServer.Settings.Ron.Quoted
import FileServer.Settings.Toml.Document
import FileServer.Settings.Toml.Lexeme
import FileServer.Settings.Toml.Moment
import FileServer.Settings.Toml.Table
import FileServer.Settings.Value
import FileServer.Settings.Yaml.Cursor
import FileServer.Settings.Yaml.Document
import FileServer.Settings.Yaml.Fold
import FileServer.Settings.Yaml.Layout
import FileServer.Settings.Yaml.Node
import FileServer.Settings.Yaml.Passage
import FileServer.Settings.Yaml.Plain
import FileServer.Settings.Yaml.Quoted
import FileServer.Settings.Yaml.Tag
import FileServer.Settings.Yaml.Token
import FileServer.Settings.Yaml.Tokens
import FileServer.Site.Answer
import FileServer.Site.Basic
import FileServer.Site.Freshness
import FileServer.Site.Rows
import FileServer.Site.Serve
import FileServer.Site.Translate
import FileServer.System.ErrorNumber
import FileServer.System.Failure
import FileServer.Text.Blank
import FileServer.Text.CaseTable
import FileServer.Text.Json
import FileServer.Text.LowerCase
import FileServer.Text.NameTable
import FileServer.Text.Numeral
import FileServer.Text.ObscureTable
import FileServer.Text.Quoted
import FileServer.Text.Reader
import FileServer.Text.Utf8
import FileServer.Uri.Percent
import FileServer.Uri.Target
import FileServer.Wire.Admission
import FileServer.Wire.Connection
import FileServer.Wire.Framing
import FileServer.Wire.Head
import FileServer.Wire.Reply
import FileServer.Proofs.Admission
import FileServer.Proofs.Undated
import FileServer.Proofs.Keys
import FileServer.Proofs.Groups
import FileServer.Proofs.Layers
import FileServer.Proofs.Verbatim
import FileServer.Proofs.Redirects
import FileServer.Proofs.Lines
import FileServer.Proofs.Records
import FileServer.Proofs.Magnitudes
import FileServer.Proofs.WholeNumbers
import FileServer.Proofs.Documents.Toml
import FileServer.Proofs.Documents.Yaml
import FileServer.Proofs.Documents.Json
import FileServer.Proofs.Documents.Listing
import FileServer.Proofs.Documents.Relaxed
import FileServer.Proofs.Documents.Ron
import FileServer.Proofs.Documents.Ini
import FileServer.Proofs.Ports
import FileServer.Proofs.Directories
import FileServer.Proofs.Normalisation
import FileServer.Proofs.Warnings
import FileServer.Proofs.Pages
import FileServer.Proofs.Enumerations
import FileServer.Proofs.Rows
import FileServer.Proofs.MediaTypes
import FileServer.Proofs.JsonLines
import FileServer.Proofs.SmallLetters
import FileServer.Proofs.ConfiguredTypes
import FileServer.Proofs.Replacement
import FileServer.Proofs.PlainTexts
import FileServer.Proofs.Patterns
import FileServer.Proofs.RequestTexts
import FileServer.Proofs.ClassicLines
import FileServer.Proofs.Growth
import FileServer.Proofs.Changes
import FileServer.Proofs.LogFiles
