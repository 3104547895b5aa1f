import MarkerScan.CommandLine.Failure
import MarkerScan.CommandLine.Grammar
import MarkerScan.CommandLine.Options
import MarkerScan.CommandLine.Run
import MarkerScan.Delivery.Batch
import MarkerScan.Delivery.Retry
import MarkerScan.Delivery.Workers
import MarkerScan.Error
import MarkerScan.Glob.Basic
import MarkerScan.Http.Address
import MarkerScan.Http.Exchange
import MarkerScan.Http.Punycode
import MarkerScan.Http.Url
import MarkerScan.Item.Basic
import MarkerScan.Json.Basic
import MarkerScan.Json.Decode
import MarkerScan.Json.Outline
import MarkerScan.Json.Printer
import MarkerScan.Json.Reader
import MarkerScan.Main
import MarkerScan.Marker.Form
import MarkerScan.Marker.Line
import MarkerScan.Marker.Metadata
import MarkerScan.Marker.Pattern
import MarkerScan.Notion.Database
import MarkerScan.Notion.Page
import MarkerScan.Notion.Schema
import MarkerScan.Number.Binary64
import MarkerScan.Number.Notation
import MarkerScan.Report.Rendering
import MarkerScan.Scan.Counters
import MarkerScan.Scan.Scanner
import MarkerScan.Scan.Sharing
import MarkerScan.Settings.Basic
import MarkerScan.Settings.Decode
import MarkerScan.Settings.Files
import MarkerScan.Settings.Json
import MarkerScan.Settings.Layers
import MarkerScan.Settings.Value
import MarkerScan.Slack.Message
import MarkerScan.Slack.Webhook
import MarkerScan.Text.Character
import MarkerScan.Text.LetterCase
import MarkerScan.Text.Quoted
import MarkerScan.Text.Search
import MarkerScan.Text.Split
import MarkerScan.Text.Utf8
import MarkerScan.Tree.Basic
import MarkerScan.Tree.FileSystem
import MarkerScan.Tree.Walk
import MarkerScan.Yaml.Cursor
import MarkerScan.Yaml.Node
import MarkerScan.Yaml.Reader
import MarkerScan.Yaml.ScalarText
import MarkerScan.Yaml.Token
import MarkerScan.Proofs.CommandLine.Sending
import MarkerScan.Proofs.Delivery.Backoff
import MarkerScan.Proofs.Delivery.Retry
import MarkerScan.Proofs.Delivery.Turns
import MarkerScan.Proofs.Delivery.Workers
import MarkerScan.Proofs.Glob.Matching
import MarkerScan.Proofs.Glob.Pattern
import MarkerScan.Proofs.Glob.Separator
import MarkerScan.Proofs.Glob.Translation
import MarkerScan.Proofs.Http.Exchange
import MarkerScan.Proofs.Item.Grouping
import MarkerScan.Proofs.Json.Basic
import MarkerScan.Proofs.Json.Number
import MarkerScan.Proofs.Json.Printer
import MarkerScan.Proofs.Marker.Cleaning
import MarkerScan.Proofs.Marker.Closing
import MarkerScan.Proofs.Marker.Composed
import MarkerScan.Proofs.Marker.Grammar
import MarkerScan.Proofs.Marker.Keyword
import MarkerScan.Proofs.Marker.Kind
import MarkerScan.Proofs.Marker.Layout
import MarkerScan.Proofs.Marker.Metadata
import MarkerScan.Proofs.Marker.MetadataPattern
import MarkerScan.Proofs.Marker.NormalForm
import MarkerScan.Proofs.Marker.Pattern
import MarkerScan.Proofs.Marker.Places
import MarkerScan.Proofs.Marker.Span
import MarkerScan.Proofs.Marker.Token
import MarkerScan.Proofs.Marker.Words
import MarkerScan.Proofs.Notion.Database
import MarkerScan.Proofs.Notion.Fields
import MarkerScan.Proofs.Notion.Page
import MarkerScan.Proofs.Report.Csv
import MarkerScan.Proofs.Report.Json
import MarkerScan.Proofs.Report.Listing
import MarkerScan.Proofs.Scan.Counters
import MarkerScan.Proofs.Scan.Events
import MarkerScan.Proofs.Scan.Groups
import MarkerScan.Proofs.Scan.Handles
import MarkerScan.Proofs.Scan.Keywords
import MarkerScan.Proofs.Scan.Locality
import MarkerScan.Proofs.Scan.Modes
import MarkerScan.Proofs.Scan.Order
import MarkerScan.Proofs.Scan.Pool
import MarkerScan.Proofs.Scan.Scanner
import MarkerScan.Proofs.Scan.Sharing
import MarkerScan.Proofs.Settings.Fields
import MarkerScan.Proofs.Settings.Keywords
import MarkerScan.Proofs.Settings.Layers
import MarkerScan.Proofs.Settings.Precedence
import MarkerScan.Proofs.Slack.Digest
import MarkerScan.Proofs.Slack.Webhook
import MarkerScan.Proofs.Text.AsciiCase
import MarkerScan.Proofs.Text.Blank
import MarkerScan.Proofs.Text.ByteOrder
import MarkerScan.Proofs.Text.Capitals
import MarkerScan.Proofs.Text.Encoded
import MarkerScan.Proofs.Text.Folding
import MarkerScan.Proofs.Text.Lines
import MarkerScan.Proofs.Text.Pattern
import MarkerScan.Proofs.Text.Search
import MarkerScan.Proofs.Text.Utf8
import MarkerScan.Proofs.Tree.Folder
import MarkerScan.Proofs.Tree.Listing
import MarkerScan.Proofs.Tree.Place
import MarkerScan.Proofs.Tree.Relative
import MarkerScan.Proofs.Tree.Walk
