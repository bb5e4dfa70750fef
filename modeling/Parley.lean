import Parley.App.Act
import Parley.App.Basic
import Parley.App.Drive
import Parley.App.Rehearsal
import Parley.App.Task
import Parley.App.World
import Parley.Artifact.Basic
import Parley.Artifact.Store
import Parley.Bus.Delivery
import Parley.Bus.Event
import Parley.Bus.Registry
import Parley.Bus.Switchboard
import Parley.Canvas
import Parley.Chat.History
import Parley.Chat.Message
import Parley.Chat.Pipeline
import Parley.Chat.Role
import Parley.Chat.Supply
import Parley.Failure
import Parley.Files.Disk
import Parley.Files.Memory
import Parley.Files.Tree
import Parley.Http.Exchange
import Parley.Http.Host
import Parley.Http.Script
import Parley.Http.Server
import Parley.Http.Status
import Parley.Http.Url
import Parley.Journal
import Parley.Json.Decode
import Parley.Json.Fault
import Parley.Json.Printer
import Parley.Json.Reader
import Parley.Json.Stamp
import Parley.Json.Value
import Parley.Main
import Parley.Markdown
import Parley.Markdown.Html
import Parley.Markdown.Line
import Parley.Markdown.Mark
import Parley.Markdown.Outline
import Parley.Markdown.Tag
import Parley.Markdown.Target
import Parley.Markdown.Tree
import Parley.Markdown.Words
import Parley.Numeral.Binary64
import Parley.Numeral.Fixed
import Parley.Numeral.Shortest
import Parley.Numeral.Total
import Parley.Numeral.Whole
import Parley.Proofs.App.Affairs
import Parley.Proofs.App.Afresh
import Parley.Proofs.App.Alike
import Parley.Proofs.App.Assembly
import Parley.Proofs.App.Change
import Parley.Proofs.App.Congruence
import Parley.Proofs.App.Control
import Parley.Proofs.App.Course
import Parley.Proofs.App.Fate
import Parley.Proofs.App.Leftover
import Parley.Proofs.App.Mirror
import Parley.Proofs.App.Orderly
import Parley.Proofs.App.Pace
import Parley.Proofs.App.Progress
import Parley.Proofs.App.Seating
import Parley.Proofs.App.Settle
import Parley.Proofs.App.Stock
import Parley.Proofs.App.Turn
import Parley.Proofs.Artifact.Record
import Parley.Proofs.Artifact.Store
import Parley.Proofs.Bus.Books
import Parley.Proofs.Bus.Delivery
import Parley.Proofs.Bus.Exhaustion
import Parley.Proofs.Bus.Law
import Parley.Proofs.Bus.Nesting
import Parley.Proofs.Canvas.Arrival
import Parley.Proofs.Canvas.Notice
import Parley.Proofs.Canvas.Selection
import Parley.Proofs.Chat.Absent
import Parley.Proofs.Chat.Addressing
import Parley.Proofs.Chat.Ahead
import Parley.Proofs.Chat.Alternatives
import Parley.Proofs.Chat.Appearance
import Parley.Proofs.Chat.Body
import Parley.Proofs.Chat.Crossing
import Parley.Proofs.Chat.Ending
import Parley.Proofs.Chat.Exchange
import Parley.Proofs.Chat.Failing
import Parley.Proofs.Chat.Finish
import Parley.Proofs.Chat.Footprint
import Parley.Proofs.Chat.Happening
import Parley.Proofs.Chat.Heading
import Parley.Proofs.Chat.Kinds
import Parley.Proofs.Chat.Loading
import Parley.Proofs.Chat.Mishap
import Parley.Proofs.Chat.Overtaken
import Parley.Proofs.Chat.Publishing
import Parley.Proofs.Chat.Question
import Parley.Proofs.Chat.Reading
import Parley.Proofs.Chat.Records
import Parley.Proofs.Chat.Restoring
import Parley.Proofs.Chat.Retry
import Parley.Proofs.Chat.Saving
import Parley.Proofs.Chat.Serial
import Parley.Proofs.Chat.Signal
import Parley.Proofs.Chat.Succession
import Parley.Proofs.Chat.Titles
import Parley.Proofs.Chat.Transcript
import Parley.Proofs.Chat.Unmounted
import Parley.Proofs.Chat.Verdict
import Parley.Proofs.Files.Keeping
import Parley.Proofs.Http.Exchange
import Parley.Proofs.Json.Absence
import Parley.Proofs.Json.Fields
import Parley.Proofs.Json.Grammar
import Parley.Proofs.Json.Kept
import Parley.Proofs.Json.Lexis
import Parley.Proofs.Json.Printing
import Parley.Proofs.Json.Record
import Parley.Proofs.Json.Sheet
import Parley.Proofs.Json.Skip
import Parley.Proofs.Json.Text
import Parley.Proofs.Json.Tree
import Parley.Proofs.Markdown.Levels
import Parley.Proofs.Markdown.Links
import Parley.Proofs.Markdown.Marks
import Parley.Proofs.Markdown.Reader
import Parley.Proofs.Markdown.Tags
import Parley.Proofs.Numeral.Fixed
import Parley.Proofs.Numeral.Whole
import Parley.Proofs.Render.Content
import Parley.Proofs.Render.Drawing
import Parley.Proofs.Render.Form
import Parley.Proofs.Render.Layout
import Parley.Proofs.Render.Normal
import Parley.Proofs.Render.Picture
import Parley.Proofs.Settings.Addresses
import Parley.Proofs.Settings.Variables
import Parley.Proofs.Shell.Desk
import Parley.Proofs.Shell.Opening
import Parley.Proofs.Shell.Prompt
import Parley.Proofs.Shell.Record
import Parley.Proofs.Shell.Serving
import Parley.Proofs.Text.Blank
import Parley.Proofs.Text.Case
import Parley.Proofs.Text.Decimal
import Parley.Proofs.Time.Calendar
import Parley.Proofs.Time.Span
import Parley.Proofs.Time.Stamp
import Parley.Proofs.Transport.Backoff
import Parley.Render.Chart
import Parley.Render.Picture
import Parley.Render.Plot
import Parley.Render.Table
import Parley.Settings.Basic
import Parley.Settings.Dotenv
import Parley.Settings.Environment
import Parley.Shell.Line
import Parley.Shell.Screen
import Parley.Shell.Session
import Parley.Text.Ascii
import Parley.Text.Blank
import Parley.Text.Entity
import Parley.Text.Fold
import Parley.Text.Mark
import Parley.Text.Pad
import Parley.Text.Quote
import Parley.Text.Utf8
import Parley.Time.Instant
import Parley.Time.Span
import Parley.Time.Stamp
import Parley.Transport.Backoff
import Parley.Version
