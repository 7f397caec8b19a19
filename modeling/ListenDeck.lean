import ListenDeck.Actions.Desk
import ListenDeck.Actions.Permission
import ListenDeck.Actions.Plan
import ListenDeck.Actions.Removal
import ListenDeck.Actions.Settlement
import ListenDeck.Alerts.Notice
import ListenDeck.Alerts.Queue
import ListenDeck.App.Basic
import ListenDeck.App.Drawing
import ListenDeck.App.Live
import ListenDeck.App.Performance
import ListenDeck.Browse.AddressBar
import ListenDeck.Browse.Browser
import ListenDeck.Browse.Page
import ListenDeck.Browse.Pager
import ListenDeck.Browse.Rehearsal
import ListenDeck.Cards.Drawing
import ListenDeck.Cards.Message
import ListenDeck.Cards.Shelf
import ListenDeck.Item.Basic
import ListenDeck.Item.Codec
import ListenDeck.Item.Score
import ListenDeck.Json.Basic
import ListenDeck.Json.Number
import ListenDeck.Json.Printer
import ListenDeck.Json.Reader
import ListenDeck.Json.Record
import ListenDeck.Markup.Basic
import ListenDeck.Markup.Icon
import ListenDeck.Markup.Reach
import ListenDeck.Named
import ListenDeck.Pages.Errand
import ListenDeck.Pages.FormDrawing
import ListenDeck.Pages.ListDrawing
import ListenDeck.Pages.Listens
import ListenDeck.Pages.PinDialog
import ListenDeck.Pages.Pins
import ListenDeck.Pages.Playlist
import ListenDeck.Pages.Settings
import ListenDeck.Playback.Bus
import ListenDeck.Playback.Deck
import ListenDeck.Playback.Event
import ListenDeck.Playback.Message
import ListenDeck.Playlist
import ListenDeck.Server.Answer
import ListenDeck.Server.Base
import ListenDeck.Server.Call
import ListenDeck.Server.Count
import ListenDeck.Server.Error
import ListenDeck.Server.Mutation
import ListenDeck.Server.Reason
import ListenDeck.Server.Request
import ListenDeck.Session
import ListenDeck.Settings.Basic
import ListenDeck.Settings.Store
import ListenDeck.Text.Blank
import ListenDeck.Text.Composition
import ListenDeck.Text.Composition.Rows
import ListenDeck.Text.Direction
import ListenDeck.Text.Direction.Rows
import ListenDeck.Text.Hex
import ListenDeck.Text.Hidden
import ListenDeck.Text.Joining
import ListenDeck.Text.Joining.Rows
import ListenDeck.Text.Mark
import ListenDeck.Text.Mark.Rows
import ListenDeck.Text.Numeral
import ListenDeck.Text.Percent
import ListenDeck.Text.Quoted
import ListenDeck.Text.Run
import ListenDeck.Text.Split
import ListenDeck.Text.Utf8
import ListenDeck.Time.Age
import ListenDeck.Time.Calendar
import ListenDeck.Url.Basic
import ListenDeck.Url.Host
import ListenDeck.Url.Name
import ListenDeck.Url.Punycode
import ListenDeck.Url.Reader
import ListenDeck.Url.Spelling
import ListenDeck.Url.Spelling.Rows
import ListenDeck.Proofs.Actions.Arming
import ListenDeck.Proofs.Actions.Fate
import ListenDeck.Proofs.Actions.Gate
import ListenDeck.Proofs.Actions.Grace
import ListenDeck.Proofs.Alerts.Lifetimes
import ListenDeck.Proofs.App.Alerts
import ListenDeck.Proofs.App.Asking
import ListenDeck.Proofs.App.Authority
import ListenDeck.Proofs.App.Calls
import ListenDeck.Proofs.App.Displays
import ListenDeck.Proofs.App.Feedback
import ListenDeck.Proofs.App.Pinning
import ListenDeck.Proofs.App.Playing
import ListenDeck.Proofs.App.Replies
import ListenDeck.Proofs.App.Requests
import ListenDeck.Proofs.App.Sheets
import ListenDeck.Proofs.Browse.Accounts
import ListenDeck.Proofs.Browse.Deletions
import ListenDeck.Proofs.Browse.Following
import ListenDeck.Proofs.Browse.InStep
import ListenDeck.Proofs.Browse.LastWins
import ListenDeck.Proofs.Browse.Limits
import ListenDeck.Proofs.Browse.Loading
import ListenDeck.Proofs.Browse.Naming
import ListenDeck.Proofs.Browse.Observed
import ListenDeck.Proofs.Browse.Outcomes
import ListenDeck.Proofs.Browse.Partition
import ListenDeck.Proofs.Browse.Runs
import ListenDeck.Proofs.Browse.Served
import ListenDeck.Proofs.Browse.Shown
import ListenDeck.Proofs.Browse.Stacks
import ListenDeck.Proofs.Browse.Trail
import ListenDeck.Proofs.Browse.Turns
import ListenDeck.Proofs.Browse.Windows
import ListenDeck.Proofs.Cards.Faces
import ListenDeck.Proofs.Cards.Scores
import ListenDeck.Proofs.Cards.Takeover
import ListenDeck.Proofs.Item.EmptyIds
import ListenDeck.Proofs.Item.ReadBack
import ListenDeck.Proofs.Json.Fields
import ListenDeck.Proofs.Json.Literals
import ListenDeck.Proofs.Json.RoundTrip
import ListenDeck.Proofs.Listens.Deleting
import ListenDeck.Proofs.Listens.InTune
import ListenDeck.Proofs.Playback.Agreement
import ListenDeck.Proofs.Playback.Books
import ListenDeck.Proofs.Playback.Bridge
import ListenDeck.Proofs.Playback.Dialect
import ListenDeck.Proofs.Playback.EndToEnd
import ListenDeck.Proofs.Playback.Flips
import ListenDeck.Proofs.Playback.Ledger
import ListenDeck.Proofs.Playback.Moments
import ListenDeck.Proofs.Playback.Reach
import ListenDeck.Proofs.Playback.Rules
import ListenDeck.Proofs.Playback.Scenes
import ListenDeck.Proofs.Playlist.Cards
import ListenDeck.Proofs.Playlist.Curation
import ListenDeck.Proofs.Playlist.Hits
import ListenDeck.Proofs.Playlist.Keys
import ListenDeck.Proofs.Playlist.Lock
import ListenDeck.Proofs.Playlist.Marks
import ListenDeck.Proofs.Playlist.Overlap
import ListenDeck.Proofs.Playlist.Runs
import ListenDeck.Proofs.Playlist.Turns
import ListenDeck.Proofs.Server.Addressing
import ListenDeck.Proofs.Server.Counts
import ListenDeck.Proofs.Settings.Copies
import ListenDeck.Proofs.Settings.History
import ListenDeck.Proofs.Settings.Normal
import ListenDeck.Proofs.Settings.Stored
import ListenDeck.Proofs.Text.Numerals
import ListenDeck.Proofs.Text.Percent
import ListenDeck.Proofs.Time.Ages
import ListenDeck.Proofs.Time.Calendar
import ListenDeck.Proofs.Url.Paths
import ListenDeck.Proofs.Url.Web
