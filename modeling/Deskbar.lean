import Deskbar.SortedMap
import Deskbar.CharSet
import Deskbar.Unicode.Alphabetic
import Deskbar.Unicode.Word
import Deskbar.Unicode.Number
import Deskbar.Unicode.Graphic
import Deskbar.Unicode.Fold
import Deskbar.Unicode.Script
import Deskbar.Unicode.Property
import Deskbar.Text.Blank
import Deskbar.Text.Pieces
import Deskbar.Text.Numeral
import Deskbar.Text.Quoted
import Deskbar.Text.Utf8
import Deskbar.Binary64
import Deskbar.Json.Writer
import Deskbar.Json.Reader
import Deskbar.Node.Reader
import Deskbar.Config.Loader
import Deskbar.Pattern.Reader
import Deskbar.Pattern.Room
import Deskbar.Pattern
import Deskbar.Sorting
import Deskbar.Rewriter.Memory
import Deskbar.Bar
import Deskbar.Window
import Deskbar.Report.Decoding
import Deskbar.Workspace.Arrangement
import Deskbar.Feed
import Deskbar.Event.Stream
import Deskbar.Event.Subscriptions
import Deskbar.Backlog
import Deskbar.Tracker
import Deskbar.Connection.Sockets
import Deskbar.Connection.Playback
import Deskbar.Listener
import Deskbar.Daemon
import Deskbar.Program
import Deskbar.Main
import Deskbar.Proofs.SortedMap
import Deskbar.Proofs.Run
import Deskbar.Proofs.Outline
import Deskbar.Proofs.Steps
import Deskbar.Proofs.Identity
import Deskbar.Proofs.Holding
import Deskbar.Proofs.Ownership
import Deskbar.Proofs.Audit
import Deskbar.Proofs.Agreement
import Deskbar.Proofs.Repetition
import Deskbar.Proofs.Delivery
import Deskbar.Proofs.Journey
import Deskbar.Proofs.Keeping
import Deskbar.Proofs.Names
import Deskbar.Proofs.Declared
import Deskbar.Proofs.Landing
import Deskbar.Proofs.Urgency
import Deskbar.Proofs.Attention
import Deskbar.Proofs.Effect
import Deskbar.Proofs.Undisturbed
import Deskbar.Proofs.Roster
import Deskbar.Proofs.Destruction
import Deskbar.Proofs.Lost
import Deskbar.Proofs.Admission
import Deskbar.Proofs.Namesakes
import Deskbar.Proofs.Batches
import Deskbar.Proofs.Numbering
import Deskbar.Proofs.Display
import Deskbar.Proofs.Rekeying
import Deskbar.Proofs.Reload
import Deskbar.Proofs.Stranded
import Deskbar.Proofs.Locality
import Deskbar.Proofs.Replay
import Deskbar.Proofs.Parallel
import Deskbar.Proofs.Handing
import Deskbar.Proofs.Lifetime
import Deskbar.Proofs.Appearance
import Deskbar.Proofs.Provenance
import Deskbar.Proofs.Titles
import Deskbar.Proofs.Alarms
import Deskbar.Proofs.Focus
import Deskbar.Proofs.Commands
import Deskbar.Proofs.Selection
import Deskbar.Proofs.Filling
import Deskbar.Proofs.LetterCase
import Deskbar.Proofs.Pieces
import Deskbar.Proofs.Placeholders
import Deskbar.Proofs.ByteOrder
import Deskbar.Proofs.Arrangement
import Deskbar.Proofs.Grammar
import Deskbar.Proofs.Utf8
import Deskbar.Proofs.Listening
import Deskbar.Proofs.Decoding
import Deskbar.Proofs.CompactForm
import Deskbar.Proofs.Expansion
import Deskbar.Proofs.Feeding
import Deskbar.Proofs.Options
import Deskbar.Proofs.Ranges
import Deskbar.Proofs.References
import Deskbar.Proofs.Addresses
import Deskbar.Proofs.AnyOrder
import Deskbar.Proofs.Counting
