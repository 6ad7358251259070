import TextCursor.Command
import TextCursor.Command.Parser
import TextCursor.Console
import TextCursor.Console.Logging
import TextCursor.Cursor
import TextCursor.Cursor.Action
import TextCursor.Effect
import TextCursor.Event
import TextCursor.History
import TextCursor.Json.Number
import TextCursor.Json.ReadError
import TextCursor.Json.Skip
import TextCursor.Json.StringLiteral
import TextCursor.Key
import TextCursor.Log
import TextCursor.Lookup
import TextCursor.Main
import TextCursor.Pattern
import TextCursor.Pattern.Cache
import TextCursor.Pattern.CharSet
import TextCursor.Pattern.Expr
import TextCursor.Pattern.Expr.Bracket
import TextCursor.Pattern.Expr.Escape
import TextCursor.Pattern.Expr.Parser
import TextCursor.Pattern.Flags
import TextCursor.Pattern.Look
import TextCursor.Pattern.Program
import TextCursor.Pattern.PropertyName
import TextCursor.Pattern.Search
import TextCursor.Pattern.SyntaxError
import TextCursor.Proofs.Command.Line
import TextCursor.Proofs.Cursor.Compiling
import TextCursor.Proofs.Cursor.Consumption
import TextCursor.Proofs.Cursor.Invariant
import TextCursor.Proofs.Cursor.Register
import TextCursor.Proofs.Cursor.Reload
import TextCursor.Proofs.Pattern.Cache
import TextCursor.Proofs.Pattern.Repetition
import TextCursor.Proofs.Session.Deletion
import TextCursor.Proofs.Text.Offset
import TextCursor.ScanError
import TextCursor.Session
import TextCursor.Settings
import TextCursor.Snapshot
import TextCursor.Snapshot.Json
import TextCursor.Text.Backspace
import TextCursor.Text.Blank
import TextCursor.Text.Grapheme
import TextCursor.Text.Numeral
import TextCursor.Text.Quoted
import TextCursor.Unicode.Age
import TextCursor.Unicode.CaseFolding
import TextCursor.Unicode.Category
import TextCursor.Unicode.GraphemeBreak
import TextCursor.Unicode.Property
import TextCursor.Unicode.RangeTable
import TextCursor.Unicode.Script
import TextCursor.Unicode.SentenceBreak
import TextCursor.Unicode.Version17
import TextCursor.Unicode.Word
import TextCursor.Unicode.WordBreak
import TextCursor.Proofs.Cursor.Ahead
import TextCursor.Proofs.Json.Reading
import TextCursor.Proofs.Key.RoundTrip
import TextCursor.Proofs.Text.Numeral
import TextCursor.Proofs.Snapshot.RoundTrip
import TextCursor.Proofs.Command.Saying
import TextCursor.Proofs.Console.Lines
import TextCursor.Proofs.Console.Refinement
import TextCursor.Proofs.Text.Lines
import TextCursor.Proofs.Console.Saved
import TextCursor.Proofs.Session.OneLine
import TextCursor.Proofs.Console.Framing
import TextCursor.Proofs.Cursor.Matching
import TextCursor.Proofs.Lookup.Slice
import TextCursor.Proofs.Cursor.StepBack
import TextCursor.Proofs.Pattern.Threads
import TextCursor.Proofs.Pattern.Leftmost
import TextCursor.Proofs.Cursor.Unanchored
import TextCursor.Proofs.Text.Trim
import TextCursor.Proofs.Key.Grammar
import TextCursor.Proofs.Key.Canonical
import TextCursor.Proofs.Command.Refusal
import TextCursor.Proofs.Lookup.Place
import TextCursor.Proofs.Cursor.Views
import TextCursor.Proofs.Cursor.Growing
import TextCursor.Proofs.Snapshot.Restoring
import TextCursor.Proofs.Json.Grammar
import TextCursor.Proofs.Json.Truncation
import TextCursor.Proofs.Snapshot.Member
import TextCursor.Proofs.Snapshot.Spelling
import TextCursor.Proofs.Snapshot.Truncation
import TextCursor.Proofs.Cursor.Item
import TextCursor.Proofs.Settings.Level
import TextCursor.Proofs.Console.Logging
