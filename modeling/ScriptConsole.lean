import ScriptConsole.Text.Offset
import ScriptConsole.Text.Width
import ScriptConsole.Text.Class
import ScriptConsole.Text.Line
import ScriptConsole.Text.Utf8
import ScriptConsole.Text.Number
import ScriptConsole.Syntax.Continuation
import ScriptConsole.Syntax.Diagnostic
import ScriptConsole.Edit.Buffer
import ScriptConsole.Edit.Completion
import ScriptConsole.System.IoError
import ScriptConsole.System.Files
import ScriptConsole.History.Basic
import ScriptConsole.History.Recall
import ScriptConsole.Edit.Key
import ScriptConsole.Edit.Editor
import ScriptConsole.Screen.Escape
import ScriptConsole.Screen.Marked
import ScriptConsole.Screen.Layout
import ScriptConsole.Screen.Display
import ScriptConsole.System.Signals
import ScriptConsole.Edit.Reader
import ScriptConsole.Text.Decimal
import ScriptConsole.Json.Value
import ScriptConsole.Json.Parser
import ScriptConsole.Json.Cursor
import ScriptConsole.Wire.Stream
import ScriptConsole.Wire.Frame
import ScriptConsole.Target.Evaluator
import ScriptConsole.Target.Channel
import ScriptConsole.Target.Names
import ScriptConsole.Target.Agent
import ScriptConsole.Target.Table
import ScriptConsole.Target.Address
import ScriptConsole.Console.Command
import ScriptConsole.Console.Render
import ScriptConsole.Console.Report
import ScriptConsole.Console.Batch
import ScriptConsole.Console.Session
import ScriptConsole.Settings.Basic
import ScriptConsole.Settings.Places
import ScriptConsole.System.Processes
import ScriptConsole.System.Log
import ScriptConsole.System.Programs
import ScriptConsole.Target.Attach
import ScriptConsole.Grammar.Form
import ScriptConsole.Grammar.JavaScript
import ScriptConsole.Grammar.Production
import ScriptConsole.Grammar.Lookahead
import ScriptConsole.Grammar.Automaton
import ScriptConsole.Text.Regular
import ScriptConsole.Script.Lexeme
import ScriptConsole.Script.Surroundings
import ScriptConsole.Script.Lexicon
import ScriptConsole.Script.Tree
import ScriptConsole.Script.Stack
import ScriptConsole.Script.Reading
import ScriptConsole.Script.Recovery
import ScriptConsole.Script.Parse
import ScriptConsole.Script.Outline
import ScriptConsole.Script.Faults
import ScriptConsole.Script.Minify
import ScriptConsole.Screen.Colouring
import ScriptConsole.Script.Highlight
import ScriptConsole.Console.CommandLine
import ScriptConsole.Console.Program
import ScriptConsole.Engine.Term
import ScriptConsole.Engine.Numeral
import ScriptConsole.Engine.Value
import ScriptConsole.Engine.Heap
import ScriptConsole.Engine.Convert
import ScriptConsole.Engine.Operate
import ScriptConsole.Engine.Promise
import ScriptConsole.Engine.Function
import ScriptConsole.Engine.Evaluate
import ScriptConsole.Engine.Execute
import ScriptConsole.Engine.Shape
import ScriptConsole.Engine.OfOutline
import ScriptConsole.Engine.Matcher
import ScriptConsole.Engine.Library.Shelf
import ScriptConsole.Engine.Library.Fundamental
import ScriptConsole.Engine.Library.Sequence
import ScriptConsole.Engine.Library.Arithmetic
import ScriptConsole.Engine.Library.Matching
import ScriptConsole.Engine.Library.Texts
import ScriptConsole.Engine.Library.Notation
import ScriptConsole.Engine.Library.Collections
import ScriptConsole.Engine.Library.Deferred
import ScriptConsole.Engine.Library.Calendar
import ScriptConsole.Engine.Library.Global
import ScriptConsole.Engine.Answer
import ScriptConsole.Text.Units
import ScriptConsole.Text.Case
import ScriptConsole.Script.Stop
import ScriptConsole.Main
import ScriptConsole.Proofs.Text.Line
import ScriptConsole.Proofs.Edit.Enter
import ScriptConsole.Proofs.Text.Utf8
import ScriptConsole.Proofs.Wire.Frames
import ScriptConsole.Proofs.Target.Conversation
import ScriptConsole.Proofs.Target.Failure
import ScriptConsole.Proofs.Edit.Keys
import ScriptConsole.Proofs.Screen.Terminal
import ScriptConsole.Proofs.Screen.Painting
import ScriptConsole.Proofs.Screen.Replaying
import ScriptConsole.Proofs.Screen.Redisplay
import ScriptConsole.Proofs.Edit.Trail
import ScriptConsole.Proofs.Edit.Agreement
import ScriptConsole.Proofs.System.Files
import ScriptConsole.Proofs.Text.Row
import ScriptConsole.Proofs.Text.Blank
import ScriptConsole.Proofs.History.Records
import ScriptConsole.Proofs.History.Sessions
import ScriptConsole.Proofs.Edit.Walk
import ScriptConsole.Proofs.Syntax.Tokens
import ScriptConsole.Proofs.Syntax.Lexing
import ScriptConsole.Proofs.Syntax.Trimming
import ScriptConsole.Proofs.Syntax.Scan
import ScriptConsole.Proofs.Edit.Waiting
import ScriptConsole.Proofs.Target.Modes
import ScriptConsole.Proofs.Console.Turns
import ScriptConsole.Proofs.Console.Protocol
import ScriptConsole.Proofs.Edit.Candidates
import ScriptConsole.Proofs.Edit.Safety
import ScriptConsole.Proofs.Wire.Replies
import ScriptConsole.Proofs.Target.Serving
import ScriptConsole.Proofs.Console.Lines
import ScriptConsole.Proofs.Console.Course
import ScriptConsole.Proofs.Screen.Anchoring
import ScriptConsole.Proofs.Screen.Resizing
import ScriptConsole.Proofs.Screen.Wrapping
import ScriptConsole.Proofs.Edit.Ending
import ScriptConsole.Proofs.Edit.Readings
import ScriptConsole.Proofs.Edit.Typing
import ScriptConsole.Proofs.Edit.Recalling
import ScriptConsole.Proofs.Syntax.Operators
import ScriptConsole.Proofs.Target.Receiver
import ScriptConsole.Proofs.History.Reloading
import ScriptConsole.Proofs.Edit.Completing
import ScriptConsole.Proofs.Console.Expanding
import ScriptConsole.Proofs.History.Saving
import ScriptConsole.Proofs.Screen.Dressing
import ScriptConsole.Proofs.Screen.Nesting
import ScriptConsole.Proofs.Screen.Highlighting
import ScriptConsole.Proofs.Script.Highlights
import ScriptConsole.Proofs.Script.Lexis
import ScriptConsole.Proofs.Script.Longest
import ScriptConsole.Proofs.Script.Minified
import ScriptConsole.Proofs.Script.Spacing
import ScriptConsole.Proofs.Console.Scripts
import ScriptConsole.Proofs.Console.Showing
import ScriptConsole.Proofs.Edit.Indenting
import ScriptConsole.Proofs.Edit.Pasting
import ScriptConsole.Proofs.Edit.Listing
import ScriptConsole.Proofs.Edit.Edits
import ScriptConsole.Proofs.Text.Column
import ScriptConsole.Proofs.Target.Address
