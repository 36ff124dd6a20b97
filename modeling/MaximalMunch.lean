import MaximalMunch.Grammar
import MaximalMunch.Main
import MaximalMunch.Proofs.CommandLine.Arguments
import MaximalMunch.Proofs.CommandLine.ReadBack
import MaximalMunch.Proofs.CommandLine.Record
import MaximalMunch.Proofs.CommandLine.Streaming
import MaximalMunch.Proofs.CommandLine.Unreadable
import MaximalMunch.Proofs.CommandLine.Verbose
import MaximalMunch.Proofs.Cursor.Coherence
import MaximalMunch.Proofs.Cursor.Demand
import MaximalMunch.Proofs.Cursor.Eager
import MaximalMunch.Proofs.Cursor.Failure
import MaximalMunch.Proofs.Cursor.Growth
import MaximalMunch.Proofs.Cursor.Iteration
import MaximalMunch.Proofs.Cursor.Loops
import MaximalMunch.Proofs.Cursor.Progress
import MaximalMunch.Proofs.Cursor.Session
import MaximalMunch.Proofs.Cursor.Stability
import MaximalMunch.Proofs.Data.Shown
import MaximalMunch.Proofs.Grammar.Agreement
import MaximalMunch.Proofs.Grammar.Definitions
import MaximalMunch.Proofs.Grammar.Documents
import MaximalMunch.Proofs.Grammar.Edits
import MaximalMunch.Proofs.Grammar.FromFile
import MaximalMunch.Proofs.Grammar.Layouts
import MaximalMunch.Proofs.Grammar.PlainData
import MaximalMunch.Proofs.Grammar.Refusal
import MaximalMunch.Proofs.Grammar.WellFormed
import MaximalMunch.Proofs.Keeps
import MaximalMunch.Proofs.Munch.Extension
import MaximalMunch.Proofs.Munch.Order
import MaximalMunch.Proofs.Munch.Segments
import MaximalMunch.Proofs.Pattern.Extent
import MaximalMunch.Proofs.Pattern.Inline
import MaximalMunch.Proofs.Pattern.Parse
import MaximalMunch.Proofs.Scan.Account
import MaximalMunch.Proofs.Scan.Bounds
import MaximalMunch.Proofs.Scan.Choice
import MaximalMunch.Proofs.Scan.End
import MaximalMunch.Proofs.Scan.Locality
import MaximalMunch.Proofs.Scan.Stuck
import MaximalMunch.Proofs.Text.LineEnds
import MaximalMunch.Proofs.Text.Numeral
import MaximalMunch.Proofs.Yaml.Composed
import MaximalMunch.Proofs.Yaml.Grown
import MaximalMunch.Proofs.Yaml.Lexical
import MaximalMunch.Proofs.Yaml.Lines
import MaximalMunch.Proofs.Yaml.Place
import MaximalMunch.Proofs.Yaml.Quoted
