import RuleLexer.Main
import RuleLexer.Files.Directory
import RuleLexer.Stream
import RuleLexer.Proofs.Place
import RuleLexer.Proofs.Scan
import RuleLexer.Proofs.Tokens
import RuleLexer.Proofs.Sample
import RuleLexer.Proofs.Tiling
import RuleLexer.Proofs.Failures
import RuleLexer.Proofs.Positions
import RuleLexer.Proofs.Consistency
import RuleLexer.Proofs.Extension
import RuleLexer.Proofs.Lines
import RuleLexer.Proofs.Filtering
import RuleLexer.Proofs.Prefixes
import RuleLexer.Proofs.Relexing
import RuleLexer.Proofs.ClassOrder
import RuleLexer.Proofs.Names
import RuleLexer.Proofs.Runs
import RuleLexer.Proofs.Reachability
import RuleLexer.Proofs.Case
import RuleLexer.Proofs.Loading
import RuleLexer.Proofs.Subkinds
import RuleLexer.Proofs.StringLiterals
import RuleLexer.Proofs.Comments
import RuleLexer.Proofs.NumberLiterals
import RuleLexer.Proofs.CommandLine
import RuleLexer.Proofs.Words
import RuleLexer.Proofs.Digits
import RuleLexer.Proofs.NumberBoundaries
import RuleLexer.Proofs.ByteOrder
import RuleLexer.Proofs.KeywordTables
import RuleLexer.Proofs.TokenNames
import RuleLexer.Proofs.Constants
import RuleLexer.Proofs.Agreement
import RuleLexer.Proofs.Caret
import RuleLexer.Proofs.Bases
import RuleLexer.Proofs.Quoting
import RuleLexer.Proofs.Cursor
import RuleLexer.Proofs.Passes
import RuleLexer.Proofs.Settling
import RuleLexer.Proofs.LexemePasses
import RuleLexer.Proofs.NumberPasses
import RuleLexer.Proofs.Execution
import RuleLexer.Proofs.Progress
