import BoundaryRules.BestOf
import BoundaryRules.Bisection
import BoundaryRules.Bundled
import BoundaryRules.Bundled.Classes
import BoundaryRules.CharClass
import BoundaryRules.ClassIndex
import BoundaryRules.ClassName
import BoundaryRules.ClassRecord
import BoundaryRules.Command.Arguments
import BoundaryRules.Command.Basic
import BoundaryRules.Command.Input
import BoundaryRules.Command.Outcome
import BoundaryRules.Command.Run
import BoundaryRules.Description
import BoundaryRules.Error
import BoundaryRules.Files.FileTree
import BoundaryRules.Files.Glob
import BoundaryRules.Files.Path
import BoundaryRules.GrammarText
import BoundaryRules.Main
import BoundaryRules.Odometer
import BoundaryRules.Proofs.BestRule
import BoundaryRules.Proofs.Buckets
import BoundaryRules.Proofs.Capitals
import BoundaryRules.Proofs.Choices
import BoundaryRules.Proofs.ClassIds
import BoundaryRules.Proofs.CommandRuns
import BoundaryRules.Proofs.Compilation
import BoundaryRules.Proofs.Contexts
import BoundaryRules.Proofs.DefinitionOrder
import BoundaryRules.Proofs.Expansion
import BoundaryRules.Proofs.FilePlaces
import BoundaryRules.Proofs.Filing
import BoundaryRules.Proofs.FirstLeast
import BoundaryRules.Proofs.Frequencies
import BoundaryRules.Proofs.Greatest
import BoundaryRules.Proofs.History
import BoundaryRules.Proofs.IdleGroups
import BoundaryRules.Proofs.InertRules
import BoundaryRules.Proofs.InputSets
import BoundaryRules.Proofs.JsonReports
import BoundaryRules.Proofs.Leniency
import BoundaryRules.Proofs.Likeness
import BoundaryRules.Proofs.LineGrammar
import BoundaryRules.Proofs.LineNumbers
import BoundaryRules.Proofs.LinearScan
import BoundaryRules.Proofs.Locality
import BoundaryRules.Proofs.Lookahead
import BoundaryRules.Proofs.Membership
import BoundaryRules.Proofs.MergeOrder
import BoundaryRules.Proofs.Merging
import BoundaryRules.Proofs.Naming
import BoundaryRules.Proofs.Numbering
import BoundaryRules.Proofs.Offers
import BoundaryRules.Proofs.OutputFiles
import BoundaryRules.Proofs.Overlaps
import BoundaryRules.Proofs.PathOrder
import BoundaryRules.Proofs.Pieces
import BoundaryRules.Proofs.PlainReports
import BoundaryRules.Proofs.Pulls
import BoundaryRules.Proofs.Ranking
import BoundaryRules.Proofs.Reading
import BoundaryRules.Proofs.Reconstruction
import BoundaryRules.Proofs.RecordFormat
import BoundaryRules.Proofs.RecordLines
import BoundaryRules.Proofs.RecordPattern
import BoundaryRules.Proofs.RecordText
import BoundaryRules.Proofs.Requests
import BoundaryRules.Proofs.Resolution
import BoundaryRules.Proofs.RespelledGrammar
import BoundaryRules.Proofs.Respelling
import BoundaryRules.Proofs.SmallLetters
import BoundaryRules.Proofs.Spelling
import BoundaryRules.Proofs.StableOrder
import BoundaryRules.Proofs.TextEdges
import BoundaryRules.Proofs.TokenText
import BoundaryRules.Proofs.Traversal
import BoundaryRules.Proofs.Turns
import BoundaryRules.Proofs.UnknownClasses
import BoundaryRules.Proofs.Windows
import BoundaryRules.Proofs.WordBreak.Agreement
import BoundaryRules.Proofs.WordBreak.Classes
import BoundaryRules.Proofs.WordBreak.Grammar
import BoundaryRules.Proofs.WordBreak.Ignored
import BoundaryRules.Proofs.WordBreak.LineBreaks
import BoundaryRules.Proofs.WordBreak.Sides
import BoundaryRules.Proofs.WordBreak.Standard
import BoundaryRules.Report.Buffer
import BoundaryRules.Report.Layout
import BoundaryRules.Rule
import BoundaryRules.RuleLine
import BoundaryRules.Ruleset
import BoundaryRules.Scan
import BoundaryRules.Segmenter
import BoundaryRules.Selection
import BoundaryRules.StableSort
import BoundaryRules.Tally
import BoundaryRules.Text.Escape
import BoundaryRules.Text.Lines
import BoundaryRules.Text.Utf8
import BoundaryRules.Token
import BoundaryRules.Toml.Document
import BoundaryRules.Toml.Lexeme
import BoundaryRules.Toml.Numeral
import BoundaryRules.Toml.Scalar
import BoundaryRules.Toml.Value
import BoundaryRules.Unicode.CaseProperties
import BoundaryRules.Unicode.LetterOrNumber
import BoundaryRules.Unicode.LowerMapping
import BoundaryRules.Unicode.Printable
import BoundaryRules.Unicode.Tables
import BoundaryRules.Unicode.Text
import BoundaryRules.Unicode.UpperMapping
