import LinkParsing.Bundled.English
import LinkParsing.Bundled.Files
import LinkParsing.Bundled.Russian
import LinkParsing.Catalog.Basic
import LinkParsing.Catalog.Loading
import LinkParsing.Catalog.Run
import LinkParsing.CommandLine.Arguments
import LinkParsing.CommandLine.Flag
import LinkParsing.CommandLine.Run
import LinkParsing.Connector
import LinkParsing.Cost
import LinkParsing.Dictionary
import LinkParsing.Disjunct
import LinkParsing.Engine
import LinkParsing.Error
import LinkParsing.FileTree
import LinkParsing.Formula
import LinkParsing.Formula.Equality
import LinkParsing.Formula.Expansion
import LinkParsing.Formula.Structure
import LinkParsing.Formula.Substitution
import LinkParsing.Layout.Basic
import LinkParsing.Layout.Diagram
import LinkParsing.Layout.PostScript
import LinkParsing.Lexicon.Entry
import LinkParsing.Lexicon.Lexeme
import LinkParsing.Lexicon.Reader
import LinkParsing.Lexicon.SyntaxError
import LinkParsing.Lexicon.WordPattern
import LinkParsing.Linkage
import LinkParsing.Main
import LinkParsing.Options.Basic
import LinkParsing.Options.Changes
import LinkParsing.Options.Document
import LinkParsing.Options.Json
import LinkParsing.Options.Name
import LinkParsing.Options.Yaml
import LinkParsing.Options.Yaml.Cursor
import LinkParsing.Options.Yaml.Fields
import LinkParsing.Options.Yaml.Scalar
import LinkParsing.Options.Yaml.Tag
import LinkParsing.Options.Yaml.Token
import LinkParsing.Pattern.AutomatonSize
import LinkParsing.Pattern.Basic
import LinkParsing.Pattern.Building
import LinkParsing.Pattern.ByteSequence
import LinkParsing.Pattern.CharSet
import LinkParsing.Pattern.Matching
import LinkParsing.Pattern.Reading
import LinkParsing.Pattern.RecentTable
import LinkParsing.Proofs.Catalog.Languages
import LinkParsing.Proofs.Catalog.Paths
import LinkParsing.Proofs.Catalog.Sharing
import LinkParsing.Proofs.Catalog.Writing
import LinkParsing.Proofs.CommandLine.Parse
import LinkParsing.Proofs.Connector.Labels
import LinkParsing.Proofs.Connector.Listing
import LinkParsing.Proofs.Connector.Spelling
import LinkParsing.Proofs.Connector.Usage
import LinkParsing.Proofs.Cost
import LinkParsing.Proofs.Dictionary.Contents
import LinkParsing.Proofs.Dictionary.Faults
import LinkParsing.Proofs.Dictionary.Locations
import LinkParsing.Proofs.Dictionary.Lookups
import LinkParsing.Proofs.Engine.Costs
import LinkParsing.Proofs.Engine.Deadline
import LinkParsing.Proofs.Engine.Doubling
import LinkParsing.Proofs.Engine.Outcome
import LinkParsing.Proofs.Engine.Picking
import LinkParsing.Proofs.Engine.Selection
import LinkParsing.Proofs.Formula.Collecting
import LinkParsing.Proofs.Formula.Costs
import LinkParsing.Proofs.Formula.Limit
import LinkParsing.Proofs.Formula.Meaning
import LinkParsing.Proofs.Formula.Rereading
import LinkParsing.Proofs.Formula.Resolution
import LinkParsing.Proofs.Layout.Columns
import LinkParsing.Proofs.Layout.Document
import LinkParsing.Proofs.Layout.Heights
import LinkParsing.Proofs.Layout.HiddenWalls
import LinkParsing.Proofs.Layout.LinkGraph
import LinkParsing.Proofs.Layout.Literals
import LinkParsing.Proofs.Layout.Nesting
import LinkParsing.Proofs.Layout.Painting
import LinkParsing.Proofs.Layout.Placement
import LinkParsing.Proofs.Layout.Shown
import LinkParsing.Proofs.Layout.Tables
import LinkParsing.Proofs.Lexicon.Chains
import LinkParsing.Proofs.Lexicon.ConnectorRule
import LinkParsing.Proofs.Lexicon.Entries
import LinkParsing.Proofs.Lexicon.Ignored
import LinkParsing.Proofs.Lexicon.Lexemes
import LinkParsing.Proofs.Lexicon.Phrases
import LinkParsing.Proofs.Lexicon.Places
import LinkParsing.Proofs.Lexicon.Printing
import LinkParsing.Proofs.Lexicon.Reads
import LinkParsing.Proofs.Lexicon.Shape
import LinkParsing.Proofs.Lexicon.Slices
import LinkParsing.Proofs.Lexicon.WordPatterns
import LinkParsing.Proofs.Linkage.Order
import LinkParsing.Proofs.Options.Changes
import LinkParsing.Proofs.Options.Documents
import LinkParsing.Proofs.Options.Held
import LinkParsing.Proofs.Options.Objects
import LinkParsing.Proofs.Result
import LinkParsing.Proofs.Sampling.Distinct
import LinkParsing.Proofs.Sampling.Draws
import LinkParsing.Proofs.Sampling.Jumps
import LinkParsing.Proofs.Sampling.Period
import LinkParsing.Proofs.Sampling.PrimeFactors
import LinkParsing.Proofs.Sampling.States
import LinkParsing.Proofs.Search.Bounds
import LinkParsing.Proofs.Search.Coverage
import LinkParsing.Proofs.Search.Decomposition
import LinkParsing.Proofs.Search.Distinct
import LinkParsing.Proofs.Search.Enumeration
import LinkParsing.Proofs.Search.Exactness
import LinkParsing.Proofs.Search.Filling
import LinkParsing.Proofs.Search.Guarded
import LinkParsing.Proofs.Search.Memory
import LinkParsing.Proofs.Search.Plain
import LinkParsing.Proofs.Search.Rendering
import LinkParsing.Proofs.Search.Rooting
import LinkParsing.Proofs.Search.Safety
import LinkParsing.Proofs.Search.Serving
import LinkParsing.Proofs.Search.Sides
import LinkParsing.Proofs.Search.Soundness
import LinkParsing.Proofs.Search.Splitting
import LinkParsing.Proofs.Search.Wiring
import LinkParsing.Proofs.Sentence.Marks
import LinkParsing.Proofs.Sentence.Tokens
import LinkParsing.Proofs.Sentence.Words
import LinkParsing.Proofs.Session.Blank
import LinkParsing.Proofs.Session.Failures
import LinkParsing.Proofs.Session.States
import LinkParsing.Proofs.Sorting
import LinkParsing.Proofs.Text.Cuts
import LinkParsing.Proofs.Text.Runs
import LinkParsing.Proofs.Text.Trimming
import LinkParsing.Sampling.Generator
import LinkParsing.Sampling.Indices
import LinkParsing.Search.Counting
import LinkParsing.Search.Extraction
import LinkParsing.Search.Region
import LinkParsing.Sentence.Token
import LinkParsing.Sentence.Word
import LinkParsing.Session.Basic
import LinkParsing.Session.Request
import LinkParsing.Session.State
import LinkParsing.Text.Alphanumeric
import LinkParsing.Text.CaseRuns
import LinkParsing.Text.CaseTable
import LinkParsing.Text.Digits
import LinkParsing.Text.Fold
import LinkParsing.Text.FoldTable
import LinkParsing.Text.Letter
import LinkParsing.Text.Lowercase
import LinkParsing.Text.Printable
import LinkParsing.Text.RangeSet
import LinkParsing.Text.RangeTable
import LinkParsing.Text.Span
import LinkParsing.Text.Utf8
import LinkParsing.Text.Whitespace
import LinkParsing.Text.Width
import LinkParsing.Text.WidthTable
import LinkParsing.Text.WordBoundary
import LinkParsing.Text.WordClassTable
