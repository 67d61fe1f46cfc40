import Retrieval.Archive.FileSystem
import Retrieval.Archive.Meta
import Retrieval.Archive.Opened
import Retrieval.Archive.Path
import Retrieval.Archive.Storage
import Retrieval.CommandLine.Options
import Retrieval.Corpus.Build
import Retrieval.Corpus.Ingest
import Retrieval.Corpus.Line
import Retrieval.Distinct
import Retrieval.Error
import Retrieval.Fault
import Retrieval.Frame.Input
import Retrieval.Frame.Output
import Retrieval.Frame.Reader
import Retrieval.Frame.Writer
import Retrieval.Ids.Map
import Retrieval.Ids.Set
import Retrieval.Index.Basic
import Retrieval.Index.Builder
import Retrieval.Json.Lexeme
import Retrieval.Json.Text
import Retrieval.Json.Value
import Retrieval.Main
import Retrieval.Number.Binary64
import Retrieval.Number.Decimal
import Retrieval.Posting.BitRow
import Retrieval.Posting.Bitset
import Retrieval.Posting.Encoding
import Retrieval.Posting.Representation
import Retrieval.Posting.Store
import Retrieval.Proofs.Archive.Beside
import Retrieval.Proofs.Archive.Damage
import Retrieval.Proofs.Archive.Failing
import Retrieval.Proofs.Archive.Files
import Retrieval.Proofs.Archive.Loaded
import Retrieval.Proofs.Archive.Loading
import Retrieval.Proofs.Archive.Meta
import Retrieval.Proofs.Archive.Outcome
import Retrieval.Proofs.Archive.Places
import Retrieval.Proofs.Archive.Reported
import Retrieval.Proofs.Archive.Resaving
import Retrieval.Proofs.Archive.RoundTrip
import Retrieval.Proofs.Archive.Saving
import Retrieval.Proofs.Corpus.Accepted
import Retrieval.Proofs.Corpus.Ingestion
import Retrieval.Proofs.Corpus.Lines
import Retrieval.Proofs.Fault
import Retrieval.Proofs.Frame.Damage
import Retrieval.Proofs.Frame.Input
import Retrieval.Proofs.Frame.Output
import Retrieval.Proofs.Frame.Reading
import Retrieval.Proofs.Ids.Extensionality
import Retrieval.Proofs.Index.Build
import Retrieval.Proofs.Index.Consistent
import Retrieval.Proofs.Index.Counting
import Retrieval.Proofs.Index.Invariant
import Retrieval.Proofs.Index.Obtained
import Retrieval.Proofs.Index.Occurrences
import Retrieval.Proofs.Index.Recording
import Retrieval.Proofs.Json.Complete
import Retrieval.Proofs.Json.Records
import Retrieval.Proofs.Json.Scanning
import Retrieval.Proofs.Posting.Acceptance
import Retrieval.Proofs.Posting.BitRow
import Retrieval.Proofs.Posting.Bitset
import Retrieval.Proofs.Posting.Confluence
import Retrieval.Proofs.Posting.Damage
import Retrieval.Proofs.Posting.Decoding
import Retrieval.Proofs.Posting.Format
import Retrieval.Proofs.Posting.History
import Retrieval.Proofs.Posting.Listed
import Retrieval.Proofs.Posting.Listing
import Retrieval.Proofs.Posting.Reading
import Retrieval.Proofs.Posting.Recording
import Retrieval.Proofs.Posting.RoundTrip
import Retrieval.Proofs.Posting.Store
import Retrieval.Proofs.Query.Association
import Retrieval.Proofs.Query.Building
import Retrieval.Proofs.Query.Conservation
import Retrieval.Proofs.Query.Grammar
import Retrieval.Proofs.Query.Lexing
import Retrieval.Proofs.Query.Outcome
import Retrieval.Proofs.Query.Parsing
import Retrieval.Proofs.Query.Parts
import Retrieval.Proofs.Query.Postfix
import Retrieval.Proofs.Query.Printing
import Retrieval.Proofs.Query.Refinement
import Retrieval.Proofs.Query.Reprinting
import Retrieval.Proofs.Query.Rereading
import Retrieval.Proofs.Query.Satisfaction
import Retrieval.Proofs.Query.Tiling
import Retrieval.Proofs.Rank.LastPositions
import Retrieval.Proofs.Rank.Order
import Retrieval.Proofs.Rank.Overflow
import Retrieval.Proofs.Rank.Pointers
import Retrieval.Proofs.Rank.Ranking
import Retrieval.Proofs.Rank.Window
import Retrieval.Proofs.Search.Agreement
import Retrieval.Proofs.Search.Boolean
import Retrieval.Proofs.Search.Canonical
import Retrieval.Proofs.Search.Indexed
import Retrieval.Proofs.Search.Overflow
import Retrieval.Proofs.Search.Ranked
import Retrieval.Proofs.Search.Resent
import Retrieval.Proofs.Search.Verdict
import Retrieval.Proofs.Server.Origins
import Retrieval.Proofs.Server.Searching
import Retrieval.Proofs.Shell.Remembering
import Retrieval.Proofs.Shell.Session
import Retrieval.Proofs.Stem.Memo
import Retrieval.Proofs.Stem.Sharing
import Retrieval.Proofs.Stem.Tokens
import Retrieval.Proofs.Symbol.Acceptance
import Retrieval.Proofs.Symbol.Coherence
import Retrieval.Proofs.Symbol.Damage
import Retrieval.Proofs.Symbol.Decoding
import Retrieval.Proofs.Symbol.Fresh
import Retrieval.Proofs.Symbol.Probing
import Retrieval.Proofs.Symbol.Reading
import Retrieval.Proofs.Symbol.RoundTrip
import Retrieval.Proofs.Symbol.Runs
import Retrieval.Proofs.Symbol.Table
import Retrieval.Proofs.Text.DigitGap
import Retrieval.Proofs.Text.Joining
import Retrieval.Proofs.Text.Parts
import Retrieval.Proofs.Text.Tokens
import Retrieval.Proofs.Text.Words
import Retrieval.Proofs.Unicode.Cut
import Retrieval.Proofs.Unicode.Decomposition
import Retrieval.Proofs.Unicode.Lowercase
import Retrieval.Proofs.Unicode.Normalization
import Retrieval.Proofs.Unicode.Regularity
import Retrieval.Proofs.Utf8
import Retrieval.Query.Evaluation
import Retrieval.Query.Lexer
import Retrieval.Query.Postfix
import Retrieval.Query.Token
import Retrieval.Query.Tree
import Retrieval.Rank.Ranking
import Retrieval.Rank.Window
import Retrieval.Search
import Retrieval.Search.Outcome
import Retrieval.Server.Origin
import Retrieval.Server.Router
import Retrieval.Shell.Session
import Retrieval.Stem.English
import Retrieval.Stem.Language
import Retrieval.Stem.Memo
import Retrieval.Stem.Russian
import Retrieval.Stem.Sharing
import Retrieval.Stem.Suffix
import Retrieval.Symbol.Encoding
import Retrieval.Symbol.Table
import Retrieval.Text.DigitGap
import Retrieval.Text.Normalize
import Retrieval.Text.Words
import Retrieval.Unicode.Casing
import Retrieval.Unicode.CombiningClass
import Retrieval.Unicode.DecimalDigit
import Retrieval.Unicode.Decomposition
import Retrieval.Unicode.Decomposition.Table
import Retrieval.Unicode.Lowercase
import Retrieval.Unicode.Lowercase.Table
import Retrieval.Unicode.Normalization
import Retrieval.Unicode.Range
import Retrieval.Unicode.WhiteSpace
import Retrieval.Unicode.WordCharacter
import Retrieval.Url.Percent
import Retrieval.Url.Target
import Retrieval.Utf8
