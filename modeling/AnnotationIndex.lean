import AnnotationIndex.Command.Arguments
import AnnotationIndex.Command.Invocation
import AnnotationIndex.Command.LogFilter
import AnnotationIndex.Command.Needs
import AnnotationIndex.Command.Program
import AnnotationIndex.Data.KeyMap
import AnnotationIndex.Digest.Sha256
import AnnotationIndex.Failure
import AnnotationIndex.Files.Links
import AnnotationIndex.Files.Tree
import AnnotationIndex.Grammar.Basic
import AnnotationIndex.Grammar.Reading
import AnnotationIndex.Grammar.State
import AnnotationIndex.Index.Artifact
import AnnotationIndex.Index.Catalog
import AnnotationIndex.Index.ClassMap
import AnnotationIndex.Index.Collection
import AnnotationIndex.Index.Loader
import AnnotationIndex.Index.Record
import AnnotationIndex.Java.Document
import AnnotationIndex.Java.Header
import AnnotationIndex.Java.Literal
import AnnotationIndex.Java.Scope
import AnnotationIndex.Java.Syntax.Declarations
import AnnotationIndex.Java.Syntax.Expressions
import AnnotationIndex.Java.Syntax.Outline
import AnnotationIndex.Java.Syntax.Source
import AnnotationIndex.Java.Syntax.Statements
import AnnotationIndex.Java.Syntax.Symbols
import AnnotationIndex.Java.Syntax.Types
import AnnotationIndex.Java.Token
import AnnotationIndex.Java.Unit
import AnnotationIndex.Java.Value
import AnnotationIndex.Java.Written
import AnnotationIndex.Json.Basic
import AnnotationIndex.Json.Decoder
import AnnotationIndex.Json.Number
import AnnotationIndex.Json.Reader
import AnnotationIndex.Log
import AnnotationIndex.Main
import AnnotationIndex.Number.Binary64
import AnnotationIndex.Number.Shortest
import AnnotationIndex.Path
import AnnotationIndex.Pattern.Basic
import AnnotationIndex.Pattern.Class
import AnnotationIndex.Pattern.Machine
import AnnotationIndex.Pattern.Reader
import AnnotationIndex.Pattern.Search
import AnnotationIndex.Proofs.Data.KeyMap
import AnnotationIndex.Proofs.Data.LastMember
import AnnotationIndex.Proofs.Files.Detours
import AnnotationIndex.Proofs.Files.Growth
import AnnotationIndex.Proofs.Files.Links
import AnnotationIndex.Proofs.Files.Parents
import AnnotationIndex.Proofs.Files.Tree
import AnnotationIndex.Proofs.Grammar.Evaluation
import AnnotationIndex.Proofs.Grammar.Soundness
import AnnotationIndex.Proofs.Grammar.Turns
import AnnotationIndex.Proofs.Index.Answers
import AnnotationIndex.Proofs.Index.ArtifactDocuments
import AnnotationIndex.Proofs.Index.Collections
import AnnotationIndex.Proofs.Index.Gathering
import AnnotationIndex.Proofs.Index.LiveTargets
import AnnotationIndex.Proofs.Index.Ownership
import AnnotationIndex.Proofs.Index.Queries
import AnnotationIndex.Proofs.Index.QueryStyles
import AnnotationIndex.Proofs.Index.RecordDocuments
import AnnotationIndex.Proofs.Java.Brackets
import AnnotationIndex.Proofs.Java.Canonical
import AnnotationIndex.Proofs.Java.CanonicalTokens
import AnnotationIndex.Proofs.Java.CanonicalTrees
import AnnotationIndex.Proofs.Java.CanonicalUnits
import AnnotationIndex.Proofs.Java.CanonicalValues
import AnnotationIndex.Proofs.Java.DeclaredTypes
import AnnotationIndex.Proofs.Java.Digits
import AnnotationIndex.Proofs.Java.Documents
import AnnotationIndex.Proofs.Java.Erasure
import AnnotationIndex.Proofs.Java.EscapedTexts
import AnnotationIndex.Proofs.Java.Escapes
import AnnotationIndex.Proofs.Java.Evaluation
import AnnotationIndex.Proofs.Java.HeaderNames
import AnnotationIndex.Proofs.Java.Indentation
import AnnotationIndex.Proofs.Java.IntegerLiterals
import AnnotationIndex.Proofs.Java.IntegerTokens
import AnnotationIndex.Proofs.Java.Items
import AnnotationIndex.Proofs.Java.Leaves
import AnnotationIndex.Proofs.Java.Marks
import AnnotationIndex.Proofs.Java.Moves
import AnnotationIndex.Proofs.Java.Readers
import AnnotationIndex.Proofs.Java.Redaction
import AnnotationIndex.Proofs.Java.Resolution
import AnnotationIndex.Proofs.Java.Scan
import AnnotationIndex.Proofs.Java.ScanBytes
import AnnotationIndex.Proofs.Java.ScanPositions
import AnnotationIndex.Proofs.Java.ScanTurns
import AnnotationIndex.Proofs.Java.Slots
import AnnotationIndex.Proofs.Java.TextBlocks
import AnnotationIndex.Proofs.Java.Tokens
import AnnotationIndex.Proofs.Java.Unannotated
import AnnotationIndex.Proofs.Json.Exact
import AnnotationIndex.Proofs.Json.Lexical
import AnnotationIndex.Proofs.Json.Number
import AnnotationIndex.Proofs.Json.ReadBack
import AnnotationIndex.Proofs.Run.Alongside
import AnnotationIndex.Proofs.Run.Atomicity
import AnnotationIndex.Proofs.Run.Dropped
import AnnotationIndex.Proofs.Run.Failed
import AnnotationIndex.Proofs.Run.Files
import AnnotationIndex.Proofs.Run.Interleaving
import AnnotationIndex.Proofs.Run.KnownTypes
import AnnotationIndex.Proofs.Run.Plain
import AnnotationIndex.Proofs.Run.Prefilter
import AnnotationIndex.Proofs.Run.Reliable
import AnnotationIndex.Proofs.Run.Repetition
import AnnotationIndex.Proofs.Run.Replacing
import AnnotationIndex.Proofs.Run.Rereading
import AnnotationIndex.Proofs.Run.Stages
import AnnotationIndex.Proofs.Run.Targets
import AnnotationIndex.Proofs.Run.Transparency
import AnnotationIndex.Proofs.Run.Unmentioned
import AnnotationIndex.Proofs.Run.Validity
import AnnotationIndex.Proofs.Run.Verdicts
import AnnotationIndex.Proofs.Run.Visibility
import AnnotationIndex.Proofs.Store.Durability
import AnnotationIndex.Proofs.Store.Gives
import AnnotationIndex.Proofs.Store.Histories
import AnnotationIndex.Proofs.Store.Lookups
import AnnotationIndex.Proofs.Store.Refinement
import AnnotationIndex.Proofs.Store.Replays
import AnnotationIndex.Proofs.Store.SaltKeys
import AnnotationIndex.Proofs.Store.Salts
import AnnotationIndex.Proofs.Text.CharSet
import AnnotationIndex.Proofs.Text.Lines
import AnnotationIndex.Proofs.Text.Paths
import AnnotationIndex.Proofs.Text.Pieces
import AnnotationIndex.Proofs.Text.Utf8
import AnnotationIndex.Run.Config
import AnnotationIndex.Run.Extraction
import AnnotationIndex.Run.Keeping
import AnnotationIndex.Run.Replacement
import AnnotationIndex.Run.Report
import AnnotationIndex.Run.Sources
import AnnotationIndex.Store.Durable
import AnnotationIndex.Store.Entry
import AnnotationIndex.Store.Fingerprint
import AnnotationIndex.Store.Session
import AnnotationIndex.Text.Age
import AnnotationIndex.Text.Blank
import AnnotationIndex.Text.Boundary
import AnnotationIndex.Text.CaseFold
import AnnotationIndex.Text.Category
import AnnotationIndex.Text.CharSet
import AnnotationIndex.Text.Identifier
import AnnotationIndex.Text.Property
import AnnotationIndex.Text.Script
import AnnotationIndex.Text.ScriptExtension
import AnnotationIndex.Text.Utf8
import AnnotationIndex.Text.Utf8Ranges
