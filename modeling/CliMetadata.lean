import CliMetadata.Analyzer
import CliMetadata.Analyzer.Identity
import CliMetadata.Analyzer.Inheritance
import CliMetadata.Analyzer.Lifecycle
import CliMetadata.Analyzer.Search
import CliMetadata.Analyzer.Source
import CliMetadata.Analyzer.Usage
import CliMetadata.Assembly
import CliMetadata.Assembly.Access
import CliMetadata.Assembly.Draft
import CliMetadata.Assembly.Entity
import CliMetadata.Assembly.Loading
import CliMetadata.Assembly.Metadata
import CliMetadata.Attempt
import CliMetadata.Bytes.Cursor
import CliMetadata.Bytes.Word
import CliMetadata.Cache
import CliMetadata.Config
import CliMetadata.Config.Json
import CliMetadata.Error
import CliMetadata.Files
import CliMetadata.Files.Path
import CliMetadata.Guid
import CliMetadata.Heap
import CliMetadata.Heap.UserStrings
import CliMetadata.Il.Encoder
import CliMetadata.Il.Instruction
import CliMetadata.Il.Listing
import CliMetadata.Il.Opcode
import CliMetadata.Il.OpcodeTable
import CliMetadata.Image
import CliMetadata.Image.Headers
import CliMetadata.Image.RuntimeHeader
import CliMetadata.Index
import CliMetadata.Inheritance
import CliMetadata.Keyword
import CliMetadata.Matcher
import CliMetadata.MemberId
import CliMetadata.MemberKind
import CliMetadata.MetadataRoot
import CliMetadata.MethodBody
import CliMetadata.Page
import CliMetadata.Pattern
import CliMetadata.Pattern.Bracketed
import CliMetadata.Pattern.Category
import CliMetadata.Pattern.CharClass
import CliMetadata.Pattern.CharSet
import CliMetadata.Pattern.Escape
import CliMetadata.Pattern.Modes
import CliMetadata.Pattern.Property
import CliMetadata.Pattern.Reader
import CliMetadata.Pattern.Script
import CliMetadata.Pattern.Segment
import CliMetadata.Pattern.Size
import CliMetadata.Resolver
import CliMetadata.Resolver.ParameterList
import CliMetadata.Resolver.Strategy
import CliMetadata.Search
import CliMetadata.Signature
import CliMetadata.Signature.Reader
import CliMetadata.Signature.Text
import CliMetadata.Snapshot
import CliMetadata.Source
import CliMetadata.Source.Disassembly
import CliMetadata.Symbol
import CliMetadata.Table
import CliMetadata.Table.Header
import CliMetadata.Table.Schema
import CliMetadata.Table.Stream
import CliMetadata.Text.AgeData
import CliMetadata.Text.Blank
import CliMetadata.Text.Casing
import CliMetadata.Text.CasingData
import CliMetadata.Text.CategoryData
import CliMetadata.Text.FoldingData
import CliMetadata.Text.Hex
import CliMetadata.Text.Numeral
import CliMetadata.Text.PropertyData
import CliMetadata.Text.Quoted
import CliMetadata.Text.ScriptData
import CliMetadata.Text.SegmentData
import CliMetadata.Text.Shortest
import CliMetadata.Text.Split
import CliMetadata.Text.Utf16
import CliMetadata.Text.Utf8
import CliMetadata.Token
import CliMetadata.Usage
import CliMetadata.Usage.Scan
import CliMetadata.Proofs.Bytes.Reading
import CliMetadata.Proofs.Il.OpcodeTable
import CliMetadata.Proofs.Il.Form
import CliMetadata.Proofs.Il.RoundTrip
import CliMetadata.Proofs.Il.Tiling
import CliMetadata.Proofs.Assembly.Building
import CliMetadata.Proofs.Assembly.Numbered
import CliMetadata.Proofs.Cache
import CliMetadata.Proofs.Cache.History
import CliMetadata.Proofs.Assembly.Loaded
import CliMetadata.Proofs.Index
import CliMetadata.Proofs.Resolution
import CliMetadata.Proofs.Resolution.Counting
import CliMetadata.Proofs.Analyzer.World
import CliMetadata.Proofs.Analyzer.Answers
import CliMetadata.Proofs.Page
import CliMetadata.Proofs.Analyzer.Scanning
import CliMetadata.Proofs.Analyzer.Run
import CliMetadata.Proofs.Analyzer.Transparency
import CliMetadata.Proofs.Analyzer.Paging
import CliMetadata.Proofs.Bytes.Compressed
import CliMetadata.Proofs.Bytes.TypeToken
import CliMetadata.Proofs.Signature.Form
import CliMetadata.Proofs.Signature.RoundTrip
import CliMetadata.Proofs.Table.Image
import CliMetadata.Proofs.Table.RoundTrip
import CliMetadata.Proofs.Assembly.Listed
import CliMetadata.Proofs.Search.Found
import CliMetadata.Proofs.Analyzer.Searching
import CliMetadata.Proofs.Usage.Roles
import CliMetadata.Proofs.Usage.Calls
import CliMetadata.Proofs.Analyzer.Calling
import CliMetadata.Proofs.Identifier.Form
import CliMetadata.Proofs.Identifier
import CliMetadata.Proofs.Analyzer.Identifying
import CliMetadata.Proofs.Inheritance.Walks
import CliMetadata.Proofs.Analyzer.Inheriting
import CliMetadata.Proofs.Inheritance.Overriding
import CliMetadata.Proofs.Usage.Exact
import CliMetadata.Proofs.Analyzer.Using
import CliMetadata.Proofs.Analyzer.Generations
import CliMetadata.Proofs.Analyzer.Lifecycle
import CliMetadata.Proofs.Analyzer.Counting
import CliMetadata.Proofs.Assembly.WellFormed
import CliMetadata.Proofs.Loading.Reading
import CliMetadata.Proofs.Loading.Members
import CliMetadata.Proofs.Loading.Fidelity
import CliMetadata.Proofs.Loading.Coverage
import CliMetadata.Proofs.Assembly.Referring
import CliMetadata.Proofs.Analyzer.Resolving
import CliMetadata.Proofs.Index.Contents
import CliMetadata.Proofs.Analyzer.Indexing
import CliMetadata.Proofs.Assembly.Landing
import CliMetadata.Proofs.Assembly.Outward
import CliMetadata.Proofs.Assembly.Rebuilding
import CliMetadata.Proofs.Assembly.Nesting
import CliMetadata.Proofs.Signature.Instantiating
import CliMetadata.Proofs.Usage.Budget
import CliMetadata.Proofs.Analyzer.Decompiling
import CliMetadata.Proofs.Search.Casing
import CliMetadata.Proofs.Search.OneType
import CliMetadata.Proofs.Bytes.Holding
import CliMetadata.Proofs.Text.Encoding
import CliMetadata.Proofs.Assembly.Literals
import CliMetadata.Proofs.MetadataRoot
import CliMetadata.Proofs.Table.Layout
import CliMetadata.Proofs.Table.Selection
import CliMetadata.Proofs.MethodBody
import CliMetadata.Proofs.Bytes.Integers
import CliMetadata.Proofs.Table.Widths
import CliMetadata.Proofs.Image.Mapping
import CliMetadata.Proofs.DocumentationId.Brackets
