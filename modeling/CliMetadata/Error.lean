import CliMetadata.MemberKind

namespace CliMetadata

/-- What is wrong with data that breaks a format. -/
inductive Fault where
  | compressedInteger (lead : UInt8)
  | compressedToken (value : Nat)
  | noOptionalHeader
  | noRuntimeHeader
  | addressTooLarge (address : Nat)
  | sectionOverflow (start extent : Nat)
  | unmappedAddress (address : Nat)
  | emptyBody
  | shortFatHeader (size : Nat)
  | unknownBodyFormat (lead : UInt8)
  | runtimeHeaderSize (size : Nat)
  | noMetadataDirectory
  | rootMagic (value : Nat)
  | noStreams
  | openStreamName
  | streamRange (name : String) (offset size : Nat)
  | emptyHeap (name : String)
  | shortGuidHeap
  | stringAt (index : Nat)
  | tablesRange (stop size : Nat)
  | codedTag (tag : Nat) (kind : CodedIndex)
  | signatureDepth (limit : Nat)
  | elementType (code : UInt8)
  | genericBase (code : UInt8)
  | fieldSignature (lead : UInt8)
  | propertySignature (lead : UInt8)
  | instantiation (lead : UInt8)
  | pagedOpcode (code : UInt8)
  | opcode (code : UInt8)
  | reservedOpcode (page code : UInt8)
  | switchSize (cases : Nat)
  | noTableStream
  | noStringStream
  | emptyModuleTable
  | brokenList (table : Table) (row : Nat) (became : Token)
  | methodRange (row : Nat)
  deriving DecidableEq

def Fault.message : Fault → String
  | .compressedInteger lead => s!"Invalid compressed uint - {lead}"
  | .compressedToken value => s!"Invalid compressed token - {value}"
  | .noOptionalHeader => "File does not have an OptionalHeader"
  | .noRuntimeHeader => "File does not have a CLR runtime header directory"
  | .addressTooLarge address => s!"RVA too large - {address}"
  | .sectionOverflow start extent =>
    s!"Section malformed, causing integer overflow - {start} + {extent}"
  | .unmappedAddress address => s!"RVA could not be converted to offset - {address}"
  | .emptyBody => "Provided data for body parsing is empty"
  | .shortFatHeader size => s!"Fat method header is too small - {size}"
  | .unknownBodyFormat lead => s!"MethodHeader is neither FAT nor TINY - {lead}"
  | .runtimeHeaderSize size => s!"Invalid CLR header size: expected 72, got {size}"
  | .noMetadataDirectory => "CLR header has an empty metadata directory"
  | .rootMagic value => s!"CIL_HEADER_MAGIC does not match - {value}"
  | .noStreams => "Metadata root declares no streams"
  | .openStreamName => "Stream header name is not terminated"
  | .streamRange name offset size =>
    s!"Stream {name} exceeds the metadata block - {offset} + {size}"
  | .emptyHeap name => s!"Provided {name} heap is empty"
  | .shortGuidHeap => "Data for #Guid heap is too small"
  | .stringAt index => s!"Invalid string at index - {index}"
  | .tablesRange stop size => s!"Tables extend past the stream - {stop} > {size}"
  | .codedTag tag kind => s!"Invalid tag {tag} for coded index {kind.name}"
  | .signatureDepth limit => s!"Signature nesting exceeds {limit}"
  | .elementType code => s!"Unsupported ELEMENT_TYPE - {code}"
  | .genericBase code => s!"GENERICINST - Next byte is not TYPE_CLASS or TYPE_VALUE - {code}"
  | .fieldSignature lead => s!"SignatureField - invalid start - {lead}"
  | .propertySignature lead => s!"SignatureProperty - invalid start - {lead}"
  | .instantiation lead => s!"SignatureMethodSpec - invalid start - {lead}"
  | .pagedOpcode code => "Invalid opcode: FE " ++ Hex.upper 2 code.toNat
  | .opcode code => "Invalid opcode: " ++ Hex.upper 1 code.toNat
  | .reservedOpcode page code =>
    "Reserved opcode: " ++ Hex.upper 2 page.toNat ++ Hex.upper 2 code.toNat
  | .switchSize cases => s!"Switch table too large - {cases}"
  | .noTableStream => "Image has no #~ stream"
  | .noStringStream => "Image has no #Strings stream"
  | .emptyModuleTable => "Module table is empty"
  | .brokenList table row became =>
    s!"{table.name} list is not contiguous - row {row} became {became.text}"
  | .methodRange row => s!"Method list points outside the table - {row}"

/-- What is wrong with an argument of a caller. -/
inductive Misuse where
  | identifierSegments (input : String) (count : Nat)
  | versionLength (length : Nat)
  | versionDigits (text : String)
  | tokenDigits (text : String)
  | kindCode (text : String)
  | unreadableConfiguration
  | emptyPageSize
  | pageSizeCeiling (size ceiling : Nat)
  | defaultPageSize (size largest : Nat)
  | emptyScanBudget
  | mnemonic (text : String)
  | switchTable
  | operand (given word : String)
  | emptyPage
  | pageCursor (text : String)
  | emptyLimit
  | missingFile (path : String)
  | notAMethod (input : String) (kind : MemberKind)
  deriving DecidableEq

private def inQuotes (text : String) : String := "'" ++ text ++ "'"

def Misuse.message : Misuse → String
  | .identifierSegments input count =>
    "identifier " ++ inQuotes input ++ s!" must have 3 segments, has {count}"
  | .versionLength length => s!"module version must be 32 hex digits, got {length}"
  | .versionDigits text => "module version " ++ inQuotes text ++ " is not hex"
  | .tokenDigits text => "token " ++ inQuotes text ++ " is not 8 hex digits"
  | .kindCode text => "unknown kind code " ++ inQuotes text
  | .unreadableConfiguration => "invalid configuration"
  | .emptyPageSize => "page sizes must be positive"
  | .pageSizeCeiling size ceiling => s!"maximum page size {size} exceeds {ceiling}"
  | .defaultPageSize size largest => s!"default page size {size} exceeds the maximum {largest}"
  | .emptyScanBudget => "scan budgets must be positive"
  | .mnemonic text => "unknown mnemonic " ++ inQuotes text
  | .switchTable => "switch table too large"
  | .operand given word => s!"operand {given} does not fit " ++ inQuotes word
  | .emptyPage => "page limit must be at least 1"
  | .pageCursor text => "invalid cursor " ++ inQuotes text
  | .emptyLimit => "limit must be at least 1"
  | .missingFile path => inQuotes path ++ " does not exist or is not a file"
  | .notAMethod input kind =>
    inQuotes input ++ s!" is a {Keyword.text kind}, not a method"

inductive Refusal where
  | notLoaded
  | notFromFile
  deriving DecidableEq

def Refusal.message : Refusal → String
  | .notLoaded => "no assembly is loaded"
  | .notFromFile => "the loaded assembly was not loaded from a file"

/-- What a caller named and the assembly does not have. -/
inductive Missing where
  | symbol (input : String)
  | type (input : String)
  deriving DecidableEq

def Missing.message : Missing → String
  | .symbol input => inQuotes input ++ " does not name a symbol"
  | .type input => inQuotes input ++ " does not name a type"

inductive Unsupported where
  | uncompressedTables
  | format (name : String)
  | decompiler (reason : String)
  deriving DecidableEq

def Unsupported.message : Unsupported → String
  | .uncompressedTables => "uncompressed (#-) metadata tables"
  | .format name => s!"no decompiler registered for {name}"
  | .decompiler reason => reason

inductive Error where
  | malformed (fault : Fault)
  | outOfBounds
  | empty
  | unreadableFile
  | invalidImage
  | invalidArgument (misuse : Misuse)
  | invalidOperation (refusal : Refusal)
  | notFound (missing : Missing)
  | notSupported (unsupported : Unsupported)
  deriving DecidableEq

def Error.message? : Error → Option String
  | .malformed fault => some fault.message
  | .invalidArgument misuse => some misuse.message
  | .invalidOperation refusal => some refusal.message
  | .notFound missing => some missing.message
  | .notSupported unsupported => some unsupported.message
  | .outOfBounds | .empty | .unreadableFile | .invalidImage => none

end CliMetadata
