import CliMetadata.Table

namespace CliMetadata

inductive Column where
  | short
  | long
  | string
  | guid
  | blob
  | index (table : Table)
  | coded (kind : CodedIndex)
  deriving DecidableEq

/-- The columns of a row, in order. The type byte of a constant and the padding behind it count as
one short column. -/
def Table.columns : Table → List Column
  | .module => [.short, .string, .guid, .guid, .guid]
  | .typeRef => [.coded .resolutionScope, .string, .string]
  | .typeDef => [.long, .string, .string, .coded .typeDefOrRef, .index .field, .index .methodDef]
  | .fieldPtr => [.index .field]
  | .field => [.short, .string, .blob]
  | .methodPtr => [.index .methodDef]
  | .methodDef => [.long, .short, .short, .string, .blob, .index .param]
  | .paramPtr => [.index .param]
  | .param => [.short, .short, .string]
  | .interfaceImpl => [.index .typeDef, .coded .typeDefOrRef]
  | .memberRef => [.coded .memberRefParent, .string, .blob]
  | .constant => [.short, .coded .hasConstant, .blob]
  | .customAttribute => [.coded .hasCustomAttribute, .coded .customAttributeType, .blob]
  | .fieldMarshal => [.coded .hasFieldMarshal, .blob]
  | .declSecurity => [.short, .coded .hasDeclSecurity, .blob]
  | .classLayout => [.short, .long, .index .typeDef]
  | .fieldLayout => [.long, .index .field]
  | .standAloneSig => [.blob]
  | .eventMap => [.index .typeDef, .index .event]
  | .eventPtr => [.index .event]
  | .event => [.short, .string, .coded .typeDefOrRef]
  | .propertyMap => [.index .typeDef, .index .property]
  | .propertyPtr => [.index .property]
  | .property => [.short, .string, .blob]
  | .methodSemantics => [.short, .index .methodDef, .coded .hasSemantics]
  | .methodImpl => [.index .typeDef, .coded .methodDefOrRef, .coded .methodDefOrRef]
  | .moduleRef => [.string]
  | .typeSpec => [.blob]
  | .implMap => [.short, .coded .memberForwarded, .string, .index .moduleRef]
  | .fieldRva => [.long, .index .field]
  | .encLog => [.long, .long]
  | .encMap => [.long]
  | .assembly => [.long, .short, .short, .short, .short, .long, .blob, .string, .string]
  | .assemblyProcessor => [.long]
  | .assemblyOs => [.long, .long, .long]
  | .assemblyRef => [.short, .short, .short, .short, .long, .blob, .string, .string, .blob]
  | .assemblyRefProcessor => [.long, .index .assemblyRef]
  | .assemblyRefOs => [.long, .long, .long, .index .assemblyRef]
  | .file => [.long, .string, .blob]
  | .exportedType => [.long, .long, .string, .string, .coded .implementation]
  | .manifestResource => [.long, .long, .string, .coded .implementation]
  | .nestedClass => [.index .typeDef, .index .typeDef]
  | .genericParam => [.short, .short, .coded .typeOrMethodDef, .string]
  | .methodSpec => [.coded .methodDefOrRef, .blob]
  | .genericParamConstraint => [.index .genericParam, .coded .typeDefOrRef]

end CliMetadata
