import CliMetadata.Token

namespace CliMetadata

/-- The known metadata tables, in the order of their numbers. -/
inductive Table where
  | module | typeRef | typeDef | fieldPtr | field | methodPtr | methodDef | paramPtr | param
  | interfaceImpl | memberRef | constant | customAttribute | fieldMarshal | declSecurity
  | classLayout | fieldLayout | standAloneSig | eventMap | eventPtr | event | propertyMap
  | propertyPtr | property | methodSemantics | methodImpl | moduleRef | typeSpec | implMap
  | fieldRva | encLog | encMap | assembly | assemblyProcessor | assemblyOs | assemblyRef
  | assemblyRefProcessor | assemblyRefOs | file | exportedType | manifestResource | nestedClass
  | genericParam | methodSpec | genericParamConstraint
  deriving DecidableEq, Inhabited

namespace Table

def all : List Table :=
  [.module, .typeRef, .typeDef, .fieldPtr, .field, .methodPtr, .methodDef, .paramPtr, .param,
    .interfaceImpl, .memberRef, .constant, .customAttribute, .fieldMarshal, .declSecurity,
    .classLayout, .fieldLayout, .standAloneSig, .eventMap, .eventPtr, .event, .propertyMap,
    .propertyPtr, .property, .methodSemantics, .methodImpl, .moduleRef, .typeSpec, .implMap,
    .fieldRva, .encLog, .encMap, .assembly, .assemblyProcessor, .assemblyOs, .assemblyRef,
    .assemblyRefProcessor, .assemblyRefOs, .file, .exportedType, .manifestResource, .nestedClass,
    .genericParam, .methodSpec, .genericParamConstraint]

/-- The table number, which is also the high byte of the table's tokens. -/
def number (t : Table) : Nat := t.ctorIdx

def ofNumber? (n : Nat) : Option Table := all[n]?

def token (t : Table) (row : Nat) : Token := Token.ofParts t.number row

def name : Table → String
  | .module => "Module"
  | .typeRef => "TypeRef"
  | .typeDef => "TypeDef"
  | .fieldPtr => "FieldPtr"
  | .field => "Field"
  | .methodPtr => "MethodPtr"
  | .methodDef => "MethodDef"
  | .paramPtr => "ParamPtr"
  | .param => "Param"
  | .interfaceImpl => "InterfaceImpl"
  | .memberRef => "MemberRef"
  | .constant => "Constant"
  | .customAttribute => "CustomAttribute"
  | .fieldMarshal => "FieldMarshal"
  | .declSecurity => "DeclSecurity"
  | .classLayout => "ClassLayout"
  | .fieldLayout => "FieldLayout"
  | .standAloneSig => "StandAloneSig"
  | .eventMap => "EventMap"
  | .eventPtr => "EventPtr"
  | .event => "Event"
  | .propertyMap => "PropertyMap"
  | .propertyPtr => "PropertyPtr"
  | .property => "Property"
  | .methodSemantics => "MethodSemantics"
  | .methodImpl => "MethodImpl"
  | .moduleRef => "ModuleRef"
  | .typeSpec => "TypeSpec"
  | .implMap => "ImplMap"
  | .fieldRva => "FieldRVA"
  | .encLog => "EncLog"
  | .encMap => "EncMap"
  | .assembly => "Assembly"
  | .assemblyProcessor => "AssemblyProcessor"
  | .assemblyOs => "AssemblyOS"
  | .assemblyRef => "AssemblyRef"
  | .assemblyRefProcessor => "AssemblyRefProcessor"
  | .assemblyRefOs => "AssemblyRefOS"
  | .file => "File"
  | .exportedType => "ExportedType"
  | .manifestResource => "ManifestResource"
  | .nestedClass => "NestedClass"
  | .genericParam => "GenericParam"
  | .methodSpec => "MethodSpec"
  | .genericParamConstraint => "GenericParamConstraint"

theorem ofNumber?_number (t : Table) : ofNumber? t.number = some t := by
  cases t <;> rfl

theorem number_lt (t : Table) : t.number < 45 := by
  cases t <;> decide

section Tokens

variable {table other : Table} {row n : Nat}

theorem number_inj (h : table.number = other.number) : table = other := by
  apply Option.some.inj
  rw [← ofNumber?_number table, h, ofNumber?_number]

@[simp] theorem table_token (table : Table) (row : Nat) :
    (table.token row).table = table.number := by
  have hlt := table.number_lt
  rw [token, Token.table_ofParts]
  omega

theorem row_token (table : Table) (row : Nat) : (table.token row).row = row % 0x1000000 :=
  Token.row_ofParts ..

/-- Rows of one table have one token if they differ above the 24th bit only. -/
theorem token_eq_iff :
    table.token row = other.token n ↔ table = other ∧ row % 0x1000000 = n % 0x1000000 := by
  constructor
  · intro h
    have htable := table_token table row
    have hrow := row_token table row
    rw [h] at htable hrow
    exact ⟨number_inj (htable.symm.trans (table_token other n)),
      hrow.symm.trans (row_token other n)⟩
  · rintro ⟨rfl, hrow⟩
    rw [token, token, Token.ofParts, hrow, ← Token.ofParts]

end Tokens

end Table

/-- Whether a token points into a table, at whatever row. -/
def Token.isIn (t : Token) (table : Table) : Bool := t.table == table.number

/-- The kinds of coded indexes. -/
inductive CodedIndex where
  | typeDefOrRef | hasConstant | hasCustomAttribute | hasFieldMarshal | hasDeclSecurity
  | memberRefParent | hasSemantics | methodDefOrRef | memberForwarded | implementation
  | customAttributeType | resolutionScope | typeOrMethodDef
  deriving DecidableEq, Inhabited

namespace CodedIndex

def all : List CodedIndex :=
  [.typeDefOrRef, .hasConstant, .hasCustomAttribute, .hasFieldMarshal, .hasDeclSecurity,
    .memberRefParent, .hasSemantics, .methodDefOrRef, .memberForwarded, .implementation,
    .customAttributeType, .resolutionScope, .typeOrMethodDef]

/-- The tables a kind can select, in the order of their tags. The reserved tags of an attribute's
constructor stand for the table of the nearest tag in use. -/
def tables : CodedIndex → List Table
  | .typeDefOrRef => [.typeDef, .typeRef, .typeSpec]
  | .hasConstant => [.field, .param, .property]
  | .hasCustomAttribute =>
    [.methodDef, .field, .typeRef, .typeDef, .param, .interfaceImpl, .memberRef, .module,
      .declSecurity, .property, .event, .standAloneSig, .moduleRef, .typeSpec, .assembly,
      .assemblyRef, .file, .exportedType, .manifestResource, .genericParam,
      .genericParamConstraint, .methodSpec]
  | .hasFieldMarshal => [.field, .param]
  | .hasDeclSecurity => [.typeDef, .methodDef, .assembly]
  | .memberRefParent => [.typeDef, .typeRef, .moduleRef, .methodDef, .typeSpec]
  | .hasSemantics => [.event, .property]
  | .methodDefOrRef => [.methodDef, .memberRef]
  | .memberForwarded => [.field, .methodDef]
  | .implementation => [.file, .assemblyRef, .exportedType]
  | .customAttributeType => [.methodDef, .methodDef, .methodDef, .memberRef, .memberRef]
  | .resolutionScope => [.module, .moduleRef, .assemblyRef, .typeRef]
  | .typeOrMethodDef => [.typeDef, .methodDef]

/-- How many low bits number the tables of a kind. -/
def tagBits (c : CodedIndex) : Nat := Nat.log2 (c.tables.length - 1) + 1

def name : CodedIndex → String
  | .typeDefOrRef => "TypeDefOrRef"
  | .hasConstant => "HasConstant"
  | .hasCustomAttribute => "HasCustomAttribute"
  | .hasFieldMarshal => "HasFieldMarshal"
  | .hasDeclSecurity => "HasDeclSecurity"
  | .memberRefParent => "MemberRefParent"
  | .hasSemantics => "HasSemantics"
  | .methodDefOrRef => "MethodDefOrRef"
  | .memberForwarded => "MemberForwarded"
  | .implementation => "Implementation"
  | .customAttributeType => "CustomAttributeType"
  | .resolutionScope => "ResolutionScope"
  | .typeOrMethodDef => "TypeOrMethodDef"

end CodedIndex

end CliMetadata
