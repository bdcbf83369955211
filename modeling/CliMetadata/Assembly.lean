import CliMetadata.Assembly.Entity
import CliMetadata.Guid
import CliMetadata.Heap.UserStrings
import CliMetadata.Signature.Text
import CliMetadata.Table

namespace CliMetadata

/-- The symbol model of an assembly: its rows by token. A token finds the row of its table whose
number it carries, counted from one. -/
structure Assembly where
  name : String
  version : Version := {}
  moduleName : String
  mvid : Guid
  entryPoint : Option Token := none
  types : Array TypeDef := #[]
  methods : Array MethodDef := #[]
  fields : Array FieldDef := #[]
  properties : Array PropertyDef := #[]
  events : Array EventDef := #[]
  typeRefs : Array TypeRef := #[]
  memberRefs : Array MemberRef := #[]
  typeSpecs : Array TypeSpec := #[]
  methodSpecs : Array MethodSpec := #[]
  assemblyRefs : Array AssemblyRef := #[]
  userStrings : UserStrings := .empty

namespace Assembly

/-- The place of a token's row among the rows of a table. -/
def place? (token : Token) (table : Table) : Option Nat :=
  if token.isIn table && !token.isNull then some (token.row - 1) else none

def rowOf? {α : Type} (rows : Array α) (table : Table) (token : Token) : Option α :=
  (place? token table).bind fun i ↦ rows[i]?

variable (a : Assembly)

def typeDef? (token : Token) : Option TypeDef := rowOf? a.types .typeDef token

def method? (token : Token) : Option MethodDef := rowOf? a.methods .methodDef token

def field? (token : Token) : Option FieldDef := rowOf? a.fields .field token

def property? (token : Token) : Option PropertyDef := rowOf? a.properties .property token

def event? (token : Token) : Option EventDef := rowOf? a.events .event token

def typeRef? (token : Token) : Option TypeRef := rowOf? a.typeRefs .typeRef token

def memberRef? (token : Token) : Option MemberRef := rowOf? a.memberRefs .memberRef token

def typeSpec? (token : Token) : Option TypeSpec := rowOf? a.typeSpecs .typeSpec token

def methodSpec? (token : Token) : Option MethodSpec := rowOf? a.methodSpecs .methodSpec token

/-- The number in the high byte of the tokens of string literals. -/
def literalTable : Nat := 0x70

def userString? (token : Token) : Option String :=
  if token.table = literalTable then (a.userStrings.get token.row).toOption else none

/-- The name of a type through at most so many specifications inside each other. -/
def typeNameWithin : Nat → Token → String
  | 0, token => token.text
  | depth + 1, token =>
    match a.typeDef? token with
    | some t => t.fullName
    | none =>
      match a.typeRef? token with
      | some t => t.fullName
      | none =>
        match a.typeSpec? token with
        | some t => t.signature.render (typeNameWithin depth)
        | none => token.text

/-- The full name of a type; a token that names none is its own text. As many levels as there are
specifications are enough unless one mentions itself. -/
def typeName (token : Token) : String := a.typeNameWithin (a.typeSpecs.size + 1) token

def renderType (signature : TypeSig) : String := signature.render a.typeName

def renderParam (param : Parameter TypeSig) : String := TypeSig.renderParam a.typeName param

def paramTypeNames (signature : MethodSig) : List String := signature.params.map a.renderParam

def methodText (m : MethodDef) : String :=
  a.renderParam m.signature.result ++ " " ++ m.name ++ "("
    ++ String.intercalate ", " (a.paramTypeNames m.signature) ++ ")"

/-- The defined type that a generic instantiation is made from. -/
def instantiatedType? : TypeSig → Option Token
  | .generic (.classType inner) _
  | .generic (.valueType inner) _ => (a.typeDef? inner).map (·.token)
  | _ => none

/-- The defined type that a token names, itself or as an instantiation. -/
def resolveType? (token : Token) : Option Token :=
  if (a.typeDef? token).isSome then some token
  else (a.typeSpec? token).bind fun spec ↦ a.instantiatedType? spec.signature

def methodsOf (tokens : List Token) : List MethodDef := tokens.filterMap a.method?

def fieldsOf (tokens : List Token) : List FieldDef := tokens.filterMap a.field?

/-- Whether a method is the one a reference by name and signature means. -/
def spells (name : String) (signature : MethodSig) (m : MethodDef) : Bool :=
  m.name == name && m.signature.genericCount == signature.genericCount
    && m.signature.hasThis == signature.hasThis
    && a.paramTypeNames m.signature == a.paramTypeNames signature

/-- The first member of a type that a name and a signature mean. -/
def memberOf? (parent : TypeDef) (name : String) : ReferenceSig → Option Token
  | .field _ => ((a.fieldsOf parent.fields).find? (·.name == name)).map (·.token)
  | .method signature =>
    ((a.methodsOf parent.methods).find? (a.spells name signature)).map (·.token)

/-- The definition a member reference leads to. A call with variable arguments has the method itself
as its parent. -/
def resolveMemberRef? (token : Token) : Option Token := do
  let ref ← a.memberRef? token
  match a.method? ref.parent with
  | some m => some m.token
  | none =>
    let parent ← a.typeDef? (← a.resolveType? ref.parent)
    a.memberOf? parent ref.name ref.signature

def contains (token : Token) : Bool :=
  (a.typeDef? token).isSome || (a.method? token).isSome || (a.field? token).isSome
    || (a.property? token).isSome || (a.event? token).isSome

/-- The definition a token leads to through at most so many method specifications. -/
def resolveWithin : Nat → Token → Option Token
  | 0, _ => none
  | depth + 1, token =>
    if token.isIn .memberRef then a.resolveMemberRef? token
    else if token.isIn .methodSpec then
      (a.methodSpec? token).bind fun spec ↦ resolveWithin depth spec.method
    else if token.isIn .typeSpec then a.resolveType? token
    else if a.contains token then some token
    else none

/-- The definition a token leads to. As many steps as there are method specifications are enough
unless one leads to itself. -/
def resolve? (token : Token) : Option Token := a.resolveWithin (a.methodSpecs.size + 1) token

/-- Type and name of a method through at most so many method specifications. -/
def methodNameWithin : Nat → Token → String
  | 0, token => token.text
  | depth + 1, token =>
    match a.method? token with
    | some m => a.typeName m.declaringType ++ "::" ++ m.name
    | none =>
      match a.memberRef? token with
      | some r => a.typeName r.parent ++ "::" ++ r.name
      | none =>
        match a.methodSpec? token with
        | some spec => methodNameWithin depth spec.method
        | none => token.text

def methodName (token : Token) : String := a.methodNameWithin (a.methodSpecs.size + 1) token

/-- The property, or else the event, whose accessor a method is. -/
def accessorOwner? (method : Token) : Option Token := do
  let m ← a.method? method
  let owner ← a.typeDef? m.declaringType
  match (owner.properties.filterMap a.property?).find? (·.accessors.contains method) with
  | some p => some p.token
  | none =>
    ((owner.events.filterMap a.event?).find? (·.accessors.contains method)).map (·.token)

end Assembly

end CliMetadata
