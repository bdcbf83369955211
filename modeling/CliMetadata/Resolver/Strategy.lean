import CliMetadata.Resolver.ParameterList
import CliMetadata.Snapshot
import CliMetadata.Signature.Text
import CliMetadata.Text.Numeral

namespace CliMetadata

inductive Strategy where
  | memberId | documentationId | hexToken | decimalToken
  deriving DecidableEq

def Symbol.resolve? (a : Assembly) (token : Token) : Option Symbol :=
  (a.resolve? token).bind (Symbol.ofToken? a)

/-- A name behind the letter of its kind, such as a type with a member and parameter types. -/
structure DocumentationId where
  kind : MemberKind
  name : List Char

namespace DocumentationId

/-- Takes the letter of the kind off. -/
def ofText? (input : String) : Option DocumentationId := do
  let (mark, rest) ← splitFirst? ':' input.toList
  match mark with
  | [c] => pure ⟨← MemberKind.ofCode? c, trimBlank rest⟩
  | _ => none

def path (id : DocumentationId) : List Char := id.name.map fun c ↦ if c = '/' then '+' else c

/-- The spellings of constructors that end a path. -/
def constructorEnds : List (String × String) :=
  [("..ctor", ".ctor"), ("..cctor", ".cctor"), (".#ctor", ".ctor"), (".#cctor", ".cctor")]

/-- Type and member of a path. -/
def splitMember? (path : List Char) : Option (List Char × List Char) :=
  (splitLastPiece? [':', ':'] path).or
    ((constructorEnds.findSome? fun (ending, name) ↦
      (beforeEnd? ending.toList path).map fun owner ↦ (owner, name.toList)).or
      (splitLastPiece? ['.'] path))

/-- Takes the parameter types off the end of a path. -/
def splitParameters (path : List Char) : List Char × Option (List String) :=
  match splitFirst? '(' path with
  | some (front, rest) =>
    match beforeEnd? [')'] rest with
    | some types => (front, some ((ParameterList.split types).map String.ofList))
    | none => (path, none)
  | none => (path, none)

/-- Takes the number of generic parameters off a method's name. -/
def splitArity? (name : List Char) : Option (String × Option Nat) :=
  match splitFirstPiece? ['\x60', '\x60'] name with
  | some (front, arity) =>
    (Numeral.decimal? 32 (String.ofList arity)).map fun n ↦ (String.ofList front, some n)
  | none => some (String.ofList name, none)

variable (a : Assembly)

def parameterMatches (param : Parameter TypeSig) (wanted : String) : Bool :=
  a.renderParam param == wanted || param.base.keyword?.any fun word ↦
    wanted == if param.byRef then word ++ "&" else word

def parametersMatch (signature : MethodSig) (wanted : List String) : Bool :=
  wanted.length == signature.params.length
    && (signature.params.zip wanted).all fun (param, text) ↦ parameterMatches a param text

/-- Whether a method has a name and, as far as they are given, the generic parameters and the
parameter types. -/
def methodMatches (name : String) (arity : Option Nat) (types : Option (List String))
    (m : MethodDef) : Bool :=
  m.name == name && arity.all (m.signature.genericCount == ·)
    && types.all (parametersMatch a m.signature)

def findMethod? (owner : TypeDef) (member : List Char) (types : Option (List String)) :
    Option Symbol := do
  let (name, arity) ← splitArity? member
  let m ← (a.methodsOf owner.methods).find? (methodMatches a name arity types)
  Symbol.resolve? a m.token

def findNamed? (tokens : List Token) (name : List Char) : Option Symbol :=
  (tokens.filterMap (Symbol.ofToken? a)).find? fun s ↦ s.name.toList == name

def findMember? (kind : MemberKind) (owner : TypeDef) (member : List Char)
    (types : Option (List String)) : Option Symbol :=
  match kind with
  | .type => none
  | .method => findMethod? a owner member types
  | .field => findNamed? a owner.fields member
  | .property => findNamed? a owner.properties member
  | .event => findNamed? a owner.events member

def find? (names : TypeNames) (id : DocumentationId) : Option Symbol :=
  if id.kind = .type then
    (names.fullName? (String.ofList id.path)).bind (Symbol.resolve? a)
  else do
    let (path, types) := splitParameters id.path
    let (owner, member) ← splitMember? path
    let owner ← a.typeDef? (← names.fullName? (String.ofList owner))
    findMember? a id.kind owner member types

end DocumentationId

namespace Strategy

def all : List Strategy := [.memberId, .documentationId, .hexToken, .decimalToken]

def hexToken? (input : String) : Option Token :=
  match input.toList with
  | '0' :: 'x' :: digits
  | '0' :: 'X' :: digits => (Numeral.hex? 32 digits).map Token.ofNat
  | _ => none

def decimalToken? (input : String) : Option Token :=
  (Numeral.decimal? 32 input).map Token.ofNat

/-- Whether a text has the form that a way asks for. -/
def accepts (input : String) : Strategy → Bool
  | .memberId => MemberId.isCanonical input
  | .documentationId => (DocumentationId.ofText? input).any fun id ↦ id.name != []
  | .hexToken => (hexToken? input).isSome
  | .decimalToken => (decimalToken? input).isSome

/-- The symbol of a snapshot that a text names in one way. -/
def run (input : String) (snapshot : Snapshot) : Strategy → Option Symbol × Snapshot
  | .memberId =>
    match MemberId.parse? input with
    | some id =>
      if id.mvid = snapshot.assembly.mvid then
        let (members, snapshot) := snapshot.useMembers
        (members.get? id, snapshot)
      else (none, snapshot)
    | none => (none, snapshot)
  | .documentationId =>
    match DocumentationId.ofText? input with
    | some id =>
      let (names, snapshot) := snapshot.useTypeNames
      (id.find? snapshot.assembly names, snapshot)
    | none => (none, snapshot)
  | .hexToken => ((hexToken? input).bind (Symbol.resolve? snapshot.assembly), snapshot)
  | .decimalToken => ((decimalToken? input).bind (Symbol.resolve? snapshot.assembly), snapshot)

end Strategy

/-- Whether a text has the form of a symbol's or a namespace's name; white space around it does
not count. -/
def isWellFormed (input : String) : Bool :=
  (NamespaceId.name? (trimmed input)).isSome || Strategy.all.any (Strategy.accepts (trimmed input))

end CliMetadata
