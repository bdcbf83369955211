import CliMetadata.Assembly
import CliMetadata.MemberId

namespace CliMetadata

inductive Symbol where
  | type (row : TypeDef)
  | method (row : MethodDef)
  | field (row : FieldDef)
  | property (row : PropertyDef)
  | event (row : EventDef)
  deriving DecidableEq

namespace Symbol

/-- The definition that a token names. -/
def ofToken? (a : Assembly) (token : Token) : Option Symbol :=
  (MemberKind.ofToken? token).bind fun
    | .type => (a.typeDef? token).map .type
    | .method => (a.method? token).map .method
    | .field => (a.field? token).map .field
    | .property => (a.property? token).map .property
    | .event => (a.event? token).map .event

def token : Symbol → Token
  | .type row => row.token
  | .method row => row.token
  | .field row => row.token
  | .property row => row.token
  | .event row => row.token

def kind : Symbol → MemberKind
  | .type _ => .type
  | .method _ => .method
  | .field _ => .field
  | .property _ => .property
  | .event _ => .event

def name : Symbol → String
  | .type row => row.name
  | .method row => row.name
  | .field row => row.name
  | .property row => row.name
  | .event row => row.name

def declaringType? : Symbol → Option Token
  | .type row => row.enclosing
  | .method row => some row.declaringType
  | .field row => some row.declaringType
  | .property row => some row.declaringType
  | .event row => some row.declaringType

def id (s : Symbol) (mvid : Guid) : MemberId := ⟨mvid, s.token, s.kind⟩

variable (a : Assembly)

def fullName : Symbol → String
  | .type row => row.fullName
  | s => s.declaringType?.elim s.name fun owner ↦ a.typeName owner ++ "." ++ s.name

/-- The namespace a definition lies in; members have the one of their type. -/
def namespaceName : Symbol → String
  | .type row => row.ns
  | s => ((s.declaringType?.bind a.typeDef?).map (·.ns)).getD ""

def accessors : Symbol → List MethodDef
  | .property row => a.methodsOf row.accessors
  | .event row => a.methodsOf row.accessors
  | _ => []

def wider (x y : Accessibility) : Accessibility := if y.rank < x.rank then x else y

/-- The widest accessibility among some methods. -/
def widest : List MethodDef → Accessibility
  | [] => .owner
  | m :: ms => ms.foldl (fun best m ↦ wider best m.accessibility) m.accessibility

def accessibility : Symbol → Accessibility
  | .type row => row.accessibility
  | .method row => row.accessibility
  | .field row => row.accessibility
  | s => widest (s.accessors a)

def isStatic : Symbol → Bool
  | .type row => row.isStatic
  | .method row => row.isStatic
  | .field row => row.isStatic
  | s => (s.accessors a).any (·.isStatic)

def isAbstract : Symbol → Bool
  | .type row => row.isAbstract
  | .method row => row.isAbstract
  | s => (s.accessors a).any (·.isAbstract)

def isVirtual : Symbol → Bool
  | .method row => row.isVirtual
  | s => (s.accessors a).any (·.isVirtual)

/-- The types a definition spells out, with its name. Types have none, nor do events without a
handler type. -/
def signatureText? : Symbol → Option String
  | .type _ => none
  | .method row => some (a.methodText row)
  | .field row => some (a.renderType row.signature ++ " " ++ row.name)
  | .property row => some (a.renderType row.signature.base ++ " " ++ row.name)
  | .event row => row.eventType.map fun type ↦ a.typeName type ++ " " ++ row.name

/-- What is said about a symbol in listings. -/
structure Summary where
  id : MemberId
  kind : MemberKind
  name : String
  fullName : String
  declaringType : Option String
  namespaceName : String
  signature : Option String
  accessibility : Accessibility
  isStatic : Bool
  isAbstract : Bool
  isVirtual : Bool
  deriving DecidableEq

def summary (s : Symbol) : Summary where
  id := s.id a.mvid
  kind := s.kind
  name := s.name
  fullName := s.fullName a
  declaringType := s.declaringType?.map a.typeName
  namespaceName := s.namespaceName a
  signature := s.signatureText? a
  accessibility := s.accessibility a
  isStatic := s.isStatic a
  isAbstract := s.isAbstract a
  isVirtual := s.isVirtual a

end Symbol

end CliMetadata
