import CliMetadata.Cache
import CliMetadata.Index
import CliMetadata.Matcher
import CliMetadata.Page

namespace CliMetadata

structure TypeSearch where
  query : String := ""
  isPattern : Bool := false
  namespaceName : Option String := none
  includeNested : Bool := true
  page : PageRequest := {}
  deriving DecidableEq

structure MemberSearch where
  query : String := ""
  isPattern : Bool := false
  namespaceName : Option String := none
  declaringType : Option String := none
  kinds : List MemberKind := []
  isStatic : Option Bool := none
  accessibility : Option Accessibility := none
  page : PageRequest := {}
  deriving DecidableEq

inductive SearchKey where
  | types (search : TypeSearch)
  | members (search : MemberSearch)
  | namespaceTypes (name : String) (page : PageRequest)
  | typeMembers (type : Token) (kinds : List MemberKind) (page : PageRequest)
  deriving DecidableEq

namespace Search

/-- A symbol with the full name it is sorted by. -/
structure Hit where
  fullName : String
  symbol : Symbol
  deriving DecidableEq

def Hit.ofSymbol (a : Assembly) (s : Symbol) : Hit := ⟨s.fullName a, s⟩

/-- Whether a hit does not stand behind another. -/
def Hit.before (x y : Hit) : Bool :=
  if x.fullName = y.fullName then x.symbol.token.toNat ≤ y.symbol.token.toNat
  else x.fullName < y.fullName

/-- The name of the type that holds the members outside of all types. -/
def moduleType : String := "<Module>"

variable (a : Assembly)

/-- The types among which is searched, where `listed` are the tokens of a namespace. -/
def typesAmong (listed : Option (List Token)) : List TypeDef :=
  (listed.elim a.types.toList (·.filterMap a.typeDef?)).filter (·.fullName != moduleType)

/-- The members of a type that have one of the kinds. Nested types are members only where types are
asked for; no kinds stand for all others. -/
def membersOf (t : TypeDef) (kinds : List MemberKind) : List Symbol :=
  let wanted (kind : MemberKind) := kinds.isEmpty && kind != .type || kinds.contains kind
  let listed (kind : MemberKind) (tokens : List Token) := if wanted kind then tokens else []
  (listed .type t.nestedTypes ++ listed .method t.methods ++ listed .field t.fields
    ++ listed .property t.properties ++ listed .event t.events).filterMap (Symbol.ofToken? a)

def pageOf (hits : List Hit) (w : Window) : Page Symbol.Summary :=
  (Page.complete (hits.mergeSort Hit.before) w).map fun hit ↦ hit.symbol.summary a

def typeHits (search : TypeSearch) (matcher : Matcher) (types : List TypeDef) : List Hit :=
  ((types.filter fun t ↦ search.includeNested || !t.isNested).filter fun t ↦
    matcher.holdsOfName t.name t.fullName).map fun t ↦ Hit.ofSymbol a (.type t)

/-- Whether a member is the search's, its name apart. -/
def admits (search : MemberSearch) (s : Symbol) : Bool :=
  search.isStatic.all (s.isStatic a == ·) && search.accessibility.all (s.accessibility a == ·)

def memberHits (search : MemberSearch) (matcher : Matcher) (types : List TypeDef) : List Hit :=
  let kinds := if search.kinds.isEmpty then MemberKind.members else search.kinds
  let members := types.flatMap fun t ↦ (membersOf a t kinds).filter (·.kind != .type)
  ((members.filter (admits a search)).map (Hit.ofSymbol a)).filter fun hit ↦
    matcher.holdsOfName hit.symbol.name hit.fullName

end Search

end CliMetadata
