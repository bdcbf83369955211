import CliMetadata.Keyword
import CliMetadata.Table

namespace CliMetadata

inductive MemberKind where
  | type | method | property | field | event
  deriving DecidableEq, Inhabited

instance : Keyword MemberKind where
  all := [.type, .method, .property, .field, .event]
  text
    | .type => "type"
    | .method => "method"
    | .property => "property"
    | .field => "field"
    | .event => "event"

namespace MemberKind

/-- The letter that stands for the kind in identifiers. -/
def code : MemberKind → Char
  | .type => 'T'
  | .method => 'M'
  | .property => 'P'
  | .field => 'F'
  | .event => 'E'

def ofCode? : Char → Option MemberKind
  | 'T' => some .type
  | 'M' => some .method
  | 'P' => some .property
  | 'F' => some .field
  | 'E' => some .event
  | _ => none

def table : MemberKind → Table
  | .type => .typeDef
  | .method => .methodDef
  | .property => .property
  | .field => .field
  | .event => .event

def ofToken? (token : Token) : Option MemberKind :=
  match Table.ofNumber? token.table with
  | some .typeDef => some .type
  | some .methodDef => some .method
  | some .property => some .property
  | some .field => some .field
  | some .event => some .event
  | _ => none

def members : List MemberKind := [.method, .property, .field, .event]

theorem ofCode?_eq_some_iff {c : Char} {k : MemberKind} : ofCode? c = some k ↔ c = k.code := by
  constructor
  · intro h
    unfold ofCode? at h
    split at h <;> first | cases h; rfl | contradiction
  · rintro rfl
    cases k <;> rfl

end MemberKind

end CliMetadata
