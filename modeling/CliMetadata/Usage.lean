import CliMetadata.Il.Listing
import CliMetadata.Matcher
import CliMetadata.Symbol
import CliMetadata.Usage.Scan

namespace CliMetadata

inductive UsageKind where
  | call | fieldRead | fieldWrite | propertyRead | propertyWrite | newObject | typeReference
  deriving DecidableEq, Inhabited

instance : Keyword UsageKind where
  all := [.call, .fieldRead, .fieldWrite, .propertyRead, .propertyWrite, .newObject,
    .typeReference]
  text
    | .call => "call"
    | .fieldRead => "field_read"
    | .fieldWrite => "field_write"
    | .propertyRead => "property_read"
    | .propertyWrite => "property_write"
    | .newObject => "new_object"
    | .typeReference => "type_reference"

/-- A use of a definition. What is not defined in the assembly is external and has no identifier. -/
structure UsageEdge where
  source : MemberId
  sourceName : String
  target : Option MemberId
  targetName : String
  kind : UsageKind
  offset : Nat
  snippet : String
  deriving DecidableEq

def UsageEdge.isExternal (e : UsageEdge) : Bool := e.target.isNone

structure StringLiteral where
  source : MemberId
  sourceName : String
  offset : Nat
  value : String
  snippet : String
  deriving DecidableEq

inductive EdgeQuery where
  | usages (target : Token)
  | callers (target : Token)
  deriving DecidableEq

structure LiteralQuery where
  pattern : String
  isPattern : Bool
  deriving DecidableEq

namespace MethodDef

/-- The instructions of a method whose body can be decoded. -/
def instructions? (m : MethodDef) : Option (List Instruction) :=
  m.body.bind fun code ↦ (Instruction.decode code).toOption

def instructions (m : MethodDef) : List Instruction := m.instructions?.getD []

end MethodDef

namespace Usage

/-- The first element for each key, in order. -/
def firstPerKey {α κ : Type} [DecidableEq κ] (key : α → κ) : List α → List α
  | [] => []
  | x :: xs => x :: (firstPerKey key xs).filter fun y ↦ key y != key x

/-- What a token is to the definition whose usages are looked for. -/
inductive Role where
  | method | getter | setter | field | type | constructor
  deriving DecidableEq

variable (a : Assembly)

/-- The roles of definitions. A later one takes the place of an earlier one of the same token. -/
def ownRoles : Symbol → List (Token × Role)
  | .type t =>
    (t.token, .type)
      :: ((a.methodsOf t.methods).filter (·.isConstructor)).map fun m ↦ (m.token, .constructor)
  | .method m => [(m.token, .method)]
  | .field f => [(f.token, .field)]
  | .property p => p.getter.toList.map (·, .getter) ++ p.setter.toList.map (·, .setter)
  | .event e => e.accessors.map (·, .method)

/-- The references and specifications of an assembly. -/
def aliases : List Token :=
  a.memberRefs.toList.map (·.token) ++ a.methodSpecs.toList.map (·.token)
    ++ a.typeSpecs.toList.map (·.token)

/-- The roles of a symbol's definitions and of all tokens that lead to them; the first one counts
where a token has several. -/
def rolesOf (s : Symbol) : List (Token × Role) :=
  let own := (ownRoles a s).reverse
  let led := (aliases a).filterMap fun token ↦ do
    let role ← own.lookup (← a.resolve? token)
    pure (token, role)
  led ++ own

/-- The use that an instruction makes of a token in a role. -/
def useIn? (mnemonic : String) : Role → Option UsageKind
  | .method => some (if mnemonic = "newobj" then .newObject else .call)
  | .getter => some .propertyRead
  | .setter => some .propertyWrite
  | .field =>
    some (if mnemonic = "stfld" ∨ mnemonic = "stsfld" then .fieldWrite else .fieldRead)
  | .type => some .typeReference
  | .constructor => if mnemonic = "newobj" then some .newObject else none

def use? (roles : List (Token × Role)) (i : Instruction) : Option UsageKind := do
  let role ← roles.lookup (← i.token?)
  useIn? i.mnemonic role

def edge (m : MethodDef) (target : Option MemberId) (targetName : String) (kind : UsageKind)
    (i : Instruction) : UsageEdge where
  source := (Symbol.method m).id a.mvid
  sourceName := (Symbol.method m).fullName a
  target := target
  targetName := targetName
  kind := kind
  offset := i.offset
  snippet := Listing.line a i

/-- The uses that a method makes of a symbol with these roles. -/
def edgesIn (s : Symbol) (roles : List (Token × Role)) (wanted : UsageKind → Bool)
    (m : MethodDef) : List UsageEdge :=
  firstPerKey (·.kind) <| m.instructions.filterMap fun i ↦
    ((use? roles i).filter wanted).map fun kind ↦
      edge a m (some (s.id a.mvid)) (s.fullName a) kind i

def isCall (kind : UsageKind) : Bool := kind == .call || kind == .newObject

/-- The use that an instruction makes of the method it names. -/
def callOf? (mnemonic : String) : Option UsageKind :=
  if mnemonic = "newobj" then some .newObject
  else if mnemonic ∈ ["call", "callvirt", "jmp", "ldftn", "ldvirtftn"] then some .call
  else none

/-- The name of what a token refers to, through at most so many method specifications. -/
def referenceNameWithin : Nat → Token → String
  | 0, token => token.text
  | depth + 1, token =>
    match a.memberRef? token with
    | some r => a.typeName r.parent ++ "." ++ r.name
    | none =>
      match a.methodSpec? token with
      | some spec => referenceNameWithin depth spec.method
      | none => (Symbol.ofToken? a token).elim (a.typeName token) (·.fullName a)

def referenceName (token : Token) : String := referenceNameWithin a (a.methodSpecs.size + 1) token

/-- A call with the definition it leads to, or else the token itself. -/
structure Call where
  kind : UsageKind
  callee : Token
  instruction : Instruction
  token : Token

def call? (i : Instruction) : Option Call := do
  let kind ← callOf? i.mnemonic
  let token ← i.token?
  if token.isIn .standAloneSig then none
  else pure ⟨kind, (a.resolve? token).getD token, i, token⟩

def calleeEdge (m : MethodDef) (c : Call) : UsageEdge :=
  match (a.resolve? c.token).bind (Symbol.ofToken? a) with
  | some s => edge a m (some (s.id a.mvid)) (s.fullName a) c.kind c.instruction
  | none => edge a m none (referenceName a c.token) c.kind c.instruction

def callees (m : MethodDef) : List UsageEdge :=
  (firstPerKey (fun c ↦ (c.callee, c.kind)) (m.instructions.filterMap (call? a))).map
    (calleeEdge a m)

def literal? (m : MethodDef) (i : Instruction) : Option StringLiteral :=
  if i.mnemonic = "ldstr" then do
    let value ← a.userString? (← i.token?)
    pure
      { source := (Symbol.method m).id a.mvid
        sourceName := (Symbol.method m).fullName a
        offset := i.offset
        value
        snippet := Listing.line a i }
  else none

def literalsIn (matcher : Matcher) (m : MethodDef) : List StringLiteral :=
  (m.instructions.filterMap (literal? a m)).filter fun l ↦ matcher.holds l.value

def lookIn {α : Type} (look : MethodDef → List α) (token : Token) : List α :=
  (a.method? token).elim [] look

end Usage

end CliMetadata
