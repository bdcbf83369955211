import CliMetadata.Config
import CliMetadata.Symbol

namespace CliMetadata

/-- A type at some distance. A type that is not defined in the assembly has no identifier. -/
structure TypeEndpoint where
  id : Option MemberId
  name : String
  depth : Nat
  deriving DecidableEq

namespace TypeEndpoint

def isExternal (e : TypeEndpoint) : Bool := e.id.isNone

variable (a : Assembly)

def ofType (t : TypeDef) (depth : Nat) : TypeEndpoint :=
  ⟨some ⟨a.mvid, t.token, .type⟩, t.fullName, depth⟩

end TypeEndpoint

/-- A method with the one it overrides and the ones that override it. -/
structure Overrides where
  method : MemberId
  baseDefinition : Option Symbol.Summary
  overriddenBy : List Symbol.Summary
  deriving DecidableEq

namespace Inheritance

/-- The name of the type that ends every chain of base types. -/
def rootName : String := "System.Object"

variable (a : Assembly)

def definedType? (token : Token) : Option TypeDef := (a.resolveType? token).bind a.typeDef?

def endpointOf (token : Token) (depth : Nat) : TypeEndpoint :=
  match definedType? a token with
  | some t => .ofType a t depth
  | none => ⟨none, a.typeName token, depth⟩

/-- The base types of `t`, of which `depth` and up to `count` more are wanted; `visited` are the
types the walk came through. -/
def baseTypesFrom (visited : List Token) (depth : Nat) (t : TypeDef) : Nat → List TypeEndpoint
  | 0 => []
  | count + 1 =>
    match t.base with
    | none => []
    | some base =>
      let endpoint := endpointOf a base depth
      if endpoint.name = rootName then []
      else match definedType? a base with
        | none => [endpoint]
        | some next =>
          if next.token ∈ visited then []
          else endpoint :: baseTypesFrom (next.token :: visited) (depth + 1) next count

/-- The base types of a type, nearest first, without the root of all types. -/
def baseTypes (config : Config) (t : TypeDef) (limit : Nat) : List TypeEndpoint :=
  baseTypesFrom a [t.token] 1 t (min limit config.maxInheritanceDepth)

def directlyDerived (token : Token) : List Token :=
  (a.types.toList.filter fun t ↦ (t.base.bind a.resolveType?) == some token).map (·.token)

/-- The types derived from those of a level that were not met before. -/
def nextLevel (visited : List Token) (level : List Token) : List Token :=
  (level.flatMap (directlyDerived a)).eraseDups.filter (· ∉ visited)

/-- The levels below a level, each with its depth. -/
def levelsBelow (visited : List Token) (depth : Nat) (level : List Token) :
    Nat → List (Token × Nat)
  | 0 => []
  | count + 1 =>
    let next := nextLevel a visited level
    if next = [] then []
    else next.map (·, depth) ++ levelsBelow (next ++ visited) (depth + 1) next count

/-- The types derived from a type, directly or not, with their distance from it. -/
def derivedFrom (config : Config) (root : Token) : List (Token × Nat) :=
  levelsBelow a [root] 1 [root] config.maxInheritanceDepth

def nearer (x y : TypeEndpoint) : Bool :=
  if x.depth = y.depth then x.name ≤ y.name else x.depth < y.depth

def derivedTypes (config : Config) (root : Token) : List TypeEndpoint :=
  ((derivedFrom a config root).filterMap fun (token, depth) ↦
    (a.typeDef? token).map fun t ↦ .ofType a t depth).mergeSort nearer

def interfacesOf (t : TypeDef) : List TypeEndpoint :=
  t.interfaces.map fun token ↦ endpointOf a token 1

def implementsType (interface : Token) (t : TypeDef) : Bool :=
  t.interfaces.any fun token ↦ a.resolveType? token == some interface

/-- By name, then by token. -/
def namedBefore (x y : TypeDef) : Bool :=
  if x.fullName = y.fullName then x.token.toNat ≤ y.token.toNat else x.fullName < y.fullName

def implementors (interface : Token) : List TypeEndpoint :=
  ((a.types.toList.filter (implementsType a interface)).mergeSort namedBefore).map fun t ↦
    .ofType a t 1

/-- Whether a virtual method can be the one that another of the same name takes the place of. -/
def sameSlot (rule : OverrideMatching) (m candidate : MethodDef) : Bool :=
  m.name == candidate.name && candidate.isVirtual && match rule with
    | .parameterCount => m.signature.params.length == candidate.signature.params.length
    | .signature =>
      m.signature.genericCount == candidate.signature.genericCount
        && a.paramTypeNames m.signature == a.paramTypeNames candidate.signature

/-- The nearest method in the slot of `m` among the base types of `t`. -/
def slotAbove? (rule : OverrideMatching) (m : MethodDef) (visited : List Token) (t : TypeDef) :
    Nat → Option MethodDef
  | 0 => none
  | count + 1 =>
    if t.token ∈ visited then none
    else do
      let base ← t.base.bind (definedType? a)
      match (a.methodsOf base.methods).find? fun c ↦ c.token != m.token && sameSlot a rule m c with
      | some found => some found
      | none => slotAbove? rule m (t.token :: visited) base count

def overridden? (config : Config) (m : MethodDef) : Option MethodDef :=
  if m.isVirtual && !m.isNewSlot then
    (a.typeDef? m.declaringType).bind fun t ↦
      slotAbove? a config.overrideMatching m [] t config.maxInheritanceDepth
  else none

/-- Whether a method overrides another, directly or through at most so many others. -/
def overridesWithin (config : Config) (target : Token) (m : MethodDef) : Nat → Bool
  | 0 => false
  | count + 1 =>
    match overridden? a config m with
    | none => false
    | some base => base.token == target || overridesWithin config target base count

def overrides (config : Config) (target : Token) (m : MethodDef) : Bool :=
  overridesWithin a config target m (max 1 config.maxInheritanceDepth)

/-- The methods that override a virtual method, those of nearer types first. -/
def overriding (config : Config) (m : MethodDef) : List MethodDef :=
  ((derivedFrom a config m.declaringType).filterMap fun p ↦ a.typeDef? p.1).flatMap fun t ↦
    ((a.methodsOf t.methods).filter (sameSlot a config.overrideMatching m)).filter
      (overrides a config m.token)

def overridesOf (config : Config) (m : MethodDef) : Overrides where
  method := (Symbol.method m).id a.mvid
  baseDefinition := (overridden? a config m).map fun base ↦ (Symbol.method base).summary a
  overriddenBy :=
    if m.isVirtual then (overriding a config m).map fun c ↦ (Symbol.method c).summary a else []

def overloads (m : MethodDef) : List MethodDef :=
  ((a.typeDef? m.declaringType).elim [] fun t ↦ a.methodsOf t.methods).filter fun c ↦
    c.token != m.token && c.name == m.name

end Inheritance

end CliMetadata
