import CliMetadata.Usage

namespace CliMetadata.Disassembly

variable (a : Assembly)

/-- The words whose condition holds. -/
def words (choices : List (Bool × String)) : List String :=
  (choices.filter (·.1)).map (·.2)

def spaced (parts : List String) : String := String.intercalate " " parts

def listed (parts : List String) : String := String.intercalate ", " parts

def inner (lines : List String) : List String := lines.map ("  " ++ ·)

/-- Lines in braces under a header. -/
def block (header : List String) (lines : List String) : List String :=
  header ++ "\x7b" :: inner lines ++ ["\x7d"]

/-- The parameter types of a method, each with its name where it has one. -/
def parameters : List (Parameter TypeSig) → List String → List String
  | [], _ => []
  | param :: params, [] => a.renderParam param :: parameters params []
  | param :: params, name :: names =>
    (if name = "" then a.renderParam param else a.renderParam param ++ " " ++ name)
      :: parameters params names

def methodHeader (m : MethodDef) : String :=
  let generics :=
    if m.genericParams.isEmpty then "" else "<" ++ listed m.genericParams ++ ">"
  spaced ([".method", Keyword.text m.accessibility]
    ++ words [(m.isStatic, "static"), (m.isNewSlot, "newslot"), (m.isAbstract, "abstract"),
      (m.isVirtual, "virtual")]
    ++ [a.renderParam m.signature.result,
      m.name ++ generics ++ "(" ++ listed (parameters a m.signature.params m.paramNames) ++ ")"])

def bodyLines (m : MethodDef) (code : Bytes) : List String :=
  [s!"// code size {code.size}"]
    ++ (if a.entryPoint = some m.token then [".entrypoint"] else [])
    ++ match m.instructions? with
      | some decoded => decoded.map (Listing.line a)
      | none => ["// malformed method body"]

def methodLines (m : MethodDef) : List String :=
  block [methodHeader a m] (m.body.elim [] (bodyLines a m))

def fieldLine (f : FieldDef) : String :=
  spaced ([".field", Keyword.text f.accessibility]
    ++ words [(f.isStatic, "static"), (f.isLiteral, "literal")]
    ++ [a.renderType f.signature, f.name])

def accessorLine? (directive : String) (accessor : Option Token) : Option String :=
  (accessor.bind a.method?).map fun m ↦ directive ++ " " ++ a.methodText m

def propertyLines (p : PropertyDef) : List String :=
  block [spaced [".property", a.renderType p.signature.base, p.name]]
    ((accessorLine? a ".get" p.getter).toList ++ (accessorLine? a ".set" p.setter).toList)

def eventLines (e : EventDef) : List String :=
  block [spaced ([".event"] ++ (e.eventType.map a.typeName).toList ++ [e.name])]
    ((accessorLine? a ".addon" e.adder).toList ++ (accessorLine? a ".removeon" e.remover).toList
      ++ (accessorLine? a ".fire" e.raiser).toList)

def typeHeader (t : TypeDef) : List String :=
  [spaced ([".class", Keyword.text t.accessibility]
      ++ words [(t.isInterface, "interface"), (t.isAbstract, "abstract"), (t.isSealed, "sealed")]
      ++ [t.fullName])]
    ++ (t.base.map fun base ↦ "  extends " ++ a.typeName base).toList
    ++ if t.interfaces.isEmpty then []
      else ["  implements " ++ listed (t.interfaces.map a.typeName)]

def memberLines (t : TypeDef) : List String :=
  (a.fieldsOf t.fields).map (fieldLine a)
    ++ (a.methodsOf t.methods).flatMap (methodLines a)
    ++ (t.properties.filterMap a.property?).flatMap (propertyLines a)
    ++ (t.events.filterMap a.event?).flatMap (eventLines a)

/-- A type with the types nested in it, at most so many inside each other. -/
def typeLinesWithin : Nat → TypeDef → List String
  | 0, _ => []
  | depth + 1, t =>
    block (typeHeader a t)
      (memberLines a t ++ (t.nestedTypes.filterMap a.typeDef?).flatMap (typeLinesWithin depth))

/-- As many levels as there are types are enough unless one is nested in itself. -/
def typeLines (t : TypeDef) : List String := typeLinesWithin a (a.types.size + 1) t

def lines : Symbol → List String
  | .type t => typeLines a t
  | .method m => methodLines a m
  | .field f => [fieldLine a f]
  | .property p => propertyLines a p
  | .event e => eventLines a e

def text (s : Symbol) : String := String.join ((lines a s).map (· ++ "\n"))

end CliMetadata.Disassembly
