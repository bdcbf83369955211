import CliMetadata.Assembly.Access
import CliMetadata.Bytes.Word
import CliMetadata.Signature

namespace CliMetadata

structure Version where
  major : Nat := 0
  minor : Nat := 0
  build : Nat := 0
  revision : Nat := 0
  deriving DecidableEq, Inhabited

def Version.text (v : Version) : String := s!"{v.major}.{v.minor}.{v.build}.{v.revision}"

/-- A defined type. `fullName` and `nestedTypes` follow from the other rows. -/
structure TypeDef where
  token : Token
  ns : String
  name : String
  fullName : String := ""
  flags : Nat
  base : Option Token
  interfaces : List Token := []
  enclosing : Option Token := none
  nestedTypes : List Token := []
  genericParams : List String := []
  methods : List Token := []
  fields : List Token := []
  properties : List Token := []
  events : List Token := []
  deriving DecidableEq, Inhabited

namespace TypeDef

def isInterface (t : TypeDef) : Bool := t.flags.testBit 5

def isAbstract (t : TypeDef) : Bool := t.flags.testBit 7

def isSealed (t : TypeDef) : Bool := t.flags.testBit 8

def isNested (t : TypeDef) : Bool := t.enclosing.isSome

/-- A type that can neither be instantiated nor derived from. -/
def isStatic (t : TypeDef) : Bool := t.isAbstract && t.isSealed

def accessibility (t : TypeDef) : Accessibility := .ofTypeFlags t.flags

end TypeDef

structure MethodDef where
  token : Token
  name : String
  flags : Nat
  implFlags : Nat := 0
  signature : MethodSig
  paramNames : List String := []
  genericParams : List String := []
  declaringType : Token
  body : Option Bytes := none
  deriving DecidableEq

namespace MethodDef

def isStatic (m : MethodDef) : Bool := m.flags.testBit 4

def isVirtual (m : MethodDef) : Bool := m.flags.testBit 6

def isNewSlot (m : MethodDef) : Bool := m.flags.testBit 8

def isAbstract (m : MethodDef) : Bool := m.flags.testBit 10

def isConstructor (m : MethodDef) : Bool := m.name == ".ctor" || m.name == ".cctor"

def accessibility (m : MethodDef) : Accessibility := .ofMemberFlags m.flags

end MethodDef

structure FieldDef where
  token : Token
  name : String
  flags : Nat
  signature : TypeSig
  declaringType : Token
  deriving DecidableEq

namespace FieldDef

def isStatic (f : FieldDef) : Bool := f.flags.testBit 4

def isLiteral (f : FieldDef) : Bool := f.flags.testBit 6

def accessibility (f : FieldDef) : Accessibility := .ofMemberFlags f.flags

end FieldDef

structure PropertyDef where
  token : Token
  name : String
  flags : Nat
  signature : PropertySig
  getter : Option Token := none
  setter : Option Token := none
  declaringType : Token
  deriving DecidableEq

def PropertyDef.accessors (p : PropertyDef) : List Token := p.getter.toList ++ p.setter.toList

structure EventDef where
  token : Token
  name : String
  flags : Nat
  eventType : Option Token
  adder : Option Token := none
  remover : Option Token := none
  raiser : Option Token := none
  declaringType : Token
  deriving DecidableEq

def EventDef.accessors (e : EventDef) : List Token :=
  e.adder.toList ++ e.remover.toList ++ e.raiser.toList

/-- A type of another module; `fullName` follows from its scope. -/
structure TypeRef where
  token : Token
  ns : String
  name : String
  fullName : String := ""
  scope : Token
  deriving DecidableEq, Inhabited

/-- The signature that a member reference spells out. -/
inductive ReferenceSig where
  | method (signature : MethodSig)
  | field (type : TypeSig)
  deriving DecidableEq

structure MemberRef where
  token : Token
  parent : Token
  name : String
  signature : ReferenceSig
  deriving DecidableEq

structure TypeSpec where
  token : Token
  signature : TypeSig
  deriving DecidableEq

/-- A generic method with its arguments. -/
structure MethodSpec where
  token : Token
  method : Token
  args : List TypeSig
  deriving DecidableEq

structure AssemblyRef where
  token : Token
  name : String
  version : Version
  culture : String := ""
  deriving DecidableEq

end CliMetadata
