import CliMetadata.Token

namespace CliMetadata

/-- The types that have no parts. -/
inductive Primitive where
  | void | boolean | char | int8 | uint8 | int16 | uint16 | int32 | uint32 | int64 | uint64
  | float32 | float64 | string | object | nativeInt | nativeUint | typedReference
  deriving DecidableEq, Inhabited

namespace Primitive

def all : List Primitive :=
  [.void, .boolean, .char, .int8, .uint8, .int16, .uint16, .int32, .uint32, .int64, .uint64,
    .float32, .float64, .string, .object, .nativeInt, .nativeUint, .typedReference]

/-- The element code in signature blobs. -/
def code : Primitive → UInt8
  | .void => 0x01
  | .boolean => 0x02
  | .char => 0x03
  | .int8 => 0x04
  | .uint8 => 0x05
  | .int16 => 0x06
  | .uint16 => 0x07
  | .int32 => 0x08
  | .uint32 => 0x09
  | .int64 => 0x0A
  | .uint64 => 0x0B
  | .float32 => 0x0C
  | .float64 => 0x0D
  | .string => 0x0E
  | .typedReference => 0x16
  | .nativeInt => 0x18
  | .nativeUint => 0x19
  | .object => 0x1C

def ofCode? (code : UInt8) : Option Primitive := all.find? (·.code == code)

def name : Primitive → String
  | .void => "System.Void"
  | .boolean => "System.Boolean"
  | .char => "System.Char"
  | .int8 => "System.SByte"
  | .uint8 => "System.Byte"
  | .int16 => "System.Int16"
  | .uint16 => "System.UInt16"
  | .int32 => "System.Int32"
  | .uint32 => "System.UInt32"
  | .int64 => "System.Int64"
  | .uint64 => "System.UInt64"
  | .float32 => "System.Single"
  | .float64 => "System.Double"
  | .string => "System.String"
  | .object => "System.Object"
  | .nativeInt => "System.IntPtr"
  | .nativeUint => "System.UIntPtr"
  | .typedReference => "System.TypedReference"

/-- The short name that source code uses, where there is one. -/
def keyword? : Primitive → Option String
  | .void => some "void"
  | .boolean => some "bool"
  | .char => some "char"
  | .int8 => some "sbyte"
  | .uint8 => some "byte"
  | .int16 => some "short"
  | .uint16 => some "ushort"
  | .int32 => some "int"
  | .uint32 => some "uint"
  | .int64 => some "long"
  | .uint64 => some "ulong"
  | .float32 => some "float"
  | .float64 => some "double"
  | .string => some "string"
  | .object => some "object"
  | .nativeInt => some "nint"
  | .nativeUint => some "nuint"
  | .typedReference => none

end Primitive

structure Parameter (τ : Type) where
  byRef : Bool := false
  base : τ
  deriving DecidableEq, Inhabited

/-- What a method takes and returns. -/
structure Callable (τ : Type) where
  hasThis : Bool := false
  explicitThis : Bool := false
  varArgs : Bool := false
  genericCount : Nat := 0
  result : Parameter τ
  params : List (Parameter τ) := []
  deriving DecidableEq, Inhabited

inductive TypeSig where
  | primitive (p : Primitive)
  | pointer (base : TypeSig)
  | byRef (base : TypeSig)
  | vector (base : TypeSig)
  | pinned (base : TypeSig)
  | valueType (token : Token)
  | classType (token : Token)
  | typeVar (index : Nat)
  | methodVar (index : Nat)
  | array (base : TypeSig) (rank : Nat)
  | generic (base : TypeSig) (args : List TypeSig)
  | function (signature : Callable TypeSig)

instance : Inhabited TypeSig := ⟨.primitive .void⟩

abbrev MethodSig := Callable TypeSig

structure PropertySig where
  hasThis : Bool
  base : TypeSig
  params : List (Parameter TypeSig)

namespace TypeSig

def void : TypeSig := .primitive .void

def object : TypeSig := .primitive .object

mutual

/-- Whether two signatures are the same tree. -/
def same : TypeSig → TypeSig → Bool
  | .primitive p, .primitive q => p == q
  | .pointer a, .pointer b => same a b
  | .byRef a, .byRef b => same a b
  | .vector a, .vector b => same a b
  | .pinned a, .pinned b => same a b
  | .valueType s, .valueType t => s == t
  | .classType s, .classType t => s == t
  | .typeVar m, .typeVar n => m == n
  | .methodVar m, .methodVar n => m == n
  | .array a m, .array b n => same a b && m == n
  | .generic a as, .generic b bs => same a b && sameAll as bs
  | .function ⟨t₁, e₁, v₁, g₁, ⟨r₁, base₁⟩, params₁⟩,
    .function ⟨t₂, e₂, v₂, g₂, ⟨r₂, base₂⟩, params₂⟩ =>
    t₁ == t₂ && e₁ == e₂ && v₁ == v₂ && g₁ == g₂ && r₁ == r₂ && same base₁ base₂
      && sameParams params₁ params₂
  | _, _ => false

def sameAll : List TypeSig → List TypeSig → Bool
  | [], [] => true
  | a :: as, b :: bs => same a b && sameAll as bs
  | _, _ => false

def sameParams : List (Parameter TypeSig) → List (Parameter TypeSig) → Bool
  | [], [] => true
  | ⟨r₁, a⟩ :: as, ⟨r₂, b⟩ :: bs => r₁ == r₂ && same a b && sameParams as bs
  | _, _ => false

end

mutual

theorem same_iff_eq : ∀ a b : TypeSig, same a b = true ↔ a = b
  | .primitive _, b => by cases b <;> simp [same]
  | .pointer a, b => by cases b <;> simp [same, same_iff_eq a]
  | .byRef a, b => by cases b <;> simp [same, same_iff_eq a]
  | .vector a, b => by cases b <;> simp [same, same_iff_eq a]
  | .pinned a, b => by cases b <;> simp [same, same_iff_eq a]
  | .valueType _, b => by cases b <;> simp [same]
  | .classType _, b => by cases b <;> simp [same]
  | .typeVar _, b => by cases b <;> simp [same]
  | .methodVar _, b => by cases b <;> simp [same]
  | .array a _, b => by cases b <;> simp [same, same_iff_eq a]
  | .generic a as, b => by cases b <;> simp [same, same_iff_eq a, sameAll_iff_eq as]
  | .function ⟨_, _, _, _, ⟨_, base⟩, params⟩, b => by
    cases b with
    | function s =>
      rcases s with ⟨_, _, _, _, ⟨_, _⟩, _⟩
      simp [same, same_iff_eq base, sameParams_iff_eq params, and_assoc]
    | _ => simp [same]

theorem sameAll_iff_eq : ∀ as bs : List TypeSig, sameAll as bs = true ↔ as = bs
  | [], bs => by cases bs <;> simp [sameAll]
  | a :: as, bs => by cases bs <;> simp [sameAll, same_iff_eq a, sameAll_iff_eq as]

theorem sameParams_iff_eq :
    ∀ as bs : List (Parameter TypeSig), sameParams as bs = true ↔ as = bs
  | [], bs => by cases bs <;> simp [sameParams]
  | ⟨_, a⟩ :: as, bs => by
    cases bs with
    | nil => simp [sameParams]
    | cons b bs =>
      rcases b with ⟨_, _⟩
      simp [sameParams, same_iff_eq a, sameParams_iff_eq as]

end

instance : DecidableEq TypeSig := fun a b ↦ decidable_of_iff _ (same_iff_eq a b)

end TypeSig

deriving instance DecidableEq for PropertySig

end CliMetadata
