import CliMetadata.Bytes.Cursor
import CliMetadata.Signature

namespace CliMetadata.Signature

def isModifier (b : UInt8) : Bool := b == 0x1F || b == 0x20

/-- Reads past at most `fuel` custom modifiers. -/
def skipModifiers : Nat → Reader Unit
  | 0 => pure ()
  | fuel + 1 => do
    if ← Reader.hasMore then
      if isModifier (← Reader.peek) then
        Reader.skip 1
        discard Reader.compressedToken
        skipModifiers fuel

/-- Reads past the custom modifiers that stand here, which are dropped. -/
def modifiers : Reader Unit := do
  skipModifiers (← Reader.remaining)

variable (type : Reader TypeSig)

def parameter : Reader (Parameter TypeSig) := do
  modifiers
  let byRef := (← Reader.peek) == 0x10
  if byRef then Reader.skip 1
  let base ← type
  pure { byRef, base }

/-- A parameter, with the mark in front that starts the variable ones. -/
def callParameter : Reader (Parameter TypeSig) := do
  if (← Reader.peek) == 0x41 then Reader.skip 1
  parameter type

def callable : Reader MethodSig := do
  let convention ← Reader.byte
  let flags := convention.toNat
  let genericCount ← if flags.testBit 4 then Reader.compressedNat else pure 0
  let count ← Reader.compressedNat
  let result ← parameter type
  let params ← Attempt.times count (callParameter type)
  pure
    { hasThis := flags.testBit 5, explicitThis := flags.testBit 6, varArgs := flags % 16 = 5
      genericCount, result, params }

/-- The shape of an array behind its element type; only the rank is kept. -/
def arrayRank : Reader Nat := do
  let rank ← Reader.compressedNat
  let sizes ← Reader.compressedNat
  discard (Attempt.times sizes Reader.compressedNat)
  let bounds ← Reader.compressedNat
  discard (Attempt.times bounds Reader.compressedInt)
  pure rank

/-- A generic instantiation behind its mark: a class or value type, and its arguments. -/
def instantiated : Reader TypeSig := do
  let lead ← Reader.peek
  if lead ≠ 0x12 ∧ lead ≠ 0x11 then throw (.malformed (.genericBase lead))
  let base ← type
  let count ← Reader.compressedNat
  let args ← Attempt.times count type
  pure (.generic base args)

/-- The type behind its element code; types inside it are read by `type`. -/
def element (code : UInt8) : Reader TypeSig :=
  match Primitive.ofCode? code with
  | some p => pure (.primitive p)
  | none =>
    match code with
    | 0x0F => return .pointer (← type)
    | 0x10 => return .byRef (← type)
    | 0x11 => return .valueType (← Reader.compressedToken)
    | 0x12 => return .classType (← Reader.compressedToken)
    | 0x13 => return .typeVar (← Reader.compressedNat)
    | 0x14 => do
      let base ← type
      let rank ← arrayRank
      pure (.array base rank)
    | 0x15 => instantiated type
    | 0x1B => return .function (← callable type)
    | 0x1D => return .vector (← type)
    | 0x1E => return .methodVar (← Reader.compressedNat)
    | 0x45 => return .pinned (← type)
    | _ => throw (.malformed (.elementType code))

/-- The depth at which types are no longer read. -/
def depthLimit : Nat := 50

/-- A type of at most so many levels. -/
def typeWithin : Nat → Reader TypeSig
  | 0 => throw (.malformed (.signatureDepth depthLimit))
  | levels + 1 => do
    modifiers
    element (typeWithin levels) (← Reader.byte)

def typeSig : Reader TypeSig := typeWithin (depthLimit - 1)

def methodSig : Reader MethodSig := callable typeSig

def fieldSig : Reader TypeSig := do
  let lead ← Reader.byte
  if lead ≠ 0x06 then throw (.malformed (.fieldSignature lead))
  typeSig

def propertySig : Reader PropertySig := do
  let lead ← Reader.byte
  if ¬ lead.toNat.testBit 3 then throw (.malformed (.propertySignature lead))
  let count ← Reader.compressedNat
  let base ← typeSig
  let params ← Attempt.times count (parameter typeSig)
  pure { hasThis := lead.toNat.testBit 5, base, params }

def instantiation : Reader (List TypeSig) := do
  let lead ← Reader.byte
  if lead ≠ 0x0A then throw (.malformed (.instantiation lead))
  let count ← Reader.compressedNat
  Attempt.times count typeSig

end CliMetadata.Signature
