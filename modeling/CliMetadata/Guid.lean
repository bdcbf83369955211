import CliMetadata.Text.Hex

namespace CliMetadata

/-- Sixteen bytes that identify a build of a module. -/
structure Guid where
  bytes : Vector UInt8 16
  deriving DecidableEq, Inhabited

namespace Guid

def zero : Guid := ⟨Vector.replicate 16 0⟩

/-- The first sixteen of the bytes; zeros stand for those that are missing. -/
def ofList (bytes : List UInt8) : Guid := ⟨Vector.ofFn fun i ↦ bytes.getD i 0⟩

def toList (g : Guid) : List UInt8 := g.bytes.toList

/-- Two lowercase digits for each byte. -/
def text (g : Guid) : String := Hex.ofBytes g.toList

end Guid

end CliMetadata
