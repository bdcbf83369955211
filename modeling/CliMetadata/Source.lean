import CliMetadata.Cache
import CliMetadata.Source.Disassembly

namespace CliMetadata

inductive SourceFormat where
  | csharp | il
  deriving DecidableEq, Inhabited

instance : Keyword SourceFormat where
  all := [.csharp, .il]
  text
    | .csharp => "csharp"
    | .il => "il"
  aliases
    | .csharp => ["c#"]
    | .il => []

structure Decompiler where
  name : String
  supports : SourceFormat → Bool
  decompile : Assembly → Symbol → SourceFormat → Except Error String

namespace Decompiler

/-- The one that is always there. -/
def disassembler : Decompiler where
  name := "il"
  supports := (· == .il)
  decompile a s _ := .ok (Disassembly.text a s)

/-- The first that supports a format. The lists hold the newer decompilers in front. -/
def choose (decompilers : List Decompiler) (format : SourceFormat) : Except Error Decompiler :=
  match decompilers.find? (·.supports format) with
  | some d => .ok d
  | none => .error (.notSupported (.format (Keyword.text format)))

end Decompiler

structure SourceKey where
  token : Token
  format : SourceFormat
  deriving DecidableEq

structure SourceText where
  decompiler : String
  text : String
  deriving DecidableEq

end CliMetadata
