import CliMetadata.Analyzer

namespace CliMetadata

/-- A source text, and whether it was there already. -/
structure SourceAnswer where
  id : MemberId
  format : SourceFormat
  source : SourceText
  wasKept : Bool
  deriving DecidableEq

namespace Analyzer

def render (a : Assembly) (s : Symbol) (format : SourceFormat) : Query SourceText := fun z ↦
  (do
    let d ← Decompiler.choose z.decompilers format
    let text ← d.decompile a s format
    pure ⟨d.name, text⟩, z)

def decompile (target : String) (format : SourceFormat) : Query SourceAnswer := do
  let snapshot ← loaded
  let a := snapshot.assembly
  let s ← require target
  let id := s.id a.mvid
  let key : SourceKey := ⟨s.token, format⟩
  let kept? ← Attempt.update fun z ↦
    let (source?, sources) := z.sources.get key snapshot.generation
    (source?, { z with sources })
  match kept? with
  | some source => pure ⟨id, format, source, true⟩
  | none =>
    let source ← render a s format
    Attempt.update fun z ↦
      (⟨id, format, source, false⟩,
        { z with sources := z.sources.insert key snapshot.generation source })

end Analyzer

end CliMetadata
