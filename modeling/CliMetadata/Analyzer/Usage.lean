import CliMetadata.Analyzer

namespace CliMetadata.Analyzer

/-- What a kept scan, or else a new one, has found after going on for a window. -/
def scanned {κ α : Type} [DecidableEq κ] (cache : Cache κ (Scan α)) (s : Snapshot)
    (config : Config) (timeUp : Nat → Bool) (key : κ) (look : MethodDef → List α) (w : Window) :
    Page α × Cache κ (Scan α) :=
  let (scan, cache) := cache.getOrInsert key s.generation fun _ ↦ .ofAssembly s.assembly
  let scan := scan.advance config timeUp (Usage.lookIn s.assembly look) w.stop
  let page := if scan.isComplete then .complete scan.found w else .partway scan.found w
  (page, cache.insert key s.generation scan)

def scanEdges (timeUp : Nat → Bool) (key : EdgeQuery) (s : Symbol) (wanted : UsageKind → Bool)
    (w : Window) : Query (Page UsageEdge) := do
  let snapshot ← loaded
  let a := snapshot.assembly
  let look := Usage.edgesIn a s (Usage.rolesOf a s) wanted
  Attempt.update fun z ↦
    let (page, edgeScans) := scanned z.edgeScans snapshot z.config timeUp key look w
    (page, { z with edgeScans })

def usages (timeUp : Nat → Bool) (target : String) (request : PageRequest) :
    Query (Page UsageEdge) := do
  let _ ← loaded
  let w ← window request
  let s ← require target
  scanEdges timeUp (.usages s.token) s (fun _ ↦ true) w

def callers (timeUp : Nat → Bool) (target : String) (request : PageRequest) :
    Query (Page UsageEdge) := do
  let _ ← loaded
  let w ← window request
  let m ← requireMethod target
  scanEdges timeUp (.callers m.token) (.method m) Usage.isCall w

def callees (target : String) (request : PageRequest) : Query (Page UsageEdge) := do
  let a ← assembly
  let w ← window request
  let m ← requireMethod target
  pure (.complete (Usage.callees a m) w)

def literals (timeUp : Nat → Bool) (pattern : String) (isPattern : Bool) (request : PageRequest) :
    Query (Page StringLiteral) := do
  let s ← loaded
  let w ← window request
  let m ← matcher pattern isPattern
  Attempt.update fun z ↦
    let (page, literalScans) := scanned z.literalScans s z.config timeUp ⟨pattern, isPattern⟩
      (Usage.literalsIn s.assembly m) w
    (page, { z with literalScans })

end CliMetadata.Analyzer
