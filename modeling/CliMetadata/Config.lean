import CliMetadata.Error

namespace CliMetadata

/-- When a method of a derived type takes the place of one of its base type: with as many
parameters, or with the same parameter types. -/
inductive OverrideMatching where
  | parameterCount | signature
  deriving DecidableEq, Inhabited

instance : Keyword OverrideMatching where
  all := [.parameterCount, .signature]
  text
    | .parameterCount => "parameter_count"
    | .signature => "signature"

structure Config where
  defaultPageSize : Nat := 50
  maxPageSize : Nat := 500
  patternSizeLimit : Nat := 0x100000
  scanTimeBudget : Nat := 2000
  scanMethodBudget : Nat := 50000
  scanBatchSize : Nat := 64
  overrideMatching : OverrideMatching := .signature
  maxInheritanceDepth : Nat := 64
  deriving DecidableEq, Inhabited

namespace Config

def pageSizeCeiling : Nat := 500

def validate (c : Config) : Except Error Unit :=
  if c.defaultPageSize = 0 ∨ c.maxPageSize = 0 then .error (.invalidArgument .emptyPageSize)
  else if pageSizeCeiling < c.maxPageSize then
    .error (.invalidArgument (.pageSizeCeiling c.maxPageSize pageSizeCeiling))
  else if c.maxPageSize < c.defaultPageSize then
    .error (.invalidArgument (.defaultPageSize c.defaultPageSize c.maxPageSize))
  else if c.scanMethodBudget = 0 ∨ c.scanBatchSize = 0 then
    .error (.invalidArgument .emptyScanBudget)
  else .ok ()

/-- The time budget, in whole milliseconds of at most 64 bits. -/
def withScanTime (c : Config) (seconds nanoseconds : Nat) : Config :=
  { c with scanTimeBudget := min (seconds * 1000 + nanoseconds / 1000000) 0xFFFFFFFFFFFFFFFF }

end Config

end CliMetadata
