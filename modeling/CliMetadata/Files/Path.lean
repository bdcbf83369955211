import CliMetadata.Text.Split

namespace CliMetadata.Path

/-- Drops the components that do not count from the end of a path, whose last component comes
first here. -/
def withoutIdle : List (List Char) → List (List Char)
  | [] => []
  | piece :: rest =>
    if piece = [] ∨ piece = ['.'] ∧ rest ≠ [] then withoutIdle rest else piece :: rest

def isAbsolute (path : String) : Bool := path.toList.head? == some '/'

/-- The path without its last component; `none` where there is no component. -/
def parent? (path : String) : Option String :=
  match withoutIdle (segments '/' path.toList).reverse with
  | [] => none
  | _ :: rest =>
    match withoutIdle rest with
    | [] => some (if isAbsolute path then "/" else "")
    | kept => some (String.intercalate "/" (kept.reverse.map String.ofList))

def join (directory path : String) : String :=
  if directory = "" ∨ isAbsolute path then path
  else if directory.toList.getLast? = some '/' then directory ++ path
  else directory ++ "/" ++ path

end CliMetadata.Path
