import CliMetadata.Bytes.Word
import CliMetadata.Error
import CliMetadata.Files.Path

namespace CliMetadata

/-- The names on the way from the root. -/
abbrev Place := List (List Char)

structure Files where
  contents : List (Place × Bytes) := []
  directories : List Place := []

namespace Files

variable (files : Files)

def read? (place : Place) : Option Bytes := files.contents.lookup place

def isDirectory (place : Place) : Bool := place.isEmpty || files.directories.contains place

def nameLimit : Nat := 255

def pathLimit : Nat := 4095

/-- Texts that can be paths into the tree: relative, without NUL and not too long. -/
def isUsable (path : String) : Bool :=
  !Path.isAbsolute path && !path.toList.contains '\x00' && path.utf8ByteSize ≤ pathLimit

/-- Where a component of a path leads to from a directory. -/
def step? (place : Place) (piece : List Char) : Option Place :=
  if piece = [] ∨ piece = ['.'] then some place
  else if piece = ['.', '.'] then (if place = [] then none else some place.dropLast)
  else if nameLimit < (String.ofList piece).utf8ByteSize then none
  else some (place ++ [piece])

/-- Where components lead to; all but the last have to lead to directories. -/
def follow? (place : Place) : List (List Char) → Option Place
  | [] => some place
  | piece :: rest =>
    if files.isDirectory place then (step? place piece).bind fun next ↦ follow? next rest else none

/-- The place that a path names, whether or not something is there. -/
def locate? (path : String) : Option Place :=
  if path = "" ∨ !isUsable path then none else files.follow? [] (segments '/' path.toList)

def open? (path : String) : Option Bytes := (files.locate? path).bind files.read?

def isFile (path : String) : Bool := (files.open? path).isSome

/-- Makes the directories that components lead through, up to the first that is a file. -/
def makeDirectories (files : Files) (place : Place) : List (List Char) → Except Error Unit × Files
  | [] => (.ok (), files)
  | piece :: rest =>
    match step? place piece with
    | none => (.error .unreadableFile, files)
    | some next =>
      if files.isDirectory next then makeDirectories files next rest
      else if (files.read? next).isSome then (.error .unreadableFile, files)
      else makeDirectories { files with directories := next :: files.directories } next rest

def put (place : Place) (data : Bytes) : Files :=
  { files with contents := (place, data) :: files.contents.filter (·.1 != place) }

/-- The components that lead to the directory around a path. -/
def leading (path : String) : List (List Char) :=
  ((segments '/' path.toList).filter fun piece ↦ piece != [] && piece != ['.']).dropLast

def write (path : String) (data : Bytes) : Except Error Unit × Files :=
  match if (Path.parent? path).all isUsable then files.makeDirectories [] (leading path)
    else (.error .unreadableFile, files) with
  | (.error e, files) => (.error e, files)
  | (.ok (), files) =>
    match files.locate? path with
    | some place =>
      if files.isDirectory place then (.error .unreadableFile, files)
      else (.ok (), files.put place data)
    | none => (.error .unreadableFile, files)

def remove (path : String) : Except Error Unit × Files :=
  match files.locate? path with
  | some place =>
    if (files.read? place).isSome then
      (.ok (), { files with contents := files.contents.filter (·.1 != place) })
    else (.error .unreadableFile, files)
  | none => (.error .unreadableFile, files)

end Files

end CliMetadata
