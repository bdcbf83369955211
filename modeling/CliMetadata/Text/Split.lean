namespace CliMetadata

def splitFirst? (c : Char) : List Char → Option (List Char × List Char)
  | [] => none
  | x :: xs => if x = c then some ([], xs) else (splitFirst? c xs).map fun p ↦ (x :: p.1, p.2)

/-- What stands before and after the first occurrence of `piece`. -/
def splitFirstPiece? (piece : List Char) : List Char → Option (List Char × List Char)
  | [] => if piece.isEmpty then some ([], []) else none
  | x :: xs =>
    match piece.isPrefixOf? (x :: xs) with
    | some rest => some ([], rest)
    | none => (splitFirstPiece? piece xs).map fun p ↦ (x :: p.1, p.2)

/-- What stands before and after the last occurrence of `piece`. -/
def splitLastPiece? (piece : List Char) : List Char → Option (List Char × List Char)
  | [] => if piece.isEmpty then some ([], []) else none
  | x :: xs =>
    match splitLastPiece? piece xs with
    | some p => some (x :: p.1, p.2)
    | none => (piece.isPrefixOf? (x :: xs)).map fun rest ↦ ([], rest)

/-- What stands before `piece` in a text that ends with it. -/
def beforeEnd? (piece text : List Char) : Option (List Char) :=
  (piece.reverse.isPrefixOf? text.reverse).map List.reverse

def occursIn (needle : List Char) : List Char → Bool
  | [] => needle.isEmpty
  | x :: xs => needle.isPrefixOf (x :: xs) || occursIn needle xs

/-- The pieces between the occurrences of `c`; always at least one. -/
def segments (c : Char) : List Char → List (List Char)
  | [] => [[]]
  | x :: xs =>
    if x = c then [] :: segments c xs
    else match segments c xs with
      | [] => [[x]]
      | piece :: pieces => (x :: piece) :: pieces

end CliMetadata
