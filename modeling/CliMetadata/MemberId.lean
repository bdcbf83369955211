import CliMetadata.Error
import CliMetadata.Guid
import CliMetadata.Text.Split

namespace CliMetadata

/-- The identifier of a definition: the module version, the token and the kind. -/
structure MemberId where
  mvid : Guid
  token : Token
  kind : MemberKind
  deriving DecidableEq, Inhabited

namespace MemberId

def ofToken? (mvid : Guid) (token : Token) : Option MemberId :=
  (MemberKind.ofToken? token).map fun kind ↦ ⟨mvid, token, kind⟩

def text (id : MemberId) : String :=
  id.mvid.text ++ ":" ++ String.ofList (Hex.fixed 8 id.token.toNat) ++ ":"
    ++ String.singleton id.kind.code

def byteLength (cs : List Char) : Nat := cs.foldr (·.utf8Size + ·) 0

def readVersion (cs : List Char) : Except Error Guid :=
  if byteLength cs ≠ 32 then .error (.invalidArgument (.versionLength (byteLength cs)))
  else match if cs.all Hex.isDigit then Hex.toBytes? cs else none with
    | some bytes => .ok (Guid.ofList bytes)
    | none => .error (.invalidArgument (.versionDigits (String.ofList cs)))

def readToken (cs : List Char) : Except Error Token :=
  if cs = [] ∨ 8 < byteLength cs then .error (.invalidArgument (.tokenDigits (String.ofList cs)))
  else match Hex.value? cs with
    | some n => .ok (Token.ofNat n)
    | none => .error (.invalidArgument (.tokenDigits (String.ofList cs)))

def readKind (cs : List Char) : Except Error MemberKind :=
  match cs with
  | [c] =>
    match MemberKind.ofCode? c with
    | some kind => .ok kind
    | none => .error (.invalidArgument (.kindCode (String.ofList cs)))
  | _ => .error (.invalidArgument (.kindCode (String.ofList cs)))

/-- Reads an identifier; digits may have either case, and the token may lack zeros in front. -/
def parse (input : String) : Except Error MemberId :=
  match segments ':' input.toList with
  | [mvid, token, kind] => do
    let mvid ← readVersion mvid
    let token ← readToken token
    let kind ← readKind kind
    pure ⟨mvid, token, kind⟩
  | pieces => .error (.invalidArgument (.identifierSegments input pieces.length))

def parse? (input : String) : Option MemberId := (parse input).toOption

def isCanonical (input : String) : Bool := (parse? input).isSome

def detailed (id : MemberId) : String := "MemberId(" ++ id.text ++ ")"

end MemberId

namespace NamespaceId

def ofName (name : String) : String := "N:" ++ name

def name? (input : String) : Option String :=
  (['N', ':'].isPrefixOf? input.toList).map String.ofList

/-- The namespace that an identifier or a plain name means. -/
def nameOf (input : String) : String := (name? input).getD input

end NamespaceId

end CliMetadata
