import CliMetadata.Assembly
import CliMetadata.Il.Instruction
import CliMetadata.Text.Quoted

namespace CliMetadata.Listing

def label (offset : Nat) : String := "IL_" ++ Hex.padded 4 offset

variable (a : Assembly)

/-- A callable with its result type in front and its parameter types behind. -/
def callText (name : String) (signature : MethodSig) : String :=
  a.renderParam signature.result ++ " " ++ name ++ "("
    ++ String.intercalate ", " (a.paramTypeNames signature) ++ ")"

def fieldText (type : TypeSig) (owner : Token) (name : String) : String :=
  a.renderType type ++ " " ++ a.typeName owner ++ "::" ++ name

def memberRefText (r : MemberRef) : String :=
  match r.signature with
  | .method signature => callText a (a.methodName r.token) signature
  | .field type => fieldText a type r.parent r.name

/-- What a token means, through at most so many method specifications inside each other. -/
def tokenTextWithin (depth : Nat) (token : Token) : String :=
  if token.table = Assembly.literalTable then
    (a.userString? token).elim token.text Quoted.encode
  else match Table.ofNumber? token.table with
    | some .methodDef =>
      (a.method? token).elim token.text fun m ↦ callText a (a.methodName token) m.signature
    | some .field =>
      (a.field? token).elim token.text fun f ↦ fieldText a f.signature f.declaringType f.name
    | some .memberRef => (a.memberRef? token).elim token.text (memberRefText a)
    | some .methodSpec =>
      match depth, a.methodSpec? token with
      | depth + 1, some spec =>
        tokenTextWithin depth spec.method ++ "<"
          ++ String.intercalate ", " (spec.args.map a.renderType) ++ ">"
      | _, _ => token.text
    | _ => a.typeName token

def tokenText (token : Token) : String := tokenTextWithin a (a.methodSpecs.size + 1) token

def operandText? (i : Instruction) : Option String :=
  match i.operand, i.targets with
  | .none, _ => none
  | .token token, _ => some (tokenText a token)
  | .immediate _, target :: _ => some (label target)
  | .immediate value, [] => some value.text
  | .switch _, targets => some ("(" ++ String.intercalate ", " (targets.map label) ++ ")")

def line (i : Instruction) : String :=
  label i.offset ++ ": " ++ i.mnemonic ++ (operandText? a i).elim "" (" " ++ ·)

end CliMetadata.Listing
