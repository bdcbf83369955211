import CliMetadata.Signature
import CliMetadata.Text.Split

namespace CliMetadata

/-- The part of a type name before the first arity mark. -/
def beforeArity (name : String) : String :=
  String.ofList (name.toList.takeWhile (· != '\x60'))

namespace TypeSig

variable (names : Token → String)

mutual

def render : TypeSig → String
  | .primitive p => p.name
  | .pointer base => base.render ++ "*"
  | .byRef base => base.render ++ "&"
  | .vector base => base.render ++ "[]"
  | .pinned base => base.render
  | .valueType token => names token
  | .classType token => names token
  | .typeVar index => "!" ++ toString index
  | .methodVar index => "!!" ++ toString index
  | .array base rank =>
    base.render ++ "[" ++ String.ofList (List.replicate (rank - 1) ',') ++ "]"
  | .generic base args =>
    beforeArity base.render ++ "<" ++ String.intercalate "," (renderAll args) ++ ">"
  | .function ⟨_, _, _, _, result, params⟩ =>
    "method " ++ renderParam result ++ " *(" ++ String.intercalate "," (renderParams params) ++ ")"

def renderAll : List TypeSig → List String
  | [] => []
  | t :: ts => t.render :: renderAll ts

def renderParam : Parameter TypeSig → String
  | ⟨isRef, base⟩ => if isRef then base.render ++ "&" else base.render

def renderParams : List (Parameter TypeSig) → List String
  | [] => []
  | p :: ps => renderParam p :: renderParams ps

end

def primitiveName? : TypeSig → Option String
  | .primitive p => some p.name
  | _ => none

def keyword? : TypeSig → Option String
  | .primitive p => p.keyword?
  | _ => none

theorem renderAll_eq_map (ts : List TypeSig) : renderAll names ts = ts.map (render names) := by
  induction ts with
  | nil => rfl
  | cons t ts ih => simp [renderAll, ih]

end TypeSig

end CliMetadata
