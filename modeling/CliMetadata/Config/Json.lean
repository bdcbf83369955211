import CliMetadata.Config
import CliMetadata.Text.Numeral
import CliMetadata.Text.Utf16

namespace CliMetadata

/-- JSON values as far as settings need them. A string with a surrogate that has no partner has no
text. -/
inductive JsonValue where
  | null
  | boolean
  | number (text : List Char)
  | string (text? : Option String)
  | array (items : List JsonValue)
  | object (members : List (Option String × JsonValue))

namespace JsonText

/-- A reader at the start of a text, which yields what is left behind the part it reads. -/
abbrev Parse (α : Type) := List Char → Option (α × List Char)

def isSpace (c : Char) : Bool := c == ' ' || c == '\n' || c == '\t' || c == '\r'

def skipSpace (cs : List Char) : List Char := cs.dropWhile isSpace

def codeUnit : Parse Nat
  | a :: b :: c :: d :: rest => (Hex.value? [a, b, c, d]).map fun n ↦ (n, rest)
  | _ => none

/-- The UTF-16 units of an escape behind its backslash. -/
def escaped : Parse (List Nat)
  | 'u' :: rest => (codeUnit rest).map fun p ↦ ([p.1], p.2)
  | c :: rest =>
    (List.lookup c [('"', 0x22), ('\\', 0x5C), ('/', 0x2F), ('b', 0x08), ('f', 0x0C), ('n', 0x0A),
      ('r', 0x0D), ('t', 0x09)]).map fun unit ↦ ([unit], rest)
  | [] => none

/-- The UTF-16 units of a string behind its opening quote. -/
def stringUnits : Nat → Parse (List Nat)
  | 0, _ => none
  | _ + 1, [] => none
  | fuel + 1, c :: rest =>
    if c = '"' then some ([], rest)
    else if c = '\\' then do
      let (units, rest) ← escaped rest
      let (more, rest) ← stringUnits fuel rest
      some (units ++ more, rest)
    else if c.toNat < 0x20 then none
    else do
      let (more, rest) ← stringUnits fuel rest
      some (Utf16.unitsOfChar c ++ more, rest)

def string (cs : List Char) : Option (Option String × List Char) :=
  (stringUnits (cs.length + 1) cs).map fun p ↦
    let text := String.ofList (Utf16.decodeLossy p.1)
    (if Utf16.units text = p.1 then some text else none, p.2)

def digits (cs : List Char) : Option (List Char × List Char) :=
  match cs.span Char.isDigit with
  | ([], _) => none
  | (ds, rest) => some (ds, rest)

/-- The integer part of a number: a zero stands alone. -/
def integerPart (cs : List Char) : Option (List Char × List Char) := do
  let (ds, rest) ← digits cs
  if ds.head? = some '0' ∧ ds ≠ ['0'] then none else some (ds, rest)

def fractionPart : Parse (List Char)
  | '.' :: rest => (digits rest).map fun p ↦ ('.' :: p.1, p.2)
  | cs => some ([], cs)

def exponentPart : Parse (List Char)
  | c :: rest =>
    if c = 'e' ∨ c = 'E' then
      let unsigned := match rest with
        | '+' :: rest => rest
        | '-' :: rest => rest
        | _ => rest
      (digits unsigned).map fun p ↦ (c :: p.1, p.2)
    else some ([], c :: rest)
  | [] => some ([], [])

def number (cs : List Char) : Option (List Char × List Char) := do
  let (sign, cs) := match cs with
    | '-' :: rest => (['-'], rest)
    | _ => ([], cs)
  let (whole, cs) ← integerPart cs
  let (fraction, cs) ← fractionPart cs
  let (exponent, cs) ← exponentPart cs
  some (sign ++ whole ++ fraction ++ exponent, cs)

def word (v : JsonValue) (text : String) (cs : List Char) : Option (JsonValue × List Char) :=
  (text.toList.isPrefixOf? cs).map fun rest ↦ (v, rest)

mutual

def value : Nat → Parse JsonValue
  | 0, _ => none
  | fuel + 1, cs =>
    match skipSpace cs with
    | '"' :: rest => (string rest).map fun p ↦ (.string p.1, p.2)
    | '[' :: rest =>
      match skipSpace rest with
      | ']' :: rest => some (.array [], rest)
      | rest => (items fuel rest).map fun p ↦ (.array p.1, p.2)
    | '\x7b' :: rest =>
      match skipSpace rest with
      | '\x7d' :: rest => some (.object [], rest)
      | rest => (members fuel rest).map fun p ↦ (.object p.1, p.2)
    | 't' :: rest => word .boolean "rue" rest
    | 'f' :: rest => word .boolean "alse" rest
    | 'n' :: rest => word .null "ull" rest
    | rest => (number rest).map fun p ↦ (.number p.1, p.2)

def items : Nat → Parse (List JsonValue)
  | 0, _ => none
  | fuel + 1, cs => do
    let (v, rest) ← value fuel cs
    match skipSpace rest with
    | ',' :: rest => do
      let (more, rest) ← items fuel rest
      some (v :: more, rest)
    | ']' :: rest => some ([v], rest)
    | _ => none

def members : Nat → Parse (List (Option String × JsonValue))
  | 0, _ => none
  | fuel + 1, cs =>
    match skipSpace cs with
    | '"' :: rest => do
      let (name, rest) ← string rest
      match skipSpace rest with
      | ':' :: rest => do
        let (v, rest) ← value fuel rest
        match skipSpace rest with
        | ',' :: rest => do
          let (more, rest) ← members fuel rest
          some ((name, v) :: more, rest)
        | '\x7d' :: rest => some ([(name, v)], rest)
        | _ => none
      | _ => none
    | _ => none

end

def parse (text : String) : Option JsonValue := do
  let cs := text.toList
  let (v, rest) ← value (2 * cs.length + 2) cs
  if skipSpace rest = [] then some v else none

end JsonText

namespace Config

/-- An integer written with digits alone, of at most `bits` bits. -/
def natural (bits : Nat) : JsonValue → Option Nat
  | .number text =>
    if text.all Char.isDigit then (Numeral.decimalValue? text).filter (· < 1 <<< bits) else none
  | _ => none

/-- A keyword, also as the only member of an object, whose value is null. -/
def matching : JsonValue → Option OverrideMatching
  | .string (some text) => Keyword.ofExact? text
  | .object [(some text, .null)] => Keyword.ofExact? text
  | _ => none

/-- The names of the settings in their order, and how each is set. -/
def settings : List (String × (JsonValue → Config → Option Config)) := [
  ("default_page_size", fun v c ↦ (natural 32 v).map fun n ↦ { c with defaultPageSize := n }),
  ("max_page_size", fun v c ↦ (natural 32 v).map fun n ↦ { c with maxPageSize := n }),
  ("regex_size_limit", fun v c ↦ (natural 64 v).map fun n ↦ { c with patternSizeLimit := n }),
  ("scan_time_budget_ms", fun v c ↦ (natural 64 v).map fun n ↦ { c with scanTimeBudget := n }),
  ("scan_method_budget", fun v c ↦ (natural 64 v).map fun n ↦ { c with scanMethodBudget := n }),
  ("scan_batch_size", fun v c ↦ (natural 64 v).map fun n ↦ { c with scanBatchSize := n }),
  ("override_matching", fun v c ↦ (matching v).map fun m ↦ { c with overrideMatching := m }),
  ("max_inheritance_depth", fun v c ↦
    (natural 64 v).map fun n ↦ { c with maxInheritanceDepth := n })]

def ofMembers : List (Option String × JsonValue) → List String → Config → Option Config
  | [], _, c => some c
  | (none, _) :: _, _, _ => none
  | (some name, v) :: members, seen, c =>
    match settings.lookup name with
    | none => ofMembers members seen c
    | some set => do
      if seen.contains name then none
      else ofMembers members (name :: seen) (← set v c)

def ofItems : List JsonValue → List (JsonValue → Config → Option Config) → Config → Option Config
  | [], _, c => some c
  | _ :: _, [], _ => none
  | v :: items, set :: sets, c => do ofItems items sets (← set v c)

def ofValue : JsonValue → Option Config
  | .object members => ofMembers members [] {}
  | .array items => ofItems items (settings.map (·.2)) {}
  | _ => none

/-- The settings that a JSON text gives, where they keep their limits. -/
def ofJson (text : String) : Except Error Config :=
  match (JsonText.parse text).bind ofValue with
  | none => .error (.invalidArgument .unreadableConfiguration)
  | some c => c.validate.map fun _ ↦ c

end Config

end CliMetadata
