import CliMetadata.Assembly.Draft
import CliMetadata.Assembly.Metadata
import CliMetadata.MethodBody
import CliMetadata.Signature.Reader

namespace CliMetadata

namespace Loading

variable (m : Metadata)

/-- A step for each of `count` rows from `rid` on. -/
def forRows {σ : Type} (step : Nat → σ → Except Error σ) : Nat → Nat → σ → Except Error σ
  | _, 0, s => .ok s
  | rid, count + 1, s => do forRows step (rid + 1) count (← step rid s)

def forTable {σ : Type} (table : Table) (step : Row → σ → Except Error σ) (s : σ) :
    Except Error σ :=
  forRows (fun rid s ↦ do step (← m.tables.row table rid) s) 1 (m.tables.rows table) s

/-- The value that is read, or a substitute where the blob cannot be read. -/
def orElse {α : Type} (substitute : α) (reader : Reader α) (blob : Bytes) : α :=
  (reader.onBytes blob).toOption.getD substitute

/-- The signature of a method whose own cannot be read. -/
def plainMethod : MethodSig := { result := { base := .void } }

def plainProperty : PropertySig := ⟨true, .object, []⟩

/-- An added row has to get the token of the row it was read from. -/
def expect (added : Token) (table : Table) (rid : Nat) : Except Error Unit :=
  if added = table.token rid then .ok () else .error (.malformed (.brokenList table rid added))

def versionAt (row : Row) (column : Nat) : Version :=
  let part (i : Nat) := row.get (column + i) % 0x10000
  ⟨part 0, part 1, part 2, part 3⟩

def addReferences (d : Draft) : Except Error Draft := do
  let d ← forTable m .assemblyRef (fun row d ↦ do
    pure (d.addAssemblyRef (← m.string (row.get 6)) (versionAt row 0)).2) d
  forTable m .typeRef (fun row d ↦ do
    let ns ← m.string (row.get 2)
    let name ← m.string (row.get 1)
    pure (d.addTypeRef (row.token 0) ns name).2) d

/-- A method as its row tells it. -/
structure MethodRow where
  name : String
  flags : Nat
  implFlags : Nat
  signature : MethodSig
  body : Option Bytes
  params : Nat

def codeAt (address : Nat) : Except Error Bytes := do
  let offset ← m.image.offsetOf address
  if m.image.data.size < offset then throw .outOfBounds
  let data := m.image.data.after offset
  let body ← MethodBody.read data
  body.code data

def runtimeCode : Nat := 3

def methodRow (row : Row) : Except Error MethodRow := do
  let address := row.get 0
  let implFlags := row.get 1
  let signature := orElse plainMethod Signature.methodSig (← m.blob (row.get 4))
  let body :=
    if address = 0 ∨ implFlags % 4 = runtimeCode then none else (codeAt m address).toOption
  let name ← m.string (row.get 3)
  pure { name, flags := row.get 2, implFlags, signature, body, params := row.get 5 }

def methodRows : Except Error (Array MethodRow) :=
  forTable m .methodDef (fun row rows ↦ do pure (rows.push (← methodRow m row))) #[]

def addTypes (d : Draft) : Except Error (Draft × Array Row) :=
  forTable m .typeDef (fun row (d, rows) ↦ do
    let ns ← m.string (row.get 2)
    let name ← m.string (row.get 1)
    pure ((d.addType ns name (row.get 0) (some (row.token 3))).2, rows.push row)) (d, #[])

def addField (owner : Token) (rid : Nat) (d : Draft) : Except Error Draft := do
  let row ← m.tables.row .field rid
  let signature := orElse .object Signature.fieldSig (← m.blob (row.get 2))
  let name ← m.string (row.get 1)
  let (token, d) := d.addField owner name (row.get 0) signature
  expect token .field rid
  pure d

/-- The names of a method's parameters; parameters without a row have empty names. -/
def paramNames (first stop count : Nat) : Except Error (List String) :=
  forRows (fun rid names ↦ do
    let row ← m.tables.row .param rid
    let sequence := row.get 1
    if 0 < sequence ∧ sequence ≤ count then
      pure (names.set (sequence - 1) (← m.string (row.get 2)))
    else pure names) first (stop - first) (List.replicate count "")

def addMethod (methods : Array MethodRow) (owner : Token) (rid : Nat) (d : Draft) :
    Except Error Draft :=
  match if rid = 0 then none else methods[rid - 1]? with
  | none => .error (.malformed (.methodRange rid))
  | some method => do
    let (token, d) := d.addMethod owner method.name method.flags method.signature
    expect token .methodDef rid
    let d := d.setImplFlags token method.implFlags
    let d := match method.body with
      | some code => d.setBody token code
      | none => d
    let stop := match methods[rid]? with
      | some next => next.params
      | none => m.tables.rows .param + 1
    let names ← paramNames m method.params stop method.signature.params.length
    pure (d.setParamNames token names)

/-- The fields and methods of the types; the list columns of their rows tell which. -/
def addMembers (types : Array Row) (methods : Array MethodRow) : Draft → Except Error Draft :=
  forRows (fun rid d ↦ do
    let row := types.getD (rid - 1) []
    let owner := Table.typeDef.token rid
    let fieldStop ← m.tables.listEnd .typeDef rid 4 .field
    let d ← forRows (addField m owner) (row.get 4) (fieldStop - row.get 4) d
    let methodStop ← m.tables.listEnd .typeDef rid 5 .methodDef
    forRows (addMethod m methods owner) (row.get 5) (methodStop - row.get 5) d) 1 types.size

/-- A generic parameter as its row tells it. -/
structure GenericParamRow where
  owner : Token
  number : Nat
  name : String

/-- By owner, and for one owner by number. -/
def GenericParamRow.le (p q : GenericParamRow) : Bool :=
  p.owner.toNat < q.owner.toNat || (p.owner == q.owner && p.number ≤ q.number)

def genericParams : Except Error (List GenericParamRow) := do
  let params ← forTable m .genericParam (fun row params ↦ do
    pure (params.push ⟨row.token 2, row.get 0, ← m.string (row.get 3)⟩)) #[]
  pure (params.toList.mergeSort GenericParamRow.le)

def addRelations (d : Draft) : Except Error Draft := do
  let d ← forTable m .interfaceImpl (fun row (d : Draft) ↦
    .ok (d.addInterface (Table.typeDef.token (row.get 0)) (row.token 1))) d
  let d ← forTable m .nestedClass (fun row (d : Draft) ↦
    .ok (d.nest (Table.typeDef.token (row.get 0)) (Table.typeDef.token (row.get 1)))) d
  let params ← genericParams m
  pure (params.foldl (fun d p ↦ d.addGenericParam p.owner p.name) d)

def addProperty (owner : Token) (rid : Nat) (d : Draft) : Except Error Draft := do
  let row ← m.tables.row .property rid
  let signature := orElse plainProperty Signature.propertySig (← m.blob (row.get 2))
  let name ← m.string (row.get 1)
  let (token, d) := d.addProperty owner name (row.get 0) signature
  expect token .property rid
  pure d

def addEvent (owner : Token) (rid : Nat) (d : Draft) : Except Error Draft := do
  let row ← m.tables.row .event rid
  let name ← m.string (row.get 1)
  let (token, d) := d.addEvent owner name (row.get 0) (some (row.token 2))
  expect token .event rid
  pure d

/-- The runs of rows that a map table gives to types. -/
def addMapped (map target : Table) (add : Token → Nat → Draft → Except Error Draft) :
    Draft → Except Error Draft :=
  forRows (fun rid d ↦ do
    let row ← m.tables.row map rid
    let stop ← m.tables.listEnd map rid 1 target
    forRows (add (Table.typeDef.token (row.get 0))) (row.get 1) (stop - row.get 1) d)
    1 (m.tables.rows map)

def addPropertiesAndEvents (d : Draft) : Except Error Draft := do
  let d ← addMapped m .propertyMap .property (addProperty m) d
  let d ← addMapped m .eventMap .event (addEvent m) d
  forTable m .methodSemantics (fun row (d : Draft) ↦
    .ok (d.setSemantics (row.token 2) (Table.methodDef.token (row.get 1)) (row.get 0))) d

/-- The signature of a member reference: the first byte of the blob tells fields from methods. -/
def referenceSig (blob : Bytes) : ReferenceSig :=
  if blob[0]? = some 0x06 then
    match Signature.fieldSig.onBytes blob with
    | .ok type => .field type
    | .error _ => .method plainMethod
  else .method (orElse plainMethod Signature.methodSig blob)

def addSpecs (d : Draft) : Except Error Draft := do
  let d ← forTable m .memberRef (fun row d ↦ do
    let blob ← m.blob (row.get 2)
    let name ← m.string (row.get 1)
    pure (d.addMemberRef (row.token 0) name (referenceSig blob)).2) d
  let d ← forTable m .typeSpec (fun row d ↦ do
    pure (d.addTypeSpec (orElse .object Signature.typeSig (← m.blob (row.get 0)))).2) d
  forTable m .methodSpec (fun row d ↦ do
    let args := orElse [] Signature.instantiation (← m.blob (row.get 1))
    pure (d.addMethodSpec (row.token 0) args).2) d

/-- The part of a path behind its last slash and before the last dot in that part; a dot in front
stays. Slashes and single dots at the end of the path do not count. -/
def fileStem (path : String) : String :=
  let names := (segments '/' path.toList).filter fun s ↦ s ≠ []
  let absolute := path.toList.head? = some '/'
  let name? := match names with
    | [] => none
    | first :: more =>
      let names := (if first = ['.'] ∧ absolute then [] else [first])
        ++ more.filter fun s ↦ s ≠ ['.']
      match names.getLast? with
      | some name => if name = ['.'] ∨ name = ['.', '.'] then none else some name
      | none => none
  match name? with
  | none => path
  | some name =>
    match splitLastPiece? ['.'] name with
    | some (c :: before, _) => String.ofList (c :: before)
    | _ => String.ofList name

/-- The name and version in the assembly row; without one the name comes from the module's. -/
def identity (moduleName : String) : Except Error (String × Version) :=
  if 0 < m.tables.rows .assembly then do
    let row ← m.tables.row .assembly 1
    let name ← m.string (row.get 7)
    pure (name, versionAt row 1)
  else .ok (fileStem moduleName, {})

def assembly : Except Error Assembly := do
  if m.tables.rows .module = 0 then throw (.malformed .emptyModuleTable)
  let module ← m.tables.row .module 1
  let moduleName ← m.string (module.get 1)
  let (name, version) ← identity m moduleName
  let mvid ← m.guid (module.get 2)
  let d := (((Draft.new name).setModuleName moduleName).setVersionId mvid).setVersion version
  let d ← addReferences m d
  let (d, types) ← addTypes m d
  let methods ← methodRows m
  let d ← addMembers m types methods d
  let d ← addRelations m d
  let d ← addPropertiesAndEvents m d
  let d ← addSpecs m d
  let d ← match m.userStrings? with
    | some data => do pure (d.setUserStrings (← UserStrings.read data))
    | none => pure d
  let entryPoint := m.header.entryPoint
  let d :=
    if entryPoint.isIn .methodDef && !entryPoint.isNull then d.setEntryPoint entryPoint else d
  pure d.build

end Loading

def Assembly.ofImage (data : Bytes) : Except Error Assembly := do
  let image ← Image.read data
  let metadata ← Metadata.ofImage image
  Loading.assembly metadata

end CliMetadata
