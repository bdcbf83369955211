import CliMetadata.Assembly

namespace CliMetadata

/-- An assembly whose derived names and nested types are not up to date. -/
structure Draft where
  rows : Assembly

namespace Draft

def hashByte (hash : UInt64) (byte : UInt8) : UInt64 :=
  (hash ^^^ byte.toUInt64) * 0x100000001B3

def hashBytes (hash : UInt64) (bytes : List UInt8) : UInt64 := bytes.foldl hashByte hash

/-- The module version of a name: two words of a running hash, which takes in the name again with
the number of the word behind it. -/
def nameVersion (name : String) : Guid :=
  let bytes := name.toUTF8.toList
  let first := hashBytes 0xCBF29CE484222325 (bytes ++ [0])
  let second := hashBytes first (bytes ++ [1])
  Guid.ofList (toLittleEndian 8 first.toNat ++ toLittleEndian 8 second.toNat)

def new (name : String) : Draft :=
  ⟨{ name, moduleName := name ++ ".dll", mvid := nameVersion name }⟩

def ofAssembly (a : Assembly) : Draft := ⟨a⟩

variable (d : Draft)

/-- The token of the row behind `count` rows. -/
def nextToken (table : Table) (count : Nat) : Token := table.token (count + 1)

def setVersionId (mvid : Guid) : Draft := ⟨{ d.rows with mvid := mvid }⟩

def setVersion (version : Version) : Draft := ⟨{ d.rows with version := version }⟩

def setModuleName (name : String) : Draft := ⟨{ d.rows with moduleName := name }⟩

def setEntryPoint (method : Token) : Draft := ⟨{ d.rows with entryPoint := some method }⟩

def setUserStrings (heap : UserStrings) : Draft := ⟨{ d.rows with userStrings := heap }⟩

/-- Changes the row a token names; nothing without such a row. -/
def modifyRow {α : Type} (rows : Array α) (table : Table) (token : Token) (f : α → α) : Array α :=
  match Assembly.place? token table with
  | some i => rows.modify i f
  | none => rows

def modifyType (token : Token) (f : TypeDef → TypeDef) : Draft :=
  ⟨{ d.rows with types := modifyRow d.rows.types .typeDef token f }⟩

def modifyMethod (token : Token) (f : MethodDef → MethodDef) : Draft :=
  ⟨{ d.rows with methods := modifyRow d.rows.methods .methodDef token f }⟩

def modifyProperty (token : Token) (f : PropertyDef → PropertyDef) : Draft :=
  ⟨{ d.rows with properties := modifyRow d.rows.properties .property token f }⟩

def modifyEvent (token : Token) (f : EventDef → EventDef) : Draft :=
  ⟨{ d.rows with events := modifyRow d.rows.events .event token f }⟩

def addAssemblyRef (name : String) (version : Version) : Token × Draft :=
  let token := nextToken .assemblyRef d.rows.assemblyRefs.size
  (token, ⟨{ d.rows with
    assemblyRefs := d.rows.assemblyRefs.push { token, name, version } }⟩)

def addTypeRef (scope : Token) (ns name : String) : Token × Draft :=
  let token := nextToken .typeRef d.rows.typeRefs.size
  (token, ⟨{ d.rows with typeRefs := d.rows.typeRefs.push { token, ns, name, scope } }⟩)

def addType (ns name : String) (flags : Nat) (base : Option Token) : Token × Draft :=
  let token := nextToken .typeDef d.rows.types.size
  let base := base.filter fun b ↦ !b.isNull
  (token, ⟨{ d.rows with types := d.rows.types.push { token, ns, name, flags, base } }⟩)

def nest (inner outer : Token) : Draft :=
  d.modifyType inner fun t ↦ { t with enclosing := some outer }

def addInterface (type interface : Token) : Draft :=
  d.modifyType type fun t ↦ { t with interfaces := t.interfaces ++ [interface] }

def addGenericParam (owner : Token) (name : String) : Draft :=
  (d.modifyType owner fun t ↦ { t with genericParams := t.genericParams ++ [name] }).modifyMethod
    owner fun m ↦ { m with genericParams := m.genericParams ++ [name] }

def addMethod (type : Token) (name : String) (flags : Nat) (signature : MethodSig) :
    Token × Draft :=
  let token := nextToken .methodDef d.rows.methods.size
  let added : Draft := ⟨{ d.rows with
    methods := d.rows.methods.push { token, name, flags, signature, declaringType := type } }⟩
  (token, added.modifyType type fun t ↦ { t with methods := t.methods ++ [token] })

def setImplFlags (method : Token) (flags : Nat) : Draft :=
  d.modifyMethod method fun m ↦ { m with implFlags := flags }

def setBody (method : Token) (code : Bytes) : Draft :=
  d.modifyMethod method fun m ↦ { m with body := some code }

def setParamNames (method : Token) (names : List String) : Draft :=
  d.modifyMethod method fun m ↦ { m with paramNames := names }

def addField (type : Token) (name : String) (flags : Nat) (signature : TypeSig) : Token × Draft :=
  let token := nextToken .field d.rows.fields.size
  let added : Draft := ⟨{ d.rows with
    fields := d.rows.fields.push { token, name, flags, signature, declaringType := type } }⟩
  (token, added.modifyType type fun t ↦ { t with fields := t.fields ++ [token] })

def addProperty (type : Token) (name : String) (flags : Nat) (signature : PropertySig) :
    Token × Draft :=
  let token := nextToken .property d.rows.properties.size
  let added : Draft := ⟨{ d.rows with
    properties :=
      d.rows.properties.push { token, name, flags, signature, declaringType := type } }⟩
  (token, added.modifyType type fun t ↦ { t with properties := t.properties ++ [token] })

/-- Adds an event; a null token is no type of its handlers. -/
def addEvent (type : Token) (name : String) (flags : Nat) (eventType : Option Token) :
    Token × Draft :=
  let token := nextToken .event d.rows.events.size
  let eventType := eventType.filter fun t ↦ !t.isNull
  let added : Draft := ⟨{ d.rows with
    events := d.rows.events.push { token, name, flags, eventType, declaringType := type } }⟩
  (token, added.modifyType type fun t ↦ { t with events := t.events ++ [token] })

/-- Makes a method the accessor of a property or an event that the flags say. -/
def setSemantics (owner method : Token) (flags : Nat) : Draft :=
  let withProperty := d.modifyProperty owner fun p ↦
    if flags.testBit 1 then { p with getter := some method }
    else if flags.testBit 0 then { p with setter := some method }
    else p
  withProperty.modifyEvent owner fun e ↦
    if flags.testBit 3 then { e with adder := some method }
    else if flags.testBit 4 then { e with remover := some method }
    else if flags.testBit 5 then { e with raiser := some method }
    else e

def addMemberRef (parent : Token) (name : String) (signature : ReferenceSig) : Token × Draft :=
  let token := nextToken .memberRef d.rows.memberRefs.size
  (token, ⟨{ d.rows with
    memberRefs := d.rows.memberRefs.push { token, parent, name, signature } }⟩)

def addTypeSpec (signature : TypeSig) : Token × Draft :=
  let token := nextToken .typeSpec d.rows.typeSpecs.size
  (token, ⟨{ d.rows with typeSpecs := d.rows.typeSpecs.push { token, signature } }⟩)

def addMethodSpec (method : Token) (args : List TypeSig) : Token × Draft :=
  let token := nextToken .methodSpec d.rows.methodSpecs.size
  (token, ⟨{ d.rows with methodSpecs := d.rows.methodSpecs.push { token, method, args } }⟩)

def addUserString (text : String) : Token × Draft :=
  let (offset, heap) := d.rows.userStrings.push text
  (Token.ofParts Assembly.literalTable offset, ⟨{ d.rows with userStrings := heap }⟩)

def qualified (ns name : String) : String := if ns.isEmpty then name else ns ++ "." ++ name

/-- The full name of a type reference, following at most so many references as its scope. -/
def typeRefName (refs : Array TypeRef) : Nat → TypeRef → String
  | 0, ref => qualified ref.ns ref.name
  | depth + 1, ref =>
    match Assembly.rowOf? refs .typeRef ref.scope with
    | some outer => typeRefName refs depth outer ++ "+" ++ ref.name
    | none => qualified ref.ns ref.name

/-- How many references are followed as scopes of each other. -/
def scopeLimit : Nat := 64

/-- The type that an enclosing token means: only its row counts. -/
def outer? (types : Array TypeDef) (t : TypeDef) : Option TypeDef :=
  t.enclosing.bind fun outer ↦ if outer.isNull then none else types[outer.row - 1]?

/-- The full name and the namespace of a type, following at most so many enclosing types. -/
def typeNames (types : Array TypeDef) : Nat → TypeDef → String × String
  | 0, t => (qualified t.ns t.name, t.ns)
  | depth + 1, t =>
    match outer? types t with
    | some outer =>
      let (name, ns) := typeNames types depth outer
      (name ++ "+" ++ t.name, ns)
    | none => (qualified t.ns t.name, t.ns)

/-- The types that name the one at a place as the type around them. -/
def nestedIn (types : Array TypeDef) (place : Nat) : List Token :=
  (types.toList.filter fun t ↦
    t.enclosing.bind (Assembly.place? · .typeDef) == some place).map (·.token)

/-- A type with the names and nested types that follow from all types. -/
def completeType (types : Array TypeDef) (i : Nat) (t : TypeDef) : TypeDef :=
  let (fullName, ns) := typeNames types types.size t
  { t with fullName, ns, nestedTypes := nestedIn types i }

def completeTypeRef (refs : Array TypeRef) (ref : TypeRef) : TypeRef :=
  { ref with fullName := typeRefName refs scopeLimit ref }

def build : Assembly :=
  { d.rows with
    types := d.rows.types.mapIdx (completeType d.rows.types)
    typeRefs := d.rows.typeRefs.map (completeTypeRef d.rows.typeRefs) }

end Draft

end CliMetadata
