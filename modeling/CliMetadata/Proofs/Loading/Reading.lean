import CliMetadata.Proofs.Assembly.Listed
import CliMetadata.Proofs.Loading.Passes

namespace CliMetadata

open Loading

variable {α : Type}

namespace Signature

/-- The value of a blob, which is a substitute where the blob cannot be read. -/
inductive Reads (substitute : α) (reader : Reader α) (blob : Bytes) : α → Prop
  | readable {value : α} : reader.onBytes blob = .ok value → Reads substitute reader blob value
  | unreadable {e : Error} : reader.onBytes blob = .error e →
      Reads substitute reader blob substitute

/-- The signature of a member reference. A blob that starts with the mark of fields is that of a
field; one that cannot be read stands for a plain method. -/
inductive ReadsReference (blob : Bytes) : ReferenceSig → Prop
  | field {type : TypeSig} : blob[0]? = some 0x06 → fieldSig.onBytes blob = .ok type →
      ReadsReference blob (.field type)
  | method {signature : MethodSig} : blob[0]? ≠ some 0x06 →
      methodSig.onBytes blob = .ok signature → ReadsReference blob (.method signature)
  | unreadableField {e : Error} : blob[0]? = some 0x06 → fieldSig.onBytes blob = .error e →
      ReadsReference blob (.method plainMethod)
  | unreadableMethod {e : Error} : blob[0]? ≠ some 0x06 → methodSig.onBytes blob = .error e →
      ReadsReference blob (.method plainMethod)

theorem reads_orElse (substitute : α) (reader : Reader α) (blob : Bytes) :
    Reads substitute reader blob (orElse substitute reader blob) := by
  rw [orElse]
  cases h : reader.onBytes blob with
  | ok value => exact .readable h
  | error e => exact .unreadable h

theorem readsReference_referenceSig (blob : Bytes) : ReadsReference blob (referenceSig blob) := by
  rw [referenceSig]
  split
  · next hfield =>
    cases h : fieldSig.onBytes blob with
    | ok type => exact .field hfield h
    | error e => exact .unreadableField hfield h
  · next hmethod =>
    have hreads := reads_orElse plainMethod methodSig blob
    generalize orElse plainMethod methodSig blob = signature at hreads ⊢
    cases hreads with
    | readable h => exact .method hmethod h
    | unreadable h => exact .unreadableMethod hmethod h

end Signature

open Signature (Reads ReadsReference)

namespace Metadata

variable (m : Metadata)

structure TellsType (row : Row) (t : TypeDef) : Prop where
  name : m.string (row.get 1) = .ok t.name
  ns : t.enclosing = none → m.string (row.get 2) = .ok t.ns
  flags : t.flags = row.get 0
  base : t.base = if (row.token 3).isNull then none else some (row.token 3)

structure TellsMethod (row : Row) (x : MethodDef) : Prop where
  name : m.string (row.get 3) = .ok x.name
  flags : x.flags = row.get 2
  implFlags : x.implFlags = row.get 1
  signature : ∃ blob, m.blob (row.get 4) = .ok blob ∧
    Reads plainMethod Signature.methodSig blob x.signature
  body : x.body = if row.get 0 = 0 ∨ row.get 1 % 4 = runtimeCode then none
    else (codeAt m (row.get 0)).toOption

structure TellsField (row : Row) (x : FieldDef) : Prop where
  name : m.string (row.get 1) = .ok x.name
  flags : x.flags = row.get 0
  signature : ∃ blob, m.blob (row.get 2) = .ok blob ∧
    Reads .object Signature.fieldSig blob x.signature

structure TellsProperty (row : Row) (x : PropertyDef) : Prop where
  name : m.string (row.get 1) = .ok x.name
  flags : x.flags = row.get 0
  signature : ∃ blob, m.blob (row.get 2) = .ok blob ∧
    Reads plainProperty Signature.propertySig blob x.signature

structure TellsEvent (row : Row) (x : EventDef) : Prop where
  name : m.string (row.get 1) = .ok x.name
  flags : x.flags = row.get 0
  eventType : x.eventType = if (row.token 2).isNull then none else some (row.token 2)

structure TellsTypeRef (row : Row) (x : TypeRef) : Prop where
  scope : x.scope = row.token 0
  name : m.string (row.get 1) = .ok x.name
  ns : m.string (row.get 2) = .ok x.ns

structure TellsMemberRef (row : Row) (x : MemberRef) : Prop where
  parent : x.parent = row.token 0
  name : m.string (row.get 1) = .ok x.name
  signature : ∃ blob, m.blob (row.get 2) = .ok blob ∧ ReadsReference blob x.signature

structure TellsTypeSpec (row : Row) (x : TypeSpec) : Prop where
  signature : ∃ blob, m.blob (row.get 0) = .ok blob ∧
    Reads .object Signature.typeSig blob x.signature

structure TellsMethodSpec (row : Row) (x : MethodSpec) : Prop where
  method : x.method = row.token 0
  args : ∃ blob, m.blob (row.get 1) = .ok blob ∧ Reads [] Signature.instantiation blob x.args

structure TellsAssemblyRef (row : Row) (x : AssemblyRef) : Prop where
  version : x.version = versionAt row 0
  name : m.string (row.get 6) = .ok x.name

/-- Where the list of a type starts among the rows of `target`: the value of a column of the type's
row. Behind the last type, that is behind the last row. -/
def listStart (column : Nat) (target : Table) (rid : Nat) : Nat :=
  match m.tables.row .typeDef rid with
  | .ok row => row.get column
  | .error _ => m.tables.rows target + 1

/-- The rows that a type lists, which stop where the list of the next type starts. -/
def listed (column : Nat) (target : Table) (rid : Nat) : List Token :=
  let start := m.listStart column target rid
  (List.range' start (m.listStart column target (rid + 1) - start)).map target.token

/-- Rows that were made from the rows of a table with their numbers. -/
def ReadFrom (table : Table) (tells : Row → α → Prop) (rows : Array α) : Prop :=
  EachRow (fun rid x ↦ ∃ row, m.tables.row table rid = .ok row ∧ tells row x) rows

def Shows (table : Table) (tells : Row → α → Prop) (token : α → Token) (find? : Token → Option α)
    (count : Nat) : Prop :=
  ∀ rid, 0 < rid → rid ≤ count → ∃ x row, find? (table.token rid) = some x ∧
    token x = table.token rid ∧ m.tables.row table rid = .ok row ∧ tells row x

end Metadata

/-- An assembly that has what the tables tell under the tokens of their rows. Tables that no lists
run through are complete. -/
structure Assembly.Mirrors (a : Assembly) (m : Metadata) : Prop where
  types : m.Shows .typeDef m.TellsType TypeDef.token a.typeDef? a.types.size
  methods : m.Shows .methodDef m.TellsMethod MethodDef.token a.method? a.methods.size
  fields : m.Shows .field m.TellsField FieldDef.token a.field? a.fields.size
  properties : m.Shows .property m.TellsProperty PropertyDef.token a.property? a.properties.size
  events : m.Shows .event m.TellsEvent EventDef.token a.event? a.events.size
  typeRefs : m.Shows .typeRef m.TellsTypeRef TypeRef.token a.typeRef? a.typeRefs.size
  memberRefs : m.Shows .memberRef m.TellsMemberRef MemberRef.token a.memberRef? a.memberRefs.size
  typeSpecs : m.Shows .typeSpec m.TellsTypeSpec TypeSpec.token a.typeSpec? a.typeSpecs.size
  methodSpecs : m.Shows .methodSpec m.TellsMethodSpec MethodSpec.token a.methodSpec?
    a.methodSpecs.size
  assemblyRefs : m.Shows .assemblyRef m.TellsAssemblyRef AssemblyRef.token
    (rowOf? a.assemblyRefs .assemblyRef) a.assemblyRefs.size
  typeCount : a.types.size = m.tables.rows .typeDef
  typeRefCount : a.typeRefs.size = m.tables.rows .typeRef
  memberRefCount : a.memberRefs.size = m.tables.rows .memberRef
  typeSpecCount : a.typeSpecs.size = m.tables.rows .typeSpec
  methodSpecCount : a.methodSpecs.size = m.tables.rows .methodSpec
  assemblyRefCount : a.assemblyRefs.size = m.tables.rows .assemblyRef
  lists : ∀ rid t, 0 < rid → rid ≤ a.types.size → a.typeDef? (Table.typeDef.token rid) = some t →
    t.fields = m.listed 4 .field rid ∧ t.methods = m.listed 5 .methodDef rid

namespace Metadata

variable {m : Metadata} {table : Table} {rid size : Nat} {rows : Array α} {token : α → Token}
  {tells : Row → α → Prop}

theorem bounds_of_row {row : Row} (h : m.tables.row table rid = .ok row) :
    0 < rid ∧ rid ≤ m.tables.rows table := by
  rw [TableStream.row] at h
  split at h
  · cases h
  · omega

theorem ReadFrom.size_le (h : m.ReadFrom table tells rows) :
    rows.size ≤ m.tables.rows table := by
  by_cases hempty : rows.size = 0
  · omega
  · have hlast : rows.size - 1 < rows.size := by omega
    obtain ⟨row, hrow, _⟩ := h (rows.size - 1) _ (Array.getElem?_eq_getElem hlast)
    have hbounds := bounds_of_row hrow
    omega

theorem ReadFrom.push (h : m.ReadFrom table tells rows) {row : Row} {x : α}
    (hrow : m.tables.row table (rows.size + 1) = .ok row) (hx : tells row x) :
    m.ReadFrom table tells (rows.push x) :=
  EachRow.push h ⟨row, hrow, hx⟩

theorem ReadFrom.modifyRow (h : m.ReadFrom table tells rows) (place : Table) (t : Token) {f : α → α}
    (hf : ∀ row x, tells row x → tells row (f x)) :
    m.ReadFrom table tells (Draft.modifyRow rows place t f) :=
  EachRow.modifyRow h place t fun _ x ⟨row, hrow, hx⟩ ↦ ⟨row, hrow, hf row x hx⟩

theorem ReadFrom.shows (h : m.ReadFrom table tells rows) (hnumbered : Numbered token table rows)
    (hfew : m.tables.rows table < 0x1000000) :
    m.Shows table tells token (Assembly.rowOf? rows table) rows.size := by
  intro rid hpos hle
  have hlt : rid - 1 < rows.size := by omega
  have hplace : rid - 1 + 1 = rid := by omega
  have hget : rows[rid - 1]? = some rows[rid - 1] := Array.getElem?_eq_getElem hlt
  have htoken := hnumbered _ _ hget
  obtain ⟨row, hrow, htells⟩ := h _ _ hget
  have hfound : Assembly.rowOf? rows table (table.token (rid - 1 + 1)) = some rows[rid - 1] :=
    Assembly.rowOf?_token (Nat.lt_of_le_of_lt h.size_le hfew) hget
  rw [hplace] at htoken hrow hfound
  exact ⟨rows[rid - 1], row, hfound, htoken, hrow, htells⟩

theorem rid_eq_of_nextToken (h : Draft.nextToken table size = table.token rid) {row : Row}
    (hrow : m.tables.row table rid = .ok row) (hsize : size ≤ m.tables.rows table)
    (hfew : m.tables.rows table < 0x1000000) : rid = size + 1 := by
  have hbounds := bounds_of_row hrow
  have hnumber := congrArg Token.row h
  rw [Draft.nextToken, Table.row_token, Table.row_token] at hnumber
  omega

theorem listStart_of_row {column : Nat} {target : Table} {row : Row}
    (h : m.tables.row .typeDef rid = .ok row) : m.listStart column target rid = row.get column := by
  rw [listStart, h]

theorem eq_listStart_of_listEnd {column stop : Nat} {target : Table}
    (h : m.tables.listEnd .typeDef rid column target = .ok stop) :
    stop = m.listStart column target (rid + 1) := by
  rw [TableStream.listEnd] at h
  split at h
  · cases hrow : m.tables.row .typeDef (rid + 1) with
    | error e =>
      rw [hrow] at h
      cases h
    | ok row =>
      rw [hrow] at h
      cases h
      exact (listStart_of_row hrow).symm
  · next hlast =>
    cases h
    have hnone : m.tables.row .typeDef (rid + 1) = .error .outOfBounds :=
      if_pos (.inr (by omega))
    rw [listStart, hnone]

end Metadata

/-- The members of all types are added list by list. -/
theorem Loading.addMembers_lists {m : Metadata} {P : Nat → Draft → Prop} {d loaded : Draft}
    {types : Array Row} {methods : Array MethodRow}
    (htypes : EachRow (fun rid row ↦ m.tables.row .typeDef rid = .ok row) types)
    (hstep : ∀ rid d e f, 1 ≤ rid → rid ≤ types.size → P rid d →
      forRows (addField m (Table.typeDef.token rid)) (m.listStart 4 .field rid)
        (m.listStart 4 .field (rid + 1) - m.listStart 4 .field rid) d = .ok e →
      forRows (addMethod m methods (Table.typeDef.token rid)) (m.listStart 5 .methodDef rid)
        (m.listStart 5 .methodDef (rid + 1) - m.listStart 5 .methodDef rid) e = .ok f →
      P (rid + 1) f)
    (hd : P 1 d) (h : addMembers m types methods d = .ok loaded) : P (types.size + 1) loaded := by
  refine addMembers_run (fun rid u v w fieldStop methodStop hlow hhigh hu hfields hmethods hv hw ↦
    ?_) hd h
  have hrow : m.tables.row .typeDef rid = .ok (types.getD (rid - 1) []) := by
    have hlt : rid - 1 < types.size := by omega
    have hplace : rid - 1 + 1 = rid := by omega
    have hget := htypes (rid - 1) _ (Array.getElem?_eq_getElem hlt)
    rwa [hplace, Array.getElem_eq_getD []] at hget
  have hfieldStart : m.listStart 4 .field rid = _ := Metadata.listStart_of_row hrow
  have hmethodStart : m.listStart 5 .methodDef rid = _ := Metadata.listStart_of_row hrow
  rw [Metadata.eq_listStart_of_listEnd hfields, ← hfieldStart] at hv
  rw [Metadata.eq_listStart_of_listEnd hmethods, ← hmethodStart] at hw
  exact hstep rid u v w hlow hhigh hu hv hw

end CliMetadata
