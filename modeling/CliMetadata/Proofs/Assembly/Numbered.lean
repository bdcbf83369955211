import CliMetadata.Proofs.Assembly.Building
import CliMetadata.Symbol

namespace CliMetadata

variable {α : Type} {token : α → Token} {table : Table} {rows : Array α}

@[simp] theorem Draft.size_modifyRow (place : Table) (t : Token) (f : α → α) :
    (Draft.modifyRow rows place t f).size = rows.size := by
  rw [Draft.modifyRow]
  split
  · exact Array.size_modify
  · rfl

def EachRow (holds : Nat → α → Prop) (rows : Array α) : Prop :=
  ∀ i row, rows[i]? = some row → holds (i + 1) row

namespace EachRow

variable {holds other : Nat → α → Prop}

theorem empty : EachRow holds #[] := by
  intro i row h
  simp at h

theorem push (h : EachRow holds rows) {row : α} (hrow : holds (rows.size + 1) row) :
    EachRow holds (rows.push row) := by
  intro i other hother
  rw [Array.getElem?_push] at hother
  split at hother
  · next hi =>
    cases hother
    rwa [hi]
  · exact h i other hother

theorem mapIdx (h : EachRow holds rows) {f : Nat → α → α}
    (hf : ∀ i row, holds (i + 1) row → other (i + 1) (f i row)) :
    EachRow other (rows.mapIdx f) := by
  intro i row hrow
  rw [Array.getElem?_mapIdx] at hrow
  obtain ⟨old, hold, rfl⟩ := Option.map_eq_some_iff.1 hrow
  exact hf i old (h i old hold)

theorem map {β : Type} {other : Nat → β → Prop} (h : EachRow holds rows) {f : α → β}
    (hf : ∀ n row, holds n row → other n (f row)) : EachRow other (rows.map f) := by
  intro i row hrow
  rw [Array.getElem?_map] at hrow
  obtain ⟨old, hold, rfl⟩ := Option.map_eq_some_iff.1 hrow
  exact hf (i + 1) old (h i old hold)

theorem modifyRow (h : EachRow holds rows) (place : Table) (t : Token) {f : α → α}
    (hf : ∀ n row, holds n row → holds n (f row)) :
    EachRow holds (Draft.modifyRow rows place t f) := by
  rw [Draft.modifyRow]
  split
  · next j _ =>
    intro i row hrow
    rw [Array.getElem?_modify] at hrow
    split at hrow
    · obtain ⟨old, hold, rfl⟩ := Option.map_eq_some_iff.1 hrow
      exact hf (i + 1) old (h i old hold)
    · exact h i row hrow
  · exact h

end EachRow

/-- A token has its row at the place before the number it carries. -/
theorem Assembly.place?_eq_some_iff {token : Token} {place : Nat} :
    place? token table = some place ↔ token.table = table.number ∧ token.row = place + 1 := by
  rw [place?, Option.ite_none_right_eq_some, Bool.and_eq_true, Token.isIn, beq_iff_eq,
    Bool.not_eq_true', Token.isNull, beq_eq_false_iff_ne, Option.some_inj, and_assoc]
  exact and_congr_right fun _ ↦ by omega

theorem Assembly.eq_token_of_place? {token : Token} {place : Nat}
    (h : place? token table = some place) : token = table.token (place + 1) := by
  obtain ⟨htable, hrow⟩ := place?_eq_some_iff.1 h
  rw [Table.token, ← htable, ← hrow, Token.ofParts_table_row]

/-- Rows that carry the tokens of their places, counted from one. -/
def Numbered (token : α → Token) (table : Table) (rows : Array α) : Prop :=
  ∀ i row, rows[i]? = some row → token row = table.token (i + 1)

namespace Numbered

theorem iff_eachRow : Numbered token table rows ↔
    EachRow (fun n row ↦ token row = table.token n) rows := Iff.rfl

theorem empty : Numbered token table #[] := iff_eachRow.2 .empty

theorem push (h : Numbered token table rows) {row : α}
    (hrow : token row = table.token (rows.size + 1)) : Numbered token table (rows.push row) :=
  iff_eachRow.2 ((iff_eachRow.1 h).push hrow)

theorem modifyRow (h : Numbered token table rows) (place : Table) (t : Token) {f : α → α}
    (hf : ∀ row, token (f row) = token row) :
    Numbered token table (Draft.modifyRow rows place t f) :=
  iff_eachRow.2 ((iff_eachRow.1 h).modifyRow place t fun _ row ↦ (hf row).trans)

theorem mapIdx (h : Numbered token table rows) {f : Nat → α → α}
    (hf : ∀ i row, token (f i row) = token row) : Numbered token table (rows.mapIdx f) :=
  iff_eachRow.2 ((iff_eachRow.1 h).mapIdx fun i row ↦ (hf i row).trans)

theorem map (h : Numbered token table rows) {f : α → α} (hf : ∀ row, token (f row) = token row) :
    Numbered token table (rows.map f) :=
  iff_eachRow.2 ((iff_eachRow.1 h).map fun _ row ↦ (hf row).trans)

/-- The row that is found for a token carries it. -/
theorem token_rowOf? (h : Numbered token table rows) {t : Token} {row : α}
    (hrow : Assembly.rowOf? rows table t = some row) : token row = t := by
  obtain ⟨i, hi, hget⟩ := Option.bind_eq_some_iff.1 hrow
  rw [h i row hget, Assembly.eq_token_of_place? hi]

end Numbered

/-- Assemblies whose tables are numbered, each with its own number. -/
structure Assembly.RowsNumbered (a : Assembly) : Prop where
  types : Numbered TypeDef.token .typeDef a.types
  methods : Numbered MethodDef.token .methodDef a.methods
  fields : Numbered FieldDef.token .field a.fields
  properties : Numbered PropertyDef.token .property a.properties
  events : Numbered EventDef.token .event a.events
  typeRefs : Numbered TypeRef.token .typeRef a.typeRefs
  memberRefs : Numbered MemberRef.token .memberRef a.memberRefs
  typeSpecs : Numbered TypeSpec.token .typeSpec a.typeSpecs
  methodSpecs : Numbered MethodSpec.token .methodSpec a.methodSpecs
  assemblyRefs : Numbered AssemblyRef.token .assemblyRef a.assemblyRefs

namespace Draft

variable {d : Draft}

theorem numbered_new (name : String) : (new name).rows.RowsNumbered :=
  ⟨.empty, .empty, .empty, .empty, .empty, .empty, .empty, .empty, .empty, .empty⟩

theorem numbered_modifyType (h : d.rows.RowsNumbered) (t : Token) {f : TypeDef → TypeDef}
    (hf : ∀ row, (f row).token = row.token) : (d.modifyType t f).rows.RowsNumbered :=
  { h with types := h.types.modifyRow .typeDef t hf }

theorem numbered_modifyMethod (h : d.rows.RowsNumbered) (t : Token) {f : MethodDef → MethodDef}
    (hf : ∀ row, (f row).token = row.token) : (d.modifyMethod t f).rows.RowsNumbered :=
  { h with methods := h.methods.modifyRow .methodDef t hf }

theorem numbered_setSemantics (h : d.rows.RowsNumbered) (owner method : Token) (flags : Nat) :
    (d.setSemantics owner method flags).rows.RowsNumbered := by
  have hproperty (p : PropertyDef) : (if flags.testBit 1 then { p with getter := some method }
      else if flags.testBit 0 then { p with setter := some method } else p).token = p.token := by
    split
    · rfl
    · split <;> rfl
  have hevent (e : EventDef) : (if flags.testBit 3 then { e with adder := some method }
      else if flags.testBit 4 then { e with remover := some method }
      else if flags.testBit 5 then { e with raiser := some method } else e).token = e.token := by
    split
    · rfl
    · split
      · rfl
      · split <;> rfl
  exact { h with
    properties := h.properties.modifyRow .property owner hproperty
    events := h.events.modifyRow .event owner hevent }

/-- Every change leaves the rows numbered. -/
theorem numbered_apply (h : d.rows.RowsNumbered) (e : Edit) : (e.apply d).rows.RowsNumbered := by
  cases e with
  | setVersionId mvid => exact { h with }
  | setVersion version => exact { h with }
  | setModuleName name => exact { h with }
  | setEntryPoint method => exact { h with }
  | setUserStrings heap => exact { h with }
  | addAssemblyRef name version => exact { h with assemblyRefs := h.assemblyRefs.push rfl }
  | addTypeRef scope ns name => exact { h with typeRefs := h.typeRefs.push rfl }
  | addType ns name flags base => exact { h with types := h.types.push rfl }
  | nest inner outer => exact numbered_modifyType h inner fun _ ↦ rfl
  | addInterface type interface => exact numbered_modifyType h type fun _ ↦ rfl
  | addGenericParam owner name =>
    refine numbered_modifyMethod (numbered_modifyType h owner ?_) owner ?_ <;> exact fun _ ↦ rfl
  | addMethod type name flags signature =>
    refine numbered_modifyType ?_ type fun _ ↦ rfl
    exact { h with methods := h.methods.push rfl }
  | setImplFlags method flags => exact numbered_modifyMethod h method fun _ ↦ rfl
  | setBody method code => exact numbered_modifyMethod h method fun _ ↦ rfl
  | setParamNames method names => exact numbered_modifyMethod h method fun _ ↦ rfl
  | addField type name flags signature =>
    refine numbered_modifyType ?_ type fun _ ↦ rfl
    exact { h with fields := h.fields.push rfl }
  | addProperty type name flags signature =>
    refine numbered_modifyType ?_ type fun _ ↦ rfl
    exact { h with properties := h.properties.push rfl }
  | addEvent type name flags eventType =>
    refine numbered_modifyType ?_ type fun _ ↦ rfl
    exact { h with events := h.events.push rfl }
  | setSemantics owner method flags => exact numbered_setSemantics h owner method flags
  | addMemberRef parent name signature => exact { h with memberRefs := h.memberRefs.push rfl }
  | addTypeSpec signature => exact { h with typeSpecs := h.typeSpecs.push rfl }
  | addMethodSpec method args => exact { h with methodSpecs := h.methodSpecs.push rfl }
  | addUserString text =>
    rw [Edit.apply, addUserString]
    obtain ⟨offset, heap⟩ := d.rows.userStrings.push text
    exact { h with }

theorem numbered_build (h : d.rows.RowsNumbered) : d.build.RowsNumbered :=
  { h with
    types := h.types.mapIdx fun _ _ ↦ rfl
    typeRefs := h.typeRefs.map fun _ ↦ rfl }

theorem Reachable.rowsNumbered (h : d.Reachable) : d.rows.RowsNumbered := by
  induction h with
  | new name => exact numbered_new name
  | again _ ih => exact numbered_build ih
  | edit e _ ih => exact numbered_apply ih e

end Draft

namespace Assembly

variable {a : Assembly}

theorem Built.rowsNumbered (h : a.Built) : a.RowsNumbered := by
  obtain ⟨d, hd, rfl⟩ := h
  exact Draft.numbered_build hd.rowsNumbered

theorem RowsNumbered.token_ofToken? (h : a.RowsNumbered) {t : Token} {s : Symbol}
    (hs : Symbol.ofToken? a t = some s) : s.token = t := by
  obtain ⟨kind, _, hs⟩ := Option.bind_eq_some_iff.1 hs
  cases kind with
  | type =>
    obtain ⟨row, hrow, rfl⟩ := Option.map_eq_some_iff.1 hs
    exact h.types.token_rowOf? hrow
  | method =>
    obtain ⟨row, hrow, rfl⟩ := Option.map_eq_some_iff.1 hs
    exact h.methods.token_rowOf? hrow
  | field =>
    obtain ⟨row, hrow, rfl⟩ := Option.map_eq_some_iff.1 hs
    exact h.fields.token_rowOf? hrow
  | property =>
    obtain ⟨row, hrow, rfl⟩ := Option.map_eq_some_iff.1 hs
    exact h.properties.token_rowOf? hrow
  | event =>
    obtain ⟨row, hrow, rfl⟩ := Option.map_eq_some_iff.1 hs
    exact h.events.token_rowOf? hrow

end Assembly

end CliMetadata
