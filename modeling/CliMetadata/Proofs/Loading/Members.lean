import CliMetadata.Proofs.Loading.Reading
import Mathlib.Logic.Function.Basic

namespace CliMetadata

open Draft Function

variable {α : Type} {table : Table} {rows : Array α}

theorem EachRow.of_rowOf? {holds : Nat → α → Prop} (h : EachRow holds rows)
    (hfew : rows.size < 0x1000000) {rid : Nat} (hpos : 0 < rid) (hle : rid ≤ rows.size) {x : α}
    (hfound : Assembly.rowOf? rows table (table.token rid) = some x) : holds rid x := by
  have hlt : rid - 1 < rows.size := by omega
  have hplace : rid - 1 + 1 = rid := by omega
  have hget : rows[rid - 1]? = some rows[rid - 1] := Array.getElem?_eq_getElem hlt
  have hrow := h _ _ hget
  have htoken : Assembly.rowOf? rows table (table.token (rid - 1 + 1)) = some rows[rid - 1] :=
    Assembly.rowOf?_token hfew hget
  rw [hplace] at hrow htoken
  rw [hfound, Option.some.injEq] at htoken
  rwa [htoken]

theorem EachRow.modifyRow_token {holds other : Nat → α → Prop} (h : EachRow holds rows) {place : Nat}
    (hplace : place + 1 < 0x1000000) {f : α → α}
    (hat : ∀ x, holds (place + 1) x → other (place + 1) (f x))
    (helse : ∀ n x, n ≠ place + 1 → holds n x → other n x) :
    EachRow other (Draft.modifyRow rows table (table.token (place + 1)) f) := by
  rw [Draft.modifyRow, Assembly.place?_token hplace]
  intro i row hrow
  rw [Array.getElem?_modify] at hrow
  split at hrow
  · next hi =>
    obtain ⟨old, hold, rfl⟩ := Option.map_eq_some_iff.1 hrow
    subst hi
    exact hat old (h place old hold)
  · exact helse (i + 1) row (by omega) (h i row hrow)

theorem Draft.modifyRow_push (hfew : rows.size + 1 < 0x1000000) (x : α) (f : α → α) :
    modifyRow (rows.push x) table (nextToken table rows.size) f = rows.push (f x) := by
  rw [modifyRow, nextToken, Assembly.place?_token hfew]
  refine Array.ext_getElem? fun i ↦ ?_
  rw [Array.getElem?_modify, Array.getElem?_push, Array.getElem?_push]
  by_cases hi : i = rows.size
  · rw [if_pos hi, if_pos hi, if_pos hi.symm, Option.map_some]
  · rw [if_neg hi, if_neg hi, if_neg (Ne.symm hi)]

namespace Loading

variable {m : Metadata} {base : Assembly} {fields methods : Nat → List Token} {d loaded : Draft}
  {place rid first count : Nat}

theorem rows_putMethod (hfew : d.rows.methods.size + 1 < 0x1000000) (owner : Token)
    (method : MethodRow) (names : List String) :
    (putMethod d owner method names).rows =
      let token := nextToken .methodDef d.rows.methods.size
      { d.rows with
        methods := d.rows.methods.push
          { token, name := method.name, flags := method.flags, implFlags := method.implFlags
            signature := method.signature, paramNames := names, declaringType := owner
            body := method.body }
        types := modifyRow d.rows.types .typeDef owner fun t ↦
          { t with methods := t.methods ++ [token] } } := by
  obtain ⟨name, flags, implFlags, signature, body, params⟩ := method
  cases body <;> simp only [putMethod, Draft.addMethod, modifyType, setImplFlags, setBody,
    setParamNames, modifyMethod, modifyRow_push hfew]

theorem addMethod_next {methods : Array MethodRow} {owner : Token}
    (hread : m.ReadFrom .methodDef (methodRow m · = .ok ·) methods)
    (hfew : m.tables.rows .methodDef < 0x1000000)
    (hsize : d.rows.methods.size ≤ m.tables.rows .methodDef)
    (h : addMethod m methods owner rid d = .ok loaded) :
    ∃ row method names, rid = d.rows.methods.size + 1 ∧ m.tables.row .methodDef rid = .ok row ∧
      methodRow m row = .ok method ∧ loaded = putMethod d owner method names := by
  obtain ⟨method, names, hpos, hmethod, htoken, rfl⟩ := addMethod_ok h
  obtain ⟨row, hrow, hread⟩ := hread (rid - 1) method hmethod
  have hback : rid - 1 + 1 = rid := by omega
  rw [hback] at hrow
  exact ⟨row, method, names, Metadata.rid_eq_of_nextToken htoken hrow hsize hfew, hrow, hread, rfl⟩

/-- Steps that put one token behind the others put those of all rows there. -/
theorem forRows_tokens {σ : Type} {P : List Token → σ → Prop} {table : Table}
    {step : Nat → σ → Except Error σ} {s t : σ}
    (hstep : ∀ l rid s t, P l s → step rid s = .ok t → P (l ++ [table.token rid]) t) (hs : P [] s)
    (h : forRows step first count s = .ok t) :
    P ((List.range' first count).map table.token) t := by
  have hrun := forRows_run
    (P := fun rid ↦ P ((List.range' first (rid - first)).map table.token)) ?_ ?_ h
  · rwa [Nat.add_sub_cancel_left] at hrun
  · intro rid u v hlow _ hu hv
    have hcount : rid + 1 - first = rid - first + 1 := by omega
    have hlast : first + 1 * (rid - first) = rid := by omega
    have hnext := hstep _ rid u v hu hv
    rwa [hcount, List.range'_concat, List.map_append, hlast]
  · rwa [Nat.sub_self]

/-- Definitions as their rows tell them. The lists of the types are given, and the other tables are
as in `base`. -/
structure Defines (m : Metadata) (base : Assembly) (fields methods : Nat → List Token)
    (a : Assembly) : Prop where
  types : m.ReadFrom .typeDef m.TellsType a.types
  typeCount : a.types.size = m.tables.rows .typeDef
  lists : EachRow (fun rid t ↦ t.fields = fields rid ∧ t.methods = methods rid) a.types
  methods : m.ReadFrom .methodDef m.TellsMethod a.methods
  fields : m.ReadFrom .field m.TellsField a.fields
  properties : m.ReadFrom .property m.TellsProperty a.properties
  events : m.ReadFrom .event m.TellsEvent a.events
  typeRefs : a.typeRefs = base.typeRefs
  memberRefs : a.memberRefs = base.memberRefs
  typeSpecs : a.typeSpecs = base.typeSpecs
  methodSpecs : a.methodSpecs = base.methodSpecs
  assemblyRefs : a.assemblyRefs = base.assemblyRefs

namespace Defines

theorem modifyType (h : Defines m base fields methods d.rows) (t : Token) {f : TypeDef → TypeDef}
    (htells : ∀ row x, m.TellsType row x → m.TellsType row (f x))
    (hlists : ∀ x, (f x).fields = x.fields ∧ (f x).methods = x.methods) :
    Defines m base fields methods (d.modifyType t f).rows :=
  { h with
    types := h.types.modifyRow .typeDef t htells
    typeCount := (size_modifyRow .typeDef t f).trans h.typeCount
    lists := h.lists.modifyRow .typeDef t fun _ x hx ↦
      ⟨(hlists x).1.trans hx.1, (hlists x).2.trans hx.2⟩ }

theorem modifyMethod (h : Defines m base fields methods d.rows) (t : Token)
    {f : MethodDef → MethodDef} (htells : ∀ row x, m.TellsMethod row x → m.TellsMethod row (f x)) :
    Defines m base fields methods (d.modifyMethod t f).rows :=
  { h with methods := h.methods.modifyRow .methodDef t htells }

theorem addField (h : Defines m base fields methods d.rows)
    (hfew : m.tables.rows .field < 0x1000000) (hplace : place + 1 < 0x1000000)
    (hadd : addField m (Table.typeDef.token (place + 1)) rid d = .ok loaded) :
    Defines m base (update fields (place + 1) (fields (place + 1) ++ [Table.field.token rid]))
      methods loaded.rows := by
  obtain ⟨row, blob, name, hrow, hblob, hname, htoken, rfl⟩ := addField_ok hadd
  have hrid := Metadata.rid_eq_of_nextToken htoken hrow h.fields.size_le hfew
  rw [hrid] at hrow
  exact { h with
    types := h.types.modifyRow .typeDef _ fun _ _ hx ↦ { hx with }
    typeCount := (size_modifyRow .typeDef _ _).trans h.typeCount
    lists := h.lists.modifyRow_token hplace
      (fun x hx ↦ ⟨by rw [update_self, hx.1, htoken], hx.2⟩)
      (fun n x hn hx ↦ ⟨by rw [update_of_ne hn, hx.1], hx.2⟩)
    fields := h.fields.push hrow
      { name := hname, flags := rfl, signature := ⟨blob, hblob, Signature.reads_orElse ..⟩ } }

theorem addMethod {rows : Array MethodRow} (h : Defines m base fields methods d.rows)
    (hrows : m.ReadFrom .methodDef (methodRow m · = .ok ·) rows)
    (hfew : m.tables.rows .methodDef < 0x1000000) (hplace : place + 1 < 0x1000000)
    (hadd : addMethod m rows (Table.typeDef.token (place + 1)) rid d = .ok loaded) :
    Defines m base fields
      (update methods (place + 1) (methods (place + 1) ++ [Table.methodDef.token rid]))
      loaded.rows := by
  obtain ⟨row, method, names, rfl, hrow, hread, rfl⟩ :=
    addMethod_next hrows hfew h.methods.size_le hadd
  have hbounds := Metadata.bounds_of_row hrow
  obtain ⟨blob, hblob, hname, hflags, himplFlags, hsignature, hbody⟩ := methodRow_ok hread
  rw [rows_putMethod (by omega)]
  exact { h with
    types := h.types.modifyRow .typeDef _ fun _ _ hx ↦ { hx with }
    typeCount := (size_modifyRow .typeDef _ _).trans h.typeCount
    lists := h.lists.modifyRow_token hplace
      (fun x hx ↦ ⟨hx.1, by rw [update_self, hx.2, nextToken]⟩)
      (fun n x hn hx ↦ ⟨hx.1, by rw [update_of_ne hn, hx.2]⟩)
    methods := h.methods.push hrow
      { name := hname, flags := hflags, implFlags := himplFlags
        signature := ⟨blob, hblob, hsignature ▸ Signature.reads_orElse ..⟩, body := hbody } }

theorem addFields (h : Defines m base fields methods d.rows)
    (hfew : m.tables.rows .field < 0x1000000) (hplace : place + 1 < 0x1000000)
    (hnone : fields (place + 1) = [])
    (hadd : forRows (Loading.addField m (Table.typeDef.token (place + 1))) first count d =
      .ok loaded) :
    Defines m base
      (update fields (place + 1) ((List.range' first count).map Table.field.token)) methods
      loaded.rows := by
  refine forRows_tokens (P := fun l e ↦ Defines m base (update fields (place + 1) l) methods e.rows)
    (fun l rid e f he hf ↦ ?_) ?_ hadd
  · have hnext := he.addField hfew hplace hf
    rwa [update_self, update_idem] at hnext
  · rwa [← hnone, update_eq_self]

theorem addMethods {rows : Array MethodRow} (h : Defines m base fields methods d.rows)
    (hrows : m.ReadFrom .methodDef (methodRow m · = .ok ·) rows)
    (hfew : m.tables.rows .methodDef < 0x1000000) (hplace : place + 1 < 0x1000000)
    (hnone : methods (place + 1) = [])
    (hadd : forRows (Loading.addMethod m rows (Table.typeDef.token (place + 1))) first count d =
      .ok loaded) :
    Defines m base fields
      (update methods (place + 1) ((List.range' first count).map Table.methodDef.token))
      loaded.rows := by
  refine forRows_tokens (P := fun l e ↦ Defines m base fields (update methods (place + 1) l) e.rows)
    (fun l rid e f he hf ↦ ?_) ?_ hadd
  · have hnext := he.addMethod hrows hfew hplace hf
    rwa [update_self, update_idem] at hnext
  · rwa [← hnone, update_eq_self]

end Defines

def listedBelow (m : Metadata) (column : Nat) (target : Table) (stop rid : Nat) : List Token :=
  if rid < stop then m.listed column target rid else []

theorem update_listedBelow (column : Nat) (target : Table) :
    update (listedBelow m column target rid) rid (m.listed column target rid) =
      listedBelow m column target (rid + 1) := by
  funext n
  by_cases hn : n = rid
  · rw [hn, update_self, listedBelow, if_pos (Nat.lt_succ_self rid)]
  · rw [update_of_ne hn, listedBelow, listedBelow]
    exact if_congr (by omega) rfl rfl

theorem defines_addMembers {types : Array Row} {rows : Array MethodRow}
    (h : Defines m base (listedBelow m 4 .field 1) (listedBelow m 5 .methodDef 1) d.rows)
    (htypes : EachRow (fun rid row ↦ m.tables.row .typeDef rid = .ok row) types)
    (hrows : m.ReadFrom .methodDef (methodRow m · = .ok ·) rows)
    (hfew : ∀ table, m.tables.rows table < 0x1000000)
    (hadd : addMembers m types rows d = .ok loaded) :
    Defines m base (listedBelow m 4 .field (types.size + 1))
      (listedBelow m 5 .methodDef (types.size + 1)) loaded.rows := by
  refine addMembers_lists (P := fun rid e ↦ Defines m base (listedBelow m 4 .field rid)
    (listedBelow m 5 .methodDef rid) e.rows) htypes (fun rid e f g hlow hhigh he hf hg ↦ ?_) h hadd
  obtain ⟨place, rfl⟩ : ∃ place, rid = place + 1 := ⟨rid - 1, by omega⟩
  have hplace : place + 1 < 0x1000000 := by
    have hget := htypes place _ (Array.getElem?_eq_getElem (by omega))
    exact Nat.lt_of_le_of_lt (Metadata.bounds_of_row hget).2 (hfew .typeDef)
  have hnone (column : Nat) (target : Table) :
      listedBelow m column target (place + 1) (place + 1) = [] := if_neg (Nat.lt_irrefl _)
  have hfields := he.addFields (hfew .field) hplace (hnone 4 .field) hf
  have hmethods := hfields.addMethods hrows (hfew .methodDef) hplace (hnone 5 .methodDef) hg
  rwa [← Metadata.listed, ← Metadata.listed, update_listedBelow, update_listedBelow] at hmethods

end Loading

end CliMetadata
