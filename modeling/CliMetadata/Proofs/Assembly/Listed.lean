import CliMetadata.Proofs.Assembly.Numbered
import Mathlib.Data.List.Nodup

namespace CliMetadata

variable {α : Type} {table : Table} {owner : α → Option Token} {rows : Array α}
  {types : Array TypeDef} {list : TypeDef → List Token} {i : Nat} {t : TypeDef}

theorem nodup_eraseDups [BEq α] [LawfulBEq α] (xs : List α) : xs.eraseDups.Nodup := by
  cases xs with
  | nil => exact List.nodup_nil
  | cons x xs =>
    have hfilter := List.length_filter_le (fun y ↦ !y == x) xs
    have hrest := nodup_eraseDups (xs.filter fun y ↦ !y == x)
    rw [List.eraseDups_cons, List.nodup_cons, List.mem_eraseDups, List.mem_filter]
    refine ⟨?_, hrest⟩
    rintro ⟨_, hsame⟩
    simp at hsame
termination_by xs.length

theorem length_eraseDups_le [BEq α] (xs : List α) : xs.eraseDups.length ≤ xs.length := by
  cases xs with
  | nil => exact Nat.le_refl 0
  | cons x xs =>
    have hfilter := List.length_filter_le (fun y ↦ !y == x) xs
    have hrest := length_eraseDups_le (xs.filter fun y ↦ !y == x)
    rw [List.eraseDups_cons, List.length_cons, List.length_cons]
    omega
termination_by xs.length

/-- Lists of rows, given by their places in rising order, whose owners are the types that list
them. -/
def Listed (table : Table) (owner : α → Option Token) (rows : Array α) (types : Array TypeDef)
    (list : TypeDef → List Token) : Prop :=
  ∀ i t, types[i]? = some t → ∃ places : List Nat, places.Pairwise (· < ·) ∧
    list t = places.map (fun place ↦ table.token (place + 1)) ∧
    ∀ place ∈ places, ∃ row, rows[place]? = some row ∧
      owner row = some (Table.typeDef.token (i + 1))

namespace Assembly

theorem place?_token {place : Nat} (h : place + 1 < 0x1000000) :
    place? (table.token (place + 1)) table = some place := by
  rw [place?_eq_some_iff, Table.table_token, Table.row_token]
  omega

theorem toNat_token {place : Nat} (h : place + 1 < 0x1000000) :
    (table.token (place + 1)).toNat = table.number * 0x1000000 + (place + 1) := by
  have hnumber := table.number_lt
  rw [Table.token, Token.toNat_ofParts]
  omega

theorem table_of_rowOf? {token : Token} {row : α} (h : rowOf? rows table token = some row) :
    token.table = table.number := by
  obtain ⟨place, hplace, _⟩ := Option.bind_eq_some_iff.1 h
  exact (place?_eq_some_iff.1 hplace).1

theorem isIn_of_rowOf? {token : Token} {row : α} (h : rowOf? rows table token = some row) :
    token.isIn table = true := by
  rw [Token.isIn, beq_iff_eq]
  exact table_of_rowOf? h

theorem not_isIn {token : Token} {other : Table} (h : token.isIn table = true)
    (hne : table ≠ other) : ¬token.isIn other = true := by
  rw [Token.isIn, beq_iff_eq] at h ⊢
  intro hother
  have hnumber := congrArg Table.ofNumber? (h.symm.trans hother)
  rw [Table.ofNumber?_number, Table.ofNumber?_number] at hnumber
  exact hne (Option.some.inj hnumber)

theorem rowOf?_eq_none {β : Type} {others : Array β} {other : Table} {token : Token} {row : α}
    (h : rowOf? rows table token = some row) (hne : table ≠ other) :
    rowOf? others other token = none := by
  rw [rowOf?, place?, if_neg, Option.bind_none]
  rw [Bool.and_eq_true, not_and_or]
  exact .inl (not_isIn (isIn_of_rowOf? h) hne)

theorem mem_of_rowOf? {token : Token} {row : α} (h : rowOf? rows table token = some row) :
    row ∈ rows := by
  obtain ⟨place, _, hrow⟩ := Option.bind_eq_some_iff.1 h
  exact Array.mem_of_getElem? hrow

theorem mem_of_outer? {u : TypeDef} (h : Draft.outer? types t = some u) : u ∈ types := by
  obtain ⟨token, _, h⟩ := Option.bind_eq_some_iff.1 h
  split at h
  · cases h
  · exact Array.mem_of_getElem? h

/-- A token finds the row it was made for. -/
theorem rowOf?_token {place : Nat} {row : α} (hrows : rows.size < 0x1000000)
    (h : rows[place]? = some row) : rowOf? rows table (table.token (place + 1)) = some row := by
  have hlt := (Array.getElem?_eq_some_iff.1 h).1
  rw [rowOf?, place?_token (by omega), Option.bind_some, h]

end Assembly

theorem Numbered.rowOf?_token {key : α → Token} (h : Numbered key table rows)
    (hrows : rows.size < 0x1000000) {row : α} (hrow : row ∈ rows) :
    Assembly.rowOf? rows table (key row) = some row := by
  obtain ⟨i, hi⟩ := Array.mem_iff_getElem?.1 hrow
  rw [h i row hi]
  exact Assembly.rowOf?_token hrows hi

theorem Numbered.eq_of_key {key : α → Token} (h : Numbered key table rows)
    (hrows : rows.size < 0x1000000) {x y : α} (hx : x ∈ rows) (hy : y ∈ rows)
    (hkey : key x = key y) : x = y := by
  have hfound := h.rowOf?_token hrows hx
  rw [hkey, h.rowOf?_token hrows hy] at hfound
  exact (Option.some.inj hfound).symm

theorem Numbered.nodup_filterMap {key : α → Token} (h : Numbered key table rows)
    {tokens : List Token} (htokens : tokens.Nodup) :
    (tokens.filterMap (Assembly.rowOf? rows table)).Nodup :=
  htokens.filterMap fun _ _ _ hrow hother ↦
    (h.token_rowOf? hrow).symm.trans (h.token_rowOf? hother)

namespace Assembly

variable {a : Assembly}

theorem RowsNumbered.typeDef?_token (h : a.RowsNumbered)
    (hfew : a.types.size < 0x1000000) {t : TypeDef} (ht : t ∈ a.types) :
    a.typeDef? t.token = some t :=
  h.types.rowOf?_token hfew ht

theorem mem_methodsOf_iff {tokens : List Token} {m : MethodDef} :
    m ∈ a.methodsOf tokens ↔ ∃ token ∈ tokens, a.method? token = some m :=
  List.mem_filterMap

theorem RowsNumbered.method?_of_mem_methodsOf (h : a.RowsNumbered) {tokens : List Token}
    {m : MethodDef} (hm : m ∈ a.methodsOf tokens) : a.method? m.token = some m := by
  obtain ⟨_, _, hrow⟩ := mem_methodsOf_iff.1 hm
  rwa [← h.methods.token_rowOf? hrow] at hrow

end Assembly

namespace Symbol

variable {a : Assembly} {token : Token} {x : Symbol}

/-- A definition that stands where a token points to. -/
def StandsAt (a : Assembly) (token : Token) : Symbol → Prop
  | .type row => a.typeDef? token = some row
  | .method row => a.method? token = some row
  | .field row => a.field? token = some row
  | .property row => a.property? token = some row
  | .event row => a.event? token = some row

theorem ofToken?_eq_some_iff : ofToken? a token = some x ↔ x.StandsAt a token := by
  have hkind {α : Type} {rows : Array α} {row : α} (kind : MemberKind)
      (hrow : Assembly.rowOf? rows kind.table token = some row) :
      MemberKind.ofToken? token = some kind := by
    rw [MemberKind.ofToken?, Assembly.table_of_rowOf? hrow]
    cases kind <;> rfl
  constructor
  · intro h
    obtain ⟨kind, _, h⟩ := Option.bind_eq_some_iff.1 h
    cases kind <;> obtain ⟨row, hrow, rfl⟩ := Option.map_eq_some_iff.1 h <;> exact hrow
  · intro h
    cases x with
    | type row => rw [ofToken?, hkind .type h, Option.bind_some, h, Option.map_some]
    | method row => rw [ofToken?, hkind .method h, Option.bind_some, h, Option.map_some]
    | field row => rw [ofToken?, hkind .field h, Option.bind_some, h, Option.map_some]
    | property row => rw [ofToken?, hkind .property h, Option.bind_some, h, Option.map_some]
    | event row => rw [ofToken?, hkind .event h, Option.bind_some, h, Option.map_some]

end Symbol

theorem Table.token_inj {m n : Nat} (hm : m < 0x1000000) (hn : n < 0x1000000) :
    table.token m = table.token n ↔ m = n := by
  rw [token_eq_iff, Nat.mod_eq_of_lt hm, Nat.mod_eq_of_lt hn, and_iff_right rfl]

namespace Listed

theorem no_types : Listed table owner rows #[] list := by
  intro i t h
  simp at h

theorem of_types {changed : Array TypeDef} (h : Listed table owner rows types list)
    (hchanged : ∀ (i : Nat) (t : TypeDef), changed[i]? = some t →
      ∃ old, types[i]? = some old ∧ list t = list old) : Listed table owner rows changed list := by
  intro i t ht
  obtain ⟨old, hold, hlist⟩ := hchanged i t ht
  obtain ⟨places, hsorted, hplaces, hrows⟩ := h i old hold
  exact ⟨places, hsorted, hlist.trans hplaces, hrows⟩

theorem of_rows {changed : Array α} (h : Listed table owner rows types list)
    (hchanged : ∀ (place : Nat) (row : α), rows[place]? = some row →
      ∃ new, changed[place]? = some new ∧ owner new = owner row) :
    Listed table owner changed types list := by
  intro i t ht
  obtain ⟨places, hsorted, hplaces, hrows⟩ := h i t ht
  refine ⟨places, hsorted, hplaces, fun place hplace ↦ ?_⟩
  obtain ⟨row, hrow, howner⟩ := hrows place hplace
  obtain ⟨new, hnew, hsame⟩ := hchanged place row hrow
  exact ⟨new, hnew, hsame.trans howner⟩

theorem push_type (h : Listed table owner rows types list) (ht : list t = []) :
    Listed table owner rows (types.push t) list := by
  intro i u hu
  rw [Array.getElem?_push] at hu
  split at hu
  · cases hu
    exact ⟨[], .nil, ht, fun place hplace ↦ by cases hplace⟩
  · exact h i u hu

theorem modifyType (h : Listed table owner rows types list) (token : Token) {f : TypeDef → TypeDef}
    (hf : ∀ t, list (f t) = list t) :
    Listed table owner rows (Draft.modifyRow types .typeDef token f) list := by
  rw [Draft.modifyRow]
  split
  · next j _ =>
    refine h.of_types fun i t ht ↦ ?_
    rw [Array.getElem?_modify] at ht
    split at ht
    · obtain ⟨old, hold, rfl⟩ := Option.map_eq_some_iff.1 ht
      exact ⟨old, hold, hf old⟩
    · exact ⟨t, ht, rfl⟩
  · exact h

theorem modifyRow (h : Listed table owner rows types list) (place : Table) (token : Token)
    {f : α → α} (hf : ∀ row, owner (f row) = owner row) :
    Listed table owner (Draft.modifyRow rows place token f) types list := by
  rw [Draft.modifyRow]
  split
  · next j _ =>
    refine h.of_rows fun i row hrow ↦ ?_
    rw [Array.getElem?_modify, hrow]
    split
    · exact ⟨f row, rfl, hf row⟩
    · exact ⟨row, rfl, rfl⟩
  · exact h

/-- A new row that its owner takes up behind those it lists. -/
theorem add (h : Listed table owner rows types list) {row : α} {token : Token}
    {f : TypeDef → TypeDef} (hrow : owner row = some token)
    (hf : ∀ t, list (f t) = list t ++ [table.token (rows.size + 1)]) :
    Listed table owner (rows.push row) (Draft.modifyRow types .typeDef token f) list := by
  have hkept (place : Nat) (old : α) (hold : rows[place]? = some old) :
      (rows.push row)[place]? = some old := by
    have hlt := (Array.getElem?_eq_some_iff.1 hold).1
    rw [Array.getElem?_push, if_neg (by omega), hold]
  have hpush : Listed table owner (rows.push row) types list :=
    h.of_rows fun place old hold ↦ ⟨old, hkept place old hold, rfl⟩
  rw [Draft.modifyRow]
  split
  · next j hj =>
    intro i t ht
    rw [Array.getElem?_modify] at ht
    split at ht
    · next hij =>
      subst hij
      obtain ⟨old, hold, rfl⟩ := Option.map_eq_some_iff.1 ht
      obtain ⟨places, hsorted, hplaces, hrows⟩ := h _ old hold
      have hlow (place : Nat) (hplace : place ∈ places) : place < rows.size := by
        obtain ⟨_, hget, _⟩ := hrows place hplace
        exact (Array.getElem?_eq_some_iff.1 hget).1
      refine ⟨places ++ [rows.size], ?_, ?_, ?_⟩
      · refine List.pairwise_append.2 ⟨hsorted, List.pairwise_singleton _ _, ?_⟩
        intro place hplace last hlast
        rw [List.mem_singleton.1 hlast]
        exact hlow place hplace
      · rw [hf, hplaces, List.map_append]
        rfl
      · intro place hplace
        obtain hplace | hplace := List.mem_append.1 hplace
        · obtain ⟨old, hold, howner⟩ := hrows place hplace
          exact ⟨old, hkept place old hold, howner⟩
        · obtain rfl := List.mem_singleton.1 hplace
          refine ⟨row, Array.getElem?_push_size, ?_⟩
          rw [hrow, Assembly.eq_token_of_place? hj]
    · exact hpush i t ht
  · exact hpush

theorem owner_of_rowOf? (h : Listed table owner rows types list) (hrows : rows.size < 0x1000000)
    (ht : types[i]? = some t) {token : Token} (htoken : token ∈ list t) {row : α}
    (hrow : Assembly.rowOf? rows table token = some row) :
    owner row = some (Table.typeDef.token (i + 1)) := by
  obtain ⟨places, _, hplaces, hfound⟩ := h i t ht
  rw [hplaces] at htoken
  obtain ⟨place, hplace, rfl⟩ := List.mem_map.1 htoken
  obtain ⟨other, hother, howner⟩ := hfound place hplace
  cases (Assembly.rowOf?_token hrows hother).symm.trans hrow
  exact howner

theorem rising (h : Listed table owner rows types list) (hrows : rows.size < 0x1000000)
    (ht : types[i]? = some t) : (list t).Pairwise fun x y ↦ x.toNat < y.toNat := by
  obtain ⟨places, hsorted, hplaces, hfound⟩ := h i t ht
  have hlow (place : Nat) (hplace : place ∈ places) : place + 1 < 0x1000000 := by
    obtain ⟨_, hget, _⟩ := hfound place hplace
    have hlt := (Array.getElem?_eq_some_iff.1 hget).1
    omega
  rw [hplaces, List.pairwise_map]
  refine hsorted.imp_of_mem fun {x y} hx hy hxy ↦ ?_
  rw [Assembly.toNat_token (hlow x hx), Assembly.toNat_token (hlow y hy)]
  omega

theorem nodup (h : Listed table owner rows types list) (hrows : rows.size < 0x1000000)
    (ht : types[i]? = some t) : (list t).Nodup :=
  (h.rising hrows ht).imp fun hlt hsame ↦ Nat.ne_of_lt hlt (congrArg Token.toNat hsame)

/-- No row is listed twice, by one type or by two. -/
theorem nodup_flatMap (h : Listed table owner rows types list) (hrows : rows.size < 0x1000000)
    (htypes : types.size < 0x1000000) : (types.toList.flatMap list).Nodup := by
  rw [List.nodup_flatMap]
  constructor
  · intro t ht
    obtain ⟨i, hi⟩ := Array.mem_iff_getElem?.1 (Array.mem_toList_iff.1 ht)
    exact h.nodup hrows hi
  · rw [List.pairwise_iff_getElem]
    intro i j hi hj hij token hmem hmem'
    rw [Array.length_toList] at hi hj
    rw [Array.getElem_toList] at hmem hmem'
    obtain ⟨places, _, hplaces, hfound⟩ := h i _ (Array.getElem?_eq_getElem hi)
    rw [hplaces] at hmem
    obtain ⟨place, hplace, rfl⟩ := List.mem_map.1 hmem
    obtain ⟨row, hrow, howner⟩ := hfound place hplace
    have hother := h.owner_of_rowOf? hrows (Array.getElem?_eq_getElem hj) hmem'
      (Assembly.rowOf?_token hrows hrow)
    rw [howner, Option.some_inj, Table.token_inj (by omega) (by omega)] at hother
    omega

theorem isIn (h : Listed table owner rows types list) (ht : types[i]? = some t) {token : Token}
    (htoken : token ∈ list t) : token.table = table.number := by
  obtain ⟨places, _, hplaces, _⟩ := h i t ht
  rw [hplaces] at htoken
  obtain ⟨place, _, rfl⟩ := List.mem_map.1 htoken
  exact table.table_token _

end Listed

structure Assembly.MembersListed (a : Assembly) : Prop where
  methods : Listed .methodDef (fun m ↦ some m.declaringType) a.methods a.types TypeDef.methods
  fields : Listed .field (fun f ↦ some f.declaringType) a.fields a.types TypeDef.fields
  properties :
    Listed .property (fun p ↦ some p.declaringType) a.properties a.types TypeDef.properties
  events : Listed .event (fun e ↦ some e.declaringType) a.events a.types TypeDef.events

def Assembly.MethodsListed (a : Assembly) : Prop :=
  ∀ m ∈ a.methods, ∃ t ∈ a.types, t.token = m.declaringType ∧ m.token ∈ t.methods

/-- The tables of definitions have so few rows that tokens tell them apart. -/
structure Assembly.TokensSuffice (a : Assembly) : Prop where
  types : a.types.size < 0x1000000
  methods : a.methods.size < 0x1000000
  fields : a.fields.size < 0x1000000
  properties : a.properties.size < 0x1000000
  events : a.events.size < 0x1000000

namespace Draft

variable {d : Draft}

theorem listed_new (name : String) : (new name).rows.MembersListed :=
  ⟨.no_types, .no_types, .no_types, .no_types⟩

theorem listed_modifyType (h : d.rows.MembersListed) (token : Token) {f : TypeDef → TypeDef}
    (hmethods : ∀ t, (f t).methods = t.methods) (hfields : ∀ t, (f t).fields = t.fields)
    (hproperties : ∀ t, (f t).properties = t.properties) (hevents : ∀ t, (f t).events = t.events) :
    (d.modifyType token f).rows.MembersListed :=
  ⟨h.methods.modifyType token hmethods, h.fields.modifyType token hfields,
    h.properties.modifyType token hproperties, h.events.modifyType token hevents⟩

theorem listed_modifyMethod (h : d.rows.MembersListed) (token : Token) {f : MethodDef → MethodDef}
    (hf : ∀ m, (f m).declaringType = m.declaringType) :
    (d.modifyMethod token f).rows.MembersListed :=
  { h with methods := h.methods.modifyRow .methodDef token fun m ↦ congrArg some (hf m) }

theorem listed_setSemantics (h : d.rows.MembersListed) (owner method : Token) (flags : Nat) :
    (d.setSemantics owner method flags).rows.MembersListed := by
  have hproperty (p : PropertyDef) : (if flags.testBit 1 then { p with getter := some method }
      else if flags.testBit 0 then { p with setter := some method } else p).declaringType
        = p.declaringType := by
    split
    · rfl
    · split <;> rfl
  have hevent (e : EventDef) : (if flags.testBit 3 then { e with adder := some method }
      else if flags.testBit 4 then { e with remover := some method }
      else if flags.testBit 5 then { e with raiser := some method } else e).declaringType
        = e.declaringType := by
    split
    · rfl
    · split
      · rfl
      · split <;> rfl
  exact { h with
    properties := h.properties.modifyRow .property owner fun p ↦ congrArg some (hproperty p)
    events := h.events.modifyRow .event owner fun e ↦ congrArg some (hevent e) }

/-- Every change leaves the lists of types right. -/
theorem listed_apply (h : d.rows.MembersListed) (e : Edit) : (e.apply d).rows.MembersListed := by
  cases e with
  | setVersionId mvid => exact { h with }
  | setVersion version => exact { h with }
  | setModuleName name => exact { h with }
  | setEntryPoint method => exact { h with }
  | setUserStrings heap => exact { h with }
  | addAssemblyRef name version => exact { h with }
  | addTypeRef scope ns name => exact { h with }
  | addType ns name flags base =>
    exact ⟨h.methods.push_type rfl, h.fields.push_type rfl, h.properties.push_type rfl,
      h.events.push_type rfl⟩
  | nest inner outer =>
    exact listed_modifyType h inner (fun _ ↦ rfl) (fun _ ↦ rfl) (fun _ ↦ rfl) fun _ ↦ rfl
  | addInterface type interface =>
    exact listed_modifyType h type (fun _ ↦ rfl) (fun _ ↦ rfl) (fun _ ↦ rfl) fun _ ↦ rfl
  | addGenericParam owner name =>
    refine listed_modifyMethod (listed_modifyType h owner ?_ ?_ ?_ ?_) owner ?_ <;>
      exact fun _ ↦ rfl
  | addMethod type name flags signature =>
    exact ⟨h.methods.add rfl fun _ ↦ rfl, h.fields.modifyType type fun _ ↦ rfl,
      h.properties.modifyType type fun _ ↦ rfl, h.events.modifyType type fun _ ↦ rfl⟩
  | setImplFlags method flags => exact listed_modifyMethod h method fun _ ↦ rfl
  | setBody method code => exact listed_modifyMethod h method fun _ ↦ rfl
  | setParamNames method names => exact listed_modifyMethod h method fun _ ↦ rfl
  | addField type name flags signature =>
    exact ⟨h.methods.modifyType type fun _ ↦ rfl, h.fields.add rfl fun _ ↦ rfl,
      h.properties.modifyType type fun _ ↦ rfl, h.events.modifyType type fun _ ↦ rfl⟩
  | addProperty type name flags signature =>
    exact ⟨h.methods.modifyType type fun _ ↦ rfl, h.fields.modifyType type fun _ ↦ rfl,
      h.properties.add rfl fun _ ↦ rfl, h.events.modifyType type fun _ ↦ rfl⟩
  | addEvent type name flags eventType =>
    exact ⟨h.methods.modifyType type fun _ ↦ rfl, h.fields.modifyType type fun _ ↦ rfl,
      h.properties.modifyType type fun _ ↦ rfl, h.events.add rfl fun _ ↦ rfl⟩
  | setSemantics owner method flags => exact listed_setSemantics h owner method flags
  | addMemberRef parent name signature => exact { h with }
  | addTypeSpec signature => exact { h with }
  | addMethodSpec method args => exact { h with }
  | addUserString text =>
    rw [Edit.apply, addUserString]
    obtain ⟨offset, heap⟩ := d.rows.userStrings.push text
    exact { h with }

theorem exists_row_of_type {i : Nat} {t : TypeDef} (ht : d.build.types[i]? = some t) :
    ∃ row, d.rows.types[i]? = some row ∧ t = completeType d.rows.types i row := by
  rw [build, Array.getElem?_mapIdx] at ht
  obtain ⟨row, hrow, htype⟩ := Option.map_eq_some_iff.1 ht
  exact ⟨row, hrow, htype.symm⟩

theorem listed_build (h : d.rows.MembersListed) : d.build.MembersListed := by
  have htypes (list : TypeDef → List Token) (hlist : ∀ i t,
      list (completeType d.rows.types i t) = list t) (i : Nat) (t : TypeDef)
      (ht : d.build.types[i]? = some t) :
      ∃ old, d.rows.types[i]? = some old ∧ list t = list old := by
    obtain ⟨old, hold, rfl⟩ := exists_row_of_type ht
    exact ⟨old, hold, hlist i old⟩
  exact ⟨h.methods.of_types (htypes _ fun _ _ ↦ rfl), h.fields.of_types (htypes _ fun _ _ ↦ rfl),
    h.properties.of_types (htypes _ fun _ _ ↦ rfl), h.events.of_types (htypes _ fun _ _ ↦ rfl)⟩

theorem Reachable.membersListed (h : d.Reachable) : d.rows.MembersListed := by
  induction h with
  | new name => exact listed_new name
  | again _ ih => exact listed_build ih
  | edit e _ ih => exact listed_apply ih e

end Draft

namespace Assembly

variable {a : Assembly}

theorem Built.membersListed (h : a.Built) : a.MembersListed := by
  obtain ⟨d, hd, rfl⟩ := h
  exact Draft.listed_build hd.membersListed

theorem Built.nestedListed (h : a.Built) :
    Listed .typeDef TypeDef.enclosing a.types a.types TypeDef.nestedTypes := by
  obtain ⟨d, hd, rfl⟩ := h
  have hnumbered := hd.rowsNumbered.types
  intro i t ht
  obtain ⟨old, hold, rfl⟩ := Draft.exists_row_of_type ht
  have hplace (u : TypeDef) (place : Nat) (hmem : (u, place) ∈ d.rows.types.toList.zipIdx) :
      d.rows.types[place]? = some u := by
    rwa [List.mk_mem_zipIdx_iff_getElem?, Array.getElem?_toList] at hmem
  let inside := d.rows.types.toList.zipIdx.filter fun entry ↦
    entry.1.enclosing.bind (place? · .typeDef) == some i
  refine ⟨inside.map Prod.snd, ?_, ?_, ?_⟩
  · have hsub : (inside.map Prod.snd).Sublist (d.rows.types.toList.zipIdx.map Prod.snd) :=
      List.filter_sublist.map Prod.snd
    rw [List.zipIdx_map_snd] at hsub
    exact List.Pairwise.sublist hsub List.pairwise_lt_range'
  · have htypes : d.rows.types.toList = d.rows.types.toList.zipIdx.map Prod.fst := by
      rw [List.zipIdx_map_fst]
    have hnested : Draft.nestedIn d.rows.types i = inside.map fun entry ↦ entry.1.token := by
      rw [Draft.nestedIn, htypes, List.filter_map, List.map_map]
      rfl
    rw [List.map_map, Draft.completeType, hnested]
    refine List.map_congr_left fun entry hentry ↦ ?_
    exact hnumbered entry.2 entry.1 (hplace _ _ (List.mem_filter.1 hentry).1)
  · intro place hmem
    obtain ⟨⟨u, place⟩, hentry, rfl⟩ := List.mem_map.1 hmem
    obtain ⟨hzip, henclosing⟩ := List.mem_filter.1 hentry
    obtain ⟨outer, houter, hat⟩ := Option.bind_eq_some_iff.1 (beq_iff_eq.1 henclosing)
    refine ⟨Draft.completeType d.rows.types place u, ?_, eq_token_of_place? hat ▸ houter⟩
    rw [Draft.build, Array.getElem?_mapIdx, hplace u place hzip]
    rfl

end Assembly

end CliMetadata
