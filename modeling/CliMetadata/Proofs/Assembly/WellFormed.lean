import CliMetadata.Proofs.Assembly.Listed

namespace CliMetadata

variable {α : Type} {table : Table} {rows : Array α} {types : Array TypeDef}
  {list : TypeDef → List Token} {declaringType : α → Token}

def TypeDef.members (t : TypeDef) : List Token := t.methods ++ t.fields ++ t.properties ++ t.events

theorem TypeDef.mem_members_iff {t : TypeDef} {token : Token} : token ∈ t.members ↔
    token ∈ t.methods ∨ token ∈ t.fields ∨ token ∈ t.properties ∨ token ∈ t.events := by
  simp only [members, List.mem_append, or_assoc]

namespace Assembly

/-- A look-up that finds a row for the tokens of a table with numbers from one to the number of its
rows, and for no others. -/
def FindsRows (find? : Token → Option α) (table : Table) (rows : Array α) : Prop :=
  ∀ token, (find? token).isSome ↔
    token.table = table.number ∧ 1 ≤ token.row ∧ token.row ≤ rows.size

/-- Lists in which types have members in rising order. What they name is there, and has the type as
the one that declares it. -/
structure InOrder (find? : Token → Option α) (declaringType : α → Token) (types : Array TypeDef)
    (list : TypeDef → List Token) : Prop where
  rising : ∀ t ∈ types, (list t).Pairwise fun x y ↦ x.toNat < y.toNat
  declared : ∀ t ∈ types, ∀ token ∈ list t, ∃ row, find? token = some row ∧
    declaringType row = t.token

structure WellFormed (a : Assembly) : Prop where
  numbered : a.RowsNumbered
  findsTypes : FindsRows a.typeDef? .typeDef a.types
  findsMethods : FindsRows a.method? .methodDef a.methods
  findsFields : FindsRows a.field? .field a.fields
  findsProperties : FindsRows a.property? .property a.properties
  findsEvents : FindsRows a.event? .event a.events
  findsTypeRefs : FindsRows a.typeRef? .typeRef a.typeRefs
  findsMemberRefs : FindsRows a.memberRef? .memberRef a.memberRefs
  findsTypeSpecs : FindsRows a.typeSpec? .typeSpec a.typeSpecs
  findsMethodSpecs : FindsRows a.methodSpec? .methodSpec a.methodSpecs
  methods : InOrder a.method? MethodDef.declaringType a.types TypeDef.methods
  fields : InOrder a.field? FieldDef.declaringType a.types TypeDef.fields
  properties : InOrder a.property? PropertyDef.declaringType a.types TypeDef.properties
  events : InOrder a.event? EventDef.declaringType a.types TypeDef.events
  apart : a.types.toList.Pairwise fun t u ↦ t.members.Disjoint u.members

theorem findsRows_rowOf? (table : Table) (rows : Array α) :
    FindsRows (rowOf? rows table) table rows := by
  intro token
  have hin : token.isIn table = true ↔ token.table = table.number := by
    rw [Token.isIn, beq_iff_eq]
  have hnull : (!token.isNull) = true ↔ 1 ≤ token.row := by
    rw [Token.isNull, Bool.not_eq_true', beq_eq_false_iff_ne, Nat.one_le_iff_ne_zero]
  rw [rowOf?, place?]
  split
  · next h =>
    rw [Bool.and_eq_true, hin, hnull] at h
    rw [Option.bind_some, isSome_getElem?]
    omega
  · next h =>
    rw [Bool.and_eq_true, hin, hnull] at h
    rw [Option.bind_none, Option.isSome_none, Bool.false_eq_true, false_iff]
    exact fun hall ↦ h ⟨hall.1, hall.2.1⟩

theorem exists_place_of_rowOf? {token : Token} {row : α} (h : rowOf? rows table token = some row) :
    token = table.token (token.row - 1 + 1) ∧ rows[token.row - 1]? = some row := by
  obtain ⟨place, hplace, hrow⟩ := Option.bind_eq_some_iff.1 h
  have hrid := (place?_eq_some_iff.1 hplace).2
  rw [hrid, Nat.add_sub_cancel]
  exact ⟨eq_token_of_place? hplace, hrow⟩

theorem InOrder.listed (h : InOrder (rowOf? rows table) declaringType types list)
    (htypes : Numbered TypeDef.token .typeDef types) :
    Listed table (fun row ↦ some (declaringType row)) rows types list := by
  intro i t ht
  have hmem := Array.mem_of_getElem? ht
  have hfound (token : Token) (htoken : token ∈ list t) := h.declared t hmem token htoken
  refine ⟨(list t).map fun token ↦ token.row - 1, ?_, ?_, ?_⟩
  · rw [List.pairwise_map]
    refine (h.rising t hmem).imp_of_mem fun {x y} hx hy hxy ↦ ?_
    obtain ⟨_, hxrow, _⟩ := hfound x hx
    obtain ⟨_, hyrow, _⟩ := hfound y hy
    have hxtable := table_of_rowOf? hxrow
    have hytable := table_of_rowOf? hyrow
    have hxfinds := (findsRows_rowOf? table rows x).1 (Option.isSome_of_eq_some hxrow)
    have hyfinds := (findsRows_rowOf? table rows y).1 (Option.isSome_of_eq_some hyrow)
    unfold Token.table Token.row at *
    omega
  · rw [List.map_map, eq_comm]
    refine (List.map_congr_left fun token htoken ↦ ?_).trans (List.map_id _)
    obtain ⟨_, hrow, _⟩ := hfound token htoken
    exact (exists_place_of_rowOf? hrow).1.symm
  · intro place hplace
    obtain ⟨token, htoken, rfl⟩ := List.mem_map.1 hplace
    obtain ⟨row, hrow, howner⟩ := hfound token htoken
    have hsame := howner.trans (htypes i t ht)
    exact ⟨row, (exists_place_of_rowOf? hrow).2, congrArg some hsame⟩

end Assembly

theorem Listed.inOrder (h : Listed table (fun row ↦ some (declaringType row)) rows types list)
    (htypes : Numbered TypeDef.token .typeDef types) (hrows : rows.size < 0x1000000) :
    Assembly.InOrder (Assembly.rowOf? rows table) declaringType types list := by
  constructor
  · intro t ht
    obtain ⟨i, hi⟩ := Array.mem_iff_getElem?.1 ht
    exact h.rising hrows hi
  · intro t ht token htoken
    obtain ⟨i, hi⟩ := Array.mem_iff_getElem?.1 ht
    obtain ⟨places, _, hplaces, hfound⟩ := h i t hi
    rw [hplaces] at htoken
    obtain ⟨place, hplace, rfl⟩ := List.mem_map.1 htoken
    obtain ⟨row, hrow, howner⟩ := hfound place hplace
    refine ⟨row, Assembly.rowOf?_token hrows hrow, ?_⟩
    rw [htypes i t hi]
    exact Option.some.inj howner

namespace Assembly

variable {a : Assembly}

theorem WellFormed.membersListed (h : a.WellFormed) : a.MembersListed :=
  ⟨h.methods.listed h.numbered.types, h.fields.listed h.numbered.types,
    h.properties.listed h.numbered.types, h.events.listed h.numbered.types⟩

section Listed

variable (hnumbered : a.RowsNumbered) (hlisted : a.MembersListed) (hfew : a.TokensSuffice)

include hnumbered hlisted hfew

theorem declaringType?_of_mem_members {t : TypeDef} (ht : t ∈ a.types) {token : Token}
    (htoken : token ∈ t.members) :
    (Symbol.ofToken? a token).bind Symbol.declaringType? = some t.token := by
  have hfound (x : Symbol) (hx : x.StandsAt a token) (howner : x.declaringType? = some t.token) :
      (Symbol.ofToken? a token).bind Symbol.declaringType? = some t.token := by
    rw [Symbol.ofToken?_eq_some_iff.2 hx, Option.bind_some, howner]
  obtain h | h | h | h := TypeDef.mem_members_iff.1 htoken
  · obtain ⟨m, hm, howner⟩ :=
      (hlisted.methods.inOrder hnumbered.types hfew.methods).declared t ht token h
    exact hfound (.method m) hm (congrArg some howner)
  · obtain ⟨f, hf, howner⟩ :=
      (hlisted.fields.inOrder hnumbered.types hfew.fields).declared t ht token h
    exact hfound (.field f) hf (congrArg some howner)
  · obtain ⟨p, hp, howner⟩ :=
      (hlisted.properties.inOrder hnumbered.types hfew.properties).declared t ht token h
    exact hfound (.property p) hp (congrArg some howner)
  · obtain ⟨e, he, howner⟩ :=
      (hlisted.events.inOrder hnumbered.types hfew.events).declared t ht token h
    exact hfound (.event e) he (congrArg some howner)

theorem pairwise_disjoint_members :
    a.types.toList.Pairwise fun t u ↦ t.members.Disjoint u.members := by
  rw [List.pairwise_iff_getElem]
  intro i j hi hj hij token hmem hmem'
  rw [Array.length_toList] at hi hj
  rw [Array.getElem_toList] at hmem hmem'
  have hfirst := declaringType?_of_mem_members hnumbered hlisted hfew (Array.getElem_mem hi) hmem
  have hsecond := declaringType?_of_mem_members hnumbered hlisted hfew (Array.getElem_mem hj) hmem'
  have htypes := hfew.types
  rw [hfirst, Option.some_inj, hnumbered.types i _ (Array.getElem?_eq_getElem hi),
    hnumbered.types j _ (Array.getElem?_eq_getElem hj), Table.token_inj (by omega) (by omega)]
    at hsecond
  omega

theorem wellFormed_of_listed : a.WellFormed where
  numbered := hnumbered
  findsTypes := findsRows_rowOf? _ _
  findsMethods := findsRows_rowOf? _ _
  findsFields := findsRows_rowOf? _ _
  findsProperties := findsRows_rowOf? _ _
  findsEvents := findsRows_rowOf? _ _
  findsTypeRefs := findsRows_rowOf? _ _
  findsMemberRefs := findsRows_rowOf? _ _
  findsTypeSpecs := findsRows_rowOf? _ _
  findsMethodSpecs := findsRows_rowOf? _ _
  methods := hlisted.methods.inOrder hnumbered.types hfew.methods
  fields := hlisted.fields.inOrder hnumbered.types hfew.fields
  properties := hlisted.properties.inOrder hnumbered.types hfew.properties
  events := hlisted.events.inOrder hnumbered.types hfew.events
  apart := pairwise_disjoint_members hnumbered hlisted hfew

end Listed

end Assembly

namespace Draft

/-- A draft that is empty or goes on from a well-formed assembly. -/
inductive Started : Draft → Prop
  | new (name : String) : Started (.new name)
  | ofAssembly {a : Assembly} : a.WellFormed → Started (.ofAssembly a)

variable {d : Draft}

theorem Started.rowsNumbered (h : d.Started) : d.rows.RowsNumbered := by
  cases h with
  | new name => exact numbered_new name
  | ofAssembly ha => exact ha.numbered

theorem Started.membersListed (h : d.Started) : d.rows.MembersListed := by
  cases h with
  | new name => exact listed_new name
  | ofAssembly ha => exact ha.membersListed

theorem numbered_edits (h : d.rows.RowsNumbered) (edits : List Edit) :
    (edits.foldl Edit.apply d).rows.RowsNumbered := by
  induction edits generalizing d with
  | nil => exact h
  | cons e edits ih => exact ih (numbered_apply h e)

theorem listed_edits (h : d.rows.MembersListed) (edits : List Edit) :
    (edits.foldl Edit.apply d).rows.MembersListed := by
  induction edits generalizing d with
  | nil => exact h
  | cons e edits ih => exact ih (listed_apply h e)

/-- What is built is well formed, whatever changes made it. -/
theorem wellFormed_build (h : d.Started) (edits : List Edit)
    (hfew : (edits.foldl Edit.apply d).build.TokensSuffice) :
    (edits.foldl Edit.apply d).build.WellFormed := by
  have hnumbered := numbered_build (numbered_edits h.rowsNumbered edits)
  have hlisted := listed_build (listed_edits h.membersListed edits)
  exact Assembly.wellFormed_of_listed hnumbered hlisted hfew

theorem wellFormed_build_methodBeforeType :
    let d : Draft := [Edit.addMethod ⟨0x02000002⟩ "Early" 0 { result := { base := .void } },
      .addType "App" "Late" 0 none, .addField ⟨0x02000002⟩ "value" 0 .object].foldl Edit.apply
        (.ofAssembly .callingItself)
    d.build.TokensSuffice ∧ d.build.WellFormed ∧
      d.build.types.toList.map TypeDef.members = [[⟨0x06000001⟩], [⟨0x04000001⟩]] := by
  intro d
  have hbuilt := Assembly.built_callingItself
  have hstart : Assembly.callingItself.WellFormed := Assembly.wellFormed_of_listed
    hbuilt.rowsNumbered hbuilt.membersListed ⟨by decide, by decide, by decide, by decide, by decide⟩
  have hfew : d.build.TokensSuffice := ⟨by decide, by decide, by decide, by decide, by decide⟩
  exact ⟨hfew, wellFormed_build (.ofAssembly hstart) _ hfew, by decide +kernel⟩

end Draft

end CliMetadata
