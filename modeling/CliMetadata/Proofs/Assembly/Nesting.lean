import CliMetadata.Proofs.Assembly.Rebuilding

namespace CliMetadata

namespace Assembly

variable (a : Assembly)

def typeAround? (t : TypeDef) : Option TypeDef := t.enclosing.bind a.typeDef?

def refAround? (ref : TypeRef) : Option TypeRef := a.typeRef? ref.scope

end Assembly

namespace Draft

variable {d : Draft} {t u : TypeDef} {ref outer : TypeRef} {n : Nat}

/-- A built type whose walk ends has the names that follow from the built types. -/
theorem names_of_endsWithin (ht : t ∈ d.build.types)
    (hends : EndsWithin (outer? d.build.types) n t) :
    t.ns = (outermost d.build.types t).ns ∧
      t.fullName = joinedName (outer? d.build.types) (fun u ↦ qualified u.ns u.name) TypeDef.name
        d.build.types.size t := by
  obtain ⟨i, hi⟩ := Array.mem_iff_getElem?.1 ht
  obtain ⟨row, _, hrow⟩ := exists_row_of_type hi
  have hns := CompletesTo.ns_outermost ⟨i, hrow⟩ hends ht
  have hagain : completeType d.build.types i t = t := (completeType_completed_iff hrow).2 hns
  rw [completeType_eq] at hagain
  exact ⟨hns.symm, (congrArg TypeDef.fullName hagain).symm⟩

theorem fullName_of_outermost (ht : t ∈ d.build.types) (houter : outer? d.build.types t = none) :
    t.fullName = qualified t.ns t.name := by
  rw [(names_of_endsWithin ht (.here (n := 0) houter)).2, joinedName_of_none houter]

theorem names_of_outer (ht : t ∈ d.build.types) (hends : EndsWithin (outer? d.build.types) n t)
    (houter : outer? d.build.types t = some u) :
    t.fullName = u.fullName ++ "+" ++ t.name ∧ t.ns = u.ns := by
  have hends := endsWithin_size hends ht
  obtain ⟨m, _, hu⟩ := hends.of_step houter
  obtain ⟨hns, hname⟩ := names_of_endsWithin ht hends
  obtain ⟨huns, huname⟩ := names_of_endsWithin (Assembly.mem_of_outer? houter) hu
  rw [hname, joinedName_of_step hends houter, ← huname, hns, outermost, walk_of_step hends houter,
    huns]
  exact ⟨rfl, rfl⟩

theorem fullName_typeRef (href : ref ∈ d.build.typeRefs) :
    ref.fullName = joinedName d.build.refAround? (fun r ↦ qualified r.ns r.name) TypeRef.name
      scopeLimit ref := by
  obtain ⟨row, _, rfl⟩ := Array.mem_map.1 href
  have hagain := congrArg TypeRef.fullName (completeTypeRef_completed d.rows.typeRefs row)
  exact hagain.symm.trans (typeRefName_eq ..)

theorem qualified_eq (ns name : String) :
    qualified ns name = if ns = "" then name else ns ++ "." ++ name := by
  rw [qualified]
  simp only [String.isEmpty_iff]

end Draft

namespace Assembly

variable {a : Assembly} {t u : TypeDef}

/-- Nested types are in types that exist, and none is in itself, at any depth. -/
structure NestsProperly (a : Assembly) : Prop where
  named : ∀ t ∈ a.types, ∀ outer, t.enclosing = some outer → (a.typeDef? outer).isSome
  acyclic : ∀ t ∈ a.types, ¬Relation.TransGen (Steps a.typeAround?) t t

theorem mem_of_typeAround? (h : a.typeAround? t = some u) : u ∈ a.types := by
  obtain ⟨_, _, h⟩ := Option.bind_eq_some_iff.1 h
  exact mem_of_rowOf? h

theorem outer?_of_typeAround? (h : a.typeAround? t = some u) : Draft.outer? a.types t = some u := by
  obtain ⟨token, htoken, h⟩ := Option.bind_eq_some_iff.1 h
  obtain ⟨i, hplace, hi⟩ := Option.bind_eq_some_iff.1 h
  have hrow := (place?_eq_some_iff.1 hplace).2
  have hnull : token.isNull = false := by
    rw [Token.isNull, hrow]
    rfl
  rw [Draft.outer?, htoken, Option.bind_some, hnull, if_neg Bool.false_ne_true, hrow,
    Nat.add_sub_cancel, hi]

namespace NestsProperly

theorem outer?_eq (h : a.NestsProperly) (ht : t ∈ a.types) :
    Draft.outer? a.types t = a.typeAround? t := by
  cases hout : a.typeAround? t with
  | some u => exact outer?_of_typeAround? hout
  | none =>
    have henclosing : t.enclosing = none := by
      refine Option.eq_none_iff_forall_ne_some.2 fun outer houter ↦ ?_
      have hnamed := h.named t ht outer houter
      rw [typeAround?, houter, Option.bind_some] at hout
      rw [hout] at hnamed
      cases hnamed
    rw [Draft.outer?, henclosing, Option.bind_none]

theorem mem_of_steps (ht : t ∈ a.types) (hu : Relation.ReflTransGen (Steps a.typeAround?) t u) :
    u ∈ a.types := by
  obtain rfl | ⟨_, _, hstep⟩ := Relation.ReflTransGen.cases_tail hu
  · exact ht
  · exact mem_of_typeAround? hstep

theorem endsWithin_typeAround? (h : a.NestsProperly) (ht : t ∈ a.types) :
    EndsWithin a.typeAround? a.types.size t := by
  rw [← Array.length_toList]
  exact endsWithin_length (fun _ _ hu ↦ Array.mem_toList_iff.2 (mem_of_typeAround? hu))
    (Array.mem_toList_iff.2 ht) fun u hu ↦ h.acyclic u (mem_of_steps ht hu)

theorem endsWithin (h : a.NestsProperly) (ht : t ∈ a.types) :
    EndsWithin (Draft.outer? a.types) a.types.size t :=
  (h.endsWithin_typeAround? ht).congr fun _ hu ↦ h.outer?_eq (mem_of_steps ht hu)

end NestsProperly

/-- Walks outwards find out whether types nest properly. -/
theorem nestsProperly_iff : a.NestsProperly ↔ ∀ t ∈ a.types,
    (t.enclosing.all fun outer ↦ (a.typeDef? outer).isSome) = true ∧
      a.typeAround? (walk a.typeAround? a.types.size t) = none := by
  simp only [← endsWithin_iff, Option.all_eq_true]
  constructor
  · intro h t ht
    exact ⟨h.named t ht, h.endsWithin_typeAround? ht⟩
  · intro h
    exact ⟨fun t ht ↦ (h t ht).1, fun t ht ↦ (h t ht).2.acyclic t .refl⟩

instance : Decidable a.NestsProperly := decidable_of_iff _ nestsProperly_iff.symm

theorem typeAround?_of_place {i : Nat} {token : Token} (htoken : t.enclosing = some token)
    (hplace : place? token .typeDef = some i) : a.typeAround? t = a.types[i]? := by
  rw [typeAround?, htoken, Option.bind_some, typeDef?, rowOf?, hplace, Option.bind_some]

theorem place_lt {token : Token} {table : Table} {i : Nat} (h : place? token table = some i) :
    i + 1 < 0x1000000 := by
  rw [← (place?_eq_some_iff.1 h).2]
  exact Nat.mod_lt _ (by decide)

end Assembly

namespace Draft

variable {d : Draft} {t u : TypeDef}

theorem mem_nestedIn {types : Array TypeDef} {i : Nat} {token : Token} :
    token ∈ nestedIn types i ↔ ∃ t ∈ types,
      t.enclosing.bind (Assembly.place? · .typeDef) = some i ∧ t.token = token := by
  rw [nestedIn, List.mem_map]
  simp only [List.mem_filter, Array.mem_toList_iff, beq_iff_eq, and_assoc]

/-- Every type lists those that are nested in it. -/
theorem Reachable.nestedTypes_eq (hd : d.Reachable) (ht : t ∈ d.build.types) : t.nestedTypes =
    (d.build.types.toList.filter fun u ↦ d.build.typeAround? u = some t).map (·.token) := by
  obtain ⟨i, hi⟩ := Array.mem_iff_getElem?.1 ht
  have hplaced (u : TypeDef) (hu : u ∈ d.build.types) :
      u.enclosing.bind (Assembly.place? · .typeDef) = some i ↔
        d.build.typeAround? u = some t := by
    constructor
    · intro h
      obtain ⟨token, htoken, hplace⟩ := Option.bind_eq_some_iff.1 h
      rw [Assembly.typeAround?_of_place htoken hplace, hi]
    · intro h
      obtain ⟨token, htoken, h⟩ := Option.bind_eq_some_iff.1 h
      obtain ⟨j, hplace, hj⟩ := Option.bind_eq_some_iff.1 h
      have hbind : u.enclosing.bind (Assembly.place? · .typeDef) = some j := by
        rw [htoken, Option.bind_some, hplace]
      have hlisted : u.token ∈ nestedIn d.build.types i := by
        rw [← d.nestedTypes_of_place hi, d.nestedTypes_of_place hj]
        exact mem_nestedIn.2 ⟨u, hu, hbind, rfl⟩
      obtain ⟨w, _, hw, _⟩ := mem_nestedIn.1 hlisted
      obtain ⟨_, _, hiplace⟩ := Option.bind_eq_some_iff.1 hw
      have hnumbered := (numbered_build hd.rowsNumbered).types
      have hsame := (hnumbered i t hi).symm.trans (hnumbered j t hj)
      rw [Table.token_inj (Assembly.place_lt hiplace) (Assembly.place_lt hplace)] at hsame
      rw [hbind, Nat.succ.inj hsame]
  rw [d.nestedTypes_of_place hi, nestedIn]
  congr 1
  refine List.filter_congr fun u hu ↦ ?_
  rw [Bool.eq_iff_iff, beq_iff_eq, decide_eq_true_iff, hplaced u (Array.mem_toList_iff.1 hu)]

theorem Reachable.nestedTypes_rising (hd : d.Reachable) (ht : t ∈ d.build.types)
    (hfew : d.build.types.size < 0x1000000) :
    t.nestedTypes.Pairwise fun x y ↦ x.toNat < y.toNat := by
  obtain ⟨i, hi⟩ := Array.mem_iff_getElem?.1 ht
  exact (Assembly.Built.nestedListed ⟨d, hd, rfl⟩).rising hfew hi

end Draft

namespace Assembly

variable {a : Assembly}

/-- The names of a type and of a reference are made from those of the one around it; without one,
from the namespace. Types list those directly in them, in the order of their rows. -/
theorem Built.namesCompose (h : a.Built) :
    (a.NestsProperly → ∀ t ∈ a.types,
      (t.enclosing = none → t.fullName = if t.ns = "" then t.name else t.ns ++ "." ++ t.name) ∧
      (∀ outer, t.enclosing = some outer → ∃ u, a.typeDef? outer = some u ∧
        t.fullName = u.fullName ++ "+" ++ t.name ∧ t.ns = u.ns) ∧
      t.nestedTypes = (a.types.toList.filter fun u ↦ a.typeAround? u = some t).map (·.token) ∧
      (a.types.size < 0x1000000 → t.nestedTypes.Pairwise fun x y ↦ x.toNat < y.toNat)) ∧
    ∀ ref ∈ a.typeRefs,
      (a.refAround? ref = none →
        ref.fullName = if ref.ns = "" then ref.name else ref.ns ++ "." ++ ref.name) ∧
      ∀ outer, a.refAround? ref = some outer → EndsWithin a.refAround? 64 ref →
        ref.fullName = outer.fullName ++ "+" ++ ref.name := by
  obtain ⟨d, hd, rfl⟩ := h
  constructor
  · intro hnests t ht
    refine ⟨fun hnone ↦ ?_, fun outer houter ↦ ?_, hd.nestedTypes_eq ht, hd.nestedTypes_rising ht⟩
    · rw [← Draft.qualified_eq]
      refine Draft.fullName_of_outermost ht ?_
      rw [Draft.outer?, hnone, Option.bind_none]
    · obtain ⟨u, hu⟩ := Option.isSome_iff_exists.1 (hnests.named t ht outer houter)
      have hin : d.build.typeAround? t = some u := by rw [typeAround?, houter, Option.bind_some, hu]
      exact ⟨u, hu, Draft.names_of_outer ht (hnests.endsWithin ht) (outer?_of_typeAround? hin)⟩
  · intro ref href
    have hname := Draft.fullName_typeRef href
    refine ⟨fun hnone ↦ ?_, fun outer houter hends ↦ ?_⟩
    · rw [hname, joinedName_of_none hnone, Draft.qualified_eq]
    · rw [hname, Draft.fullName_typeRef (mem_of_rowOf? houter)]
      exact joinedName_of_step hends houter

def innerFirst : Assembly :=
  ([Draft.Edit.addType "" "Leaf" 2 none, .addType "Own" "Middle" 2 none,
    .addType "App" "Outer" 1 none, .addType "" "Program" 1 none,
    .nest ⟨0x02000001⟩ ⟨0x02000002⟩, .nest ⟨0x02000002⟩ ⟨0x02000003⟩,
    .addTypeRef ⟨0x01000002⟩ "" "Enumerator",
    .addTypeRef ⟨0x23000001⟩ "System" "List"].foldl Draft.Edit.apply (.new "app")).build

theorem built_innerFirst : innerFirst.Built := ⟨_, .edits (.new "app") _, rfl⟩

theorem namesCompose_innerFirst :
    let a := innerFirst
    a.Built ∧ a.NestsProperly ∧
      a.types.toList.map (fun t ↦ (t.fullName, t.nestedTypes)) =
        [("App.Outer+Middle+Leaf", []), ("App.Outer+Middle", [⟨0x02000001⟩]),
          ("App.Outer", [⟨0x02000002⟩]), ("Program", [])] ∧
      a.typeRefs.toList.map TypeRef.fullName = ["System.List+Enumerator", "System.List"] ∧
      (∀ t ∈ a.types, ∀ outer, t.enclosing = some outer → ∃ u, a.typeDef? outer = some u ∧
        t.fullName = u.fullName ++ "+" ++ t.name ∧ t.ns = u.ns) ∧
      ∀ ref ∈ a.typeRefs, ∀ outer, a.refAround? ref = some outer →
        ref.fullName = outer.fullName ++ "+" ++ ref.name := by
  intro a
  have hproper : a.NestsProperly := by decide +kernel
  have hends : ∀ ref ∈ a.typeRefs, a.refAround? (walk a.refAround? 64 ref) = none := by
    decide +kernel
  obtain ⟨htypes, hrefs⟩ := built_innerFirst.namesCompose
  refine ⟨built_innerFirst, hproper, by decide +kernel, by decide +kernel, fun t ht ↦ ?_,
    fun ref href outer houter ↦ ?_⟩
  · exact (htypes hproper t ht).2.1
  · exact (hrefs ref href).2 outer houter (endsWithin_iff.2 (hends ref href))

end Assembly

namespace Draft

section Rows

variable {α : Type} {table : Table} {token : Token} {rows : Array α} {f : α → α}

theorem rowOf?_modifyRow : Assembly.rowOf? (modifyRow rows table token f) table token =
    (Assembly.rowOf? rows table token).map f := by
  rw [Assembly.rowOf?, Assembly.rowOf?, modifyRow]
  cases Assembly.place? token table with
  | none => rfl
  | some i => rw [Option.bind_some, Option.bind_some, Array.getElem?_modify, if_pos rfl]

theorem modifyRow_eq_self (h : ∀ row, Assembly.rowOf? rows table token = some row → f row = row) :
    modifyRow rows table token f = rows := by
  rw [modifyRow]
  split
  · next i hplace =>
    refine Array.ext_getElem? fun j ↦ ?_
    rw [Array.getElem?_modify]
    split
    · next hij =>
      subst hij
      rw [Assembly.rowOf?, hplace, Option.bind_some] at h
      cases hrow : rows[i]? with
      | none => rfl
      | some row => rw [Option.map_some, h row hrow]
    · rfl
  · rfl

theorem rowOf?_eq_none_congr {other : Array α} (h : rows.size = other.size) :
    Assembly.rowOf? rows table token = none ↔ Assembly.rowOf? other table token = none := by
  simp only [Assembly.rowOf?, Option.bind_eq_none_iff, Array.getElem?_eq_none_iff, h]

end Rows

variable {d : Draft} {inner outer : Token} {t u : TypeDef}

theorem enclosing_build (token : Token) : (d.build.typeDef? token).map TypeDef.enclosing =
    (d.rows.typeDef? token).map TypeDef.enclosing := by
  rw [Assembly.typeDef?, Assembly.typeDef?, Assembly.rowOf?, Assembly.rowOf?, Option.map_bind,
    Option.map_bind]
  congr 1
  funext i
  rw [Function.comp_apply, Function.comp_apply, build, Array.getElem?_mapIdx, Option.map_map]
  rfl

theorem enclosing_nest (d : Draft) (inner outer : Token) :
    ((d.nest inner outer).build.typeDef? inner).map TypeDef.enclosing =
      (d.rows.typeDef? inner).map fun _ ↦ some outer := by
  rw [enclosing_build, nest, modifyType, Assembly.typeDef?, rowOf?_modifyRow, Option.map_map]
  rfl

theorem nest_build_eq_iff : (d.nest inner outer).build = d.build ↔
    ∀ t, d.rows.typeDef? inner = some t → t.enclosing = some outer := by
  constructor
  · intro hsame t ht
    have henclosing := d.enclosing_nest inner outer
    rw [hsame, enclosing_build, ht, Option.map_some, Option.map_some, Option.some_inj] at henclosing
    exact henclosing
  · intro h
    rw [nest, modifyType, modifyRow_eq_self fun t ht ↦ by rw [← h t ht]]

theorem typeAround?_nest (houter : d.rows.typeDef? outer = none)
    (ht : (d.nest inner outer).build.typeDef? inner = some t) :
    t.enclosing = some outer ∧ (d.nest inner outer).build.typeAround? t = none := by
  have henclosing := d.enclosing_nest inner outer
  rw [ht, Option.map_some] at henclosing
  obtain ⟨_, _, henclosing⟩ := Option.map_eq_some_iff.1 henclosing.symm
  refine ⟨henclosing.symm, ?_⟩
  rw [Assembly.typeAround?, ← henclosing, Option.bind_some]
  refine (rowOf?_eq_none_congr ?_).1 houter
  rw [build, Array.size_mapIdx, nest, modifyType, size_modifyRow]

theorem Reachable.not_mem_nestedTypes (hd : d.Reachable) (hfew : d.build.types.size < 0x1000000)
    (ht : t ∈ d.build.types) (hu : u ∈ d.build.types) (halone : d.build.typeAround? t = none) :
    t.token ∉ u.nestedTypes := by
  rw [hd.nestedTypes_eq hu]
  intro hmem
  obtain ⟨w, hw, htoken⟩ := List.mem_map.1 hmem
  obtain ⟨hw, hin⟩ := List.mem_filter.1 hw
  have hsame := (numbered_build hd.rowsNumbered).types.eq_of_key hfew
    (Array.mem_toList_iff.1 hw) ht htoken
  rw [hsame, halone] at hin
  cases of_decide_eq_true hin

/-- Nesting looks at the table of the inner token only. In a type that does not exist, a type has a
link outwards that finds nothing and stands in no list of nested types; but its names are those of
a type nested in the one whose row has the number of the outer token, whatever the table. -/
theorem Reachable.nest_build (hd : d.Reachable) (inner outer : Token) :
    ((d.nest inner outer).build = d.build ↔
      ∀ t, d.rows.typeDef? inner = some t → t.enclosing = some outer) ∧
    (d.rows.typeDef? outer = none → ∀ t, (d.nest inner outer).build.typeDef? inner = some t →
      let a := (d.nest inner outer).build
      t.enclosing = some outer ∧ a.typeAround? t = none ∧
      (a.types.size < 0x1000000 → ∀ u ∈ a.types, t.token ∉ u.nestedTypes) ∧
      (outer.row = 0 ∨ a.types.size < outer.row → t.fullName = qualified t.ns t.name) ∧
      ∀ u, outer.row ≠ 0 → a.types[outer.row - 1]? = some u →
        (∃ n, EndsWithin (outer? a.types) n t) →
        t.fullName = u.fullName ++ "+" ++ t.name ∧ t.ns = u.ns) := by
  refine ⟨nest_build_eq_iff, fun houter t ht ↦ ?_⟩
  have hnested : (d.nest inner outer).Reachable := .edit (.nest inner outer) hd
  have hmem : t ∈ (d.nest inner outer).build.types := Assembly.mem_of_rowOf? ht
  obtain ⟨henclosing, halone⟩ := typeAround?_nest houter ht
  have hrow : outer? (d.nest inner outer).build.types t =
      if outer.isNull then none else (d.nest inner outer).build.types[outer.row - 1]? := by
    rw [outer?, henclosing, Option.bind_some]
  refine ⟨henclosing, halone, fun hfew u hu ↦ ?_, fun hstray ↦ ?_, fun u hpos hu hends ↦ ?_⟩
  · exact hnested.not_mem_nestedTypes hfew hmem hu halone
  · refine fullName_of_outermost hmem (hrow.trans ?_)
    split
    · rfl
    · next hnull =>
      rw [Token.isNull, beq_iff_eq] at hnull
      rw [Array.getElem?_eq_none_iff]
      omega
  · obtain ⟨n, hends⟩ := hends
    refine names_of_outer hmem hends (hrow.trans ?_)
    rw [Token.isNull, if_neg (by rwa [beq_iff_eq]), hu]

def sideBySide : Draft :=
  [Edit.addType "A" "X" 1 none, .addType "B" "Y" 1 none].foldl Edit.apply (.new "App")

theorem nest_build_inReference :
    let a := (sideBySide.nest ⟨0x02000002⟩ ⟨0x01000001⟩).build
    sideBySide.Reachable ∧ ∃ t u, a.typeDef? ⟨0x02000002⟩ = some t ∧
      a.typeDef? ⟨0x02000001⟩ = some u ∧ a.typeAround? t = none ∧ t.token ∉ u.nestedTypes ∧
        t.fullName = u.fullName ++ "+" ++ t.name ∧ t.ns = u.ns := by
  intro a
  have hd : sideBySide.Reachable := .edits (.new "App") _
  obtain ⟨_, hstray⟩ := hd.nest_build ⟨0x02000002⟩ ⟨0x01000001⟩
  obtain ⟨_, halone, hlists, _, hnames⟩ := hstray (by decide) a.types[1] rfl
  have hfew : a.types.size < 0x1000000 := by decide
  exact ⟨hd, a.types[1], a.types[0], rfl, rfl, halone, hlists hfew _ (Array.getElem_mem _),
    hnames _ (by decide) rfl ⟨1, .onward rfl (.here rfl)⟩⟩

/-- The outer token names no type, and yet the type is renamed. -/
theorem nest_build_ne_inReference :
    sideBySide.Reachable ∧ sideBySide.rows.typeDef? ⟨0x01000001⟩ = none ∧
      sideBySide.build.types.toList.map (fun t ↦ (t.fullName, t.enclosing, t.nestedTypes)) =
        [("A.X", none, []), ("B.Y", none, [])] ∧
      (sideBySide.nest ⟨0x02000002⟩ ⟨0x01000001⟩).build.types.toList.map
          (fun t ↦ (t.fullName, t.enclosing, t.nestedTypes)) =
        [("A.X", none, []), ("A.X+Y", some ⟨0x01000001⟩, [])] ∧
      (sideBySide.nest ⟨0x02000002⟩ ⟨0x01000001⟩).build ≠ sideBySide.build := by
  have hplain : sideBySide.build.types.toList.map
      (fun t ↦ (t.fullName, t.enclosing, t.nestedTypes)) =
        [("A.X", none, []), ("B.Y", none, [])] := by decide +kernel
  have hnested : (sideBySide.nest ⟨0x02000002⟩ ⟨0x01000001⟩).build.types.toList.map
      (fun t ↦ (t.fullName, t.enclosing, t.nestedTypes)) =
        [("A.X", none, []), ("A.X+Y", some ⟨0x01000001⟩, [])] := by decide +kernel
  refine ⟨.edits (.new "App") _, by decide, hplain, hnested, fun hsame ↦ ?_⟩
  rw [hsame, hplain] at hnested
  revert hnested
  decide

end Draft

end CliMetadata
