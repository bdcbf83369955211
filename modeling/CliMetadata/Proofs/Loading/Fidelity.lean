import CliMetadata.Proofs.Assembly.Loaded
import CliMetadata.Proofs.Loading.Members
import CliMetadata.Proofs.Table.Image

namespace CliMetadata

open Attempt Draft

namespace Loading

variable {m : Metadata} {base : Assembly} {fields methods : Nat → List Token} {d loaded : Draft}
  {owner : Token} {rid : Nat}

/-- A pass over a table that adds one row for each of its rows. The state is made from the rows that
were added. -/
theorem forTable_adds {α σ : Type} {table : Table} (tells : Row → α → Prop) (f : Array α → σ)
    {step : Row → σ → Except Error σ} {s t : σ} (hs : s = f #[])
    (h : forTable m table step s = .ok t)
    (hstep : ∀ row rows s, step row (f rows) = .ok s → ∃ x, tells row x ∧ s = f (rows.push x)) :
    ∃ rows, t = f rows ∧ rows.size = m.tables.rows table ∧ m.ReadFrom table tells rows := by
  have hrun := forTable_run (P := fun rid s ↦ ∃ rows, s = f rows ∧ rows.size + 1 = rid ∧
    m.ReadFrom table tells rows) ?_ ⟨#[], hs, rfl, EachRow.empty⟩ h
  · obtain ⟨rows, ht, hsize, hrows⟩ := hrun
    exact ⟨rows, ht, Nat.succ.inj hsize, hrows⟩
  · rintro rid row _ t hrow ⟨rows, rfl, rfl, hrows⟩ ht
    obtain ⟨x, hx, rfl⟩ := hstep row rows t ht
    exact ⟨rows.push x, rfl, by rw [Array.size_push], hrows.push hrow hx⟩

theorem addReferences_rows (hassembly : d.rows.assemblyRefs = #[]) (htype : d.rows.typeRefs = #[])
    (h : addReferences m d = .ok loaded) :
    ∃ assemblyRefs typeRefs, loaded = ⟨{ d.rows with assemblyRefs, typeRefs }⟩ ∧
      (assemblyRefs.size = m.tables.rows .assemblyRef ∧
        m.ReadFrom .assemblyRef m.TellsAssemblyRef assemblyRefs) ∧
      typeRefs.size = m.tables.rows .typeRef ∧ m.ReadFrom .typeRef m.TellsTypeRef typeRefs := by
  obtain ⟨e, he, h⟩ := except_bind_eq_ok_iff.1 h
  obtain ⟨assemblyRefs, rfl, hassemblies⟩ := forTable_adds m.TellsAssemblyRef
    (fun refs ↦ ⟨{ d.rows with assemblyRefs := refs }⟩) (by rw [← hassembly]) he
    fun row refs t ht ↦ by
      obtain ⟨name, hname, ht⟩ := except_bind_eq_ok_iff.1 ht
      cases ht
      exact ⟨_, ⟨rfl, hname⟩, rfl⟩
  obtain ⟨typeRefs, rfl, htypes⟩ := forTable_adds m.TellsTypeRef
    (fun refs ↦ ⟨{ d.rows with assemblyRefs, typeRefs := refs }⟩) (by rw [← htype]) h
    fun row refs t ht ↦ by
      obtain ⟨ns, hns, ht⟩ := except_bind_eq_ok_iff.1 ht
      obtain ⟨name, hname, ht⟩ := except_bind_eq_ok_iff.1 ht
      cases ht
      exact ⟨_, ⟨rfl, hname, hns⟩, rfl⟩
  exact ⟨assemblyRefs, typeRefs, rfl, hassemblies, htypes⟩

theorem filter_isNull (t : Token) :
    (some t).filter (fun t ↦ !t.isNull) = if t.isNull then none else some t := by
  cases h : t.isNull <;> simp [h]

theorem addTypes_rows {rows : Array Row} (htypes : d.rows.types = #[])
    (h : addTypes m d = .ok (loaded, rows)) :
    ∃ types, loaded = ⟨{ d.rows with types }⟩ ∧ types.size = m.tables.rows .typeDef ∧
      m.ReadFrom .typeDef m.TellsType types ∧
      EachRow (fun _ t ↦ t.fields = [] ∧ t.methods = []) types ∧
      rows.size = m.tables.rows .typeDef ∧
      EachRow (fun rid row ↦ m.tables.row .typeDef rid = .ok row) rows := by
  obtain ⟨pairs, hpairs, hsize, hread⟩ := forTable_adds
    (fun row pair ↦ m.TellsType row pair.1 ∧ pair.1.fields = [] ∧ pair.1.methods = [] ∧ pair.2 = row)
    (fun pairs ↦ (⟨{ d.rows with types := pairs.map Prod.fst }⟩, pairs.map Prod.snd))
    (by simp only [Array.map_empty, ← htypes]) h fun row pairs t ht ↦ by
      obtain ⟨ns, hns, ht⟩ := except_bind_eq_ok_iff.1 ht
      obtain ⟨name, hname, ht⟩ := except_bind_eq_ok_iff.1 ht
      cases ht
      let added : TypeDef :=
        { token := nextToken .typeDef (pairs.map Prod.fst).size, ns, name, flags := row.get 0
          base := (some (row.token 3)).filter fun b ↦ !b.isNull }
      refine ⟨(added, row), ⟨⟨hname, fun _ ↦ hns, rfl, filter_isNull _⟩, rfl, rfl, rfl⟩, ?_⟩
      simp only [Array.map_push]
      rfl
  cases hpairs
  refine ⟨pairs.map Prod.fst, rfl, by rw [Array.size_map, hsize], hread.map ?_, hread.map ?_,
    by rw [Array.size_map, hsize], hread.map ?_⟩
  · exact fun rid pair ⟨row, hrow, htells, _⟩ ↦ ⟨row, hrow, htells⟩
  · exact fun rid pair ⟨row, _, _, hfields, hmethods, _⟩ ↦ ⟨hfields, hmethods⟩
  · exact fun rid pair ⟨row, hrow, _, _, _, hsame⟩ ↦ hsame ▸ hrow

theorem methodRows_rows {rows : Array MethodRow} (h : methodRows m = .ok rows) :
    m.ReadFrom .methodDef (methodRow m · = .ok ·) rows := by
  obtain ⟨_, rfl, _, hread⟩ := forTable_adds (fun row method ↦ methodRow m row = .ok method) id
    rfl h
    fun row rows t ht ↦ by
      obtain ⟨method, hmethod, ht⟩ := except_bind_eq_ok_iff.1 ht
      cases ht
      exact ⟨method, hmethod, rfl⟩
  exact hread

namespace Defines

theorem addRelations (h : Defines m base fields methods d.rows)
    (hadd : addRelations m d = .ok loaded) : Defines m base fields methods loaded.rows := by
  refine addRelations_invariant (P := fun d ↦ Defines m base fields methods d.rows)
    (fun d type interface hd ↦ ?_) (fun d inner outer hd ↦ ?_) (fun d owner name hd ↦ ?_) h hadd
  · exact hd.modifyType type (fun _ _ hx ↦ { hx with }) fun _ ↦ ⟨rfl, rfl⟩
  · refine hd.modifyType inner (fun _ _ hx ↦ { hx with ns := fun hnone ↦ ?_ }) fun _ ↦ ⟨rfl, rfl⟩
    cases hnone
  · refine Defines.modifyMethod (hd.modifyType owner (fun _ _ hx ↦ ?_) fun _ ↦ ?_) owner
      fun _ _ hx ↦ ?_
    · exact { hx with }
    · exact ⟨rfl, rfl⟩
    · exact { hx with }

theorem addProperty (h : Defines m base fields methods d.rows)
    (hfew : m.tables.rows .property < 0x1000000)
    (hadd : addProperty m owner rid d = .ok loaded) :
    Defines m base fields methods loaded.rows := by
  obtain ⟨row, blob, name, hrow, hblob, hname, htoken, rfl⟩ := addProperty_ok hadd
  have hrid := Metadata.rid_eq_of_nextToken htoken hrow h.properties.size_le hfew
  rw [hrid] at hrow
  exact { h with
    types := h.types.modifyRow .typeDef owner fun _ _ hx ↦ { hx with }
    typeCount := (size_modifyRow .typeDef _ _).trans h.typeCount
    lists := h.lists.modifyRow .typeDef owner fun _ _ hx ↦ hx
    properties := h.properties.push hrow
      { name := hname, flags := rfl, signature := ⟨blob, hblob, Signature.reads_orElse ..⟩ } }

theorem addEvent (h : Defines m base fields methods d.rows)
    (hfew : m.tables.rows .event < 0x1000000) (hadd : addEvent m owner rid d = .ok loaded) :
    Defines m base fields methods loaded.rows := by
  obtain ⟨row, name, hrow, hname, htoken, rfl⟩ := addEvent_ok hadd
  have hrid := Metadata.rid_eq_of_nextToken htoken hrow h.events.size_le hfew
  rw [hrid] at hrow
  exact { h with
    types := h.types.modifyRow .typeDef owner fun _ _ hx ↦ { hx with }
    typeCount := (size_modifyRow .typeDef _ _).trans h.typeCount
    lists := h.lists.modifyRow .typeDef owner fun _ _ hx ↦ hx
    events := h.events.push hrow
      { name := hname, flags := rfl, eventType := filter_isNull _ } }

theorem setSemantics (h : Defines m base fields methods d.rows) (owner method : Token)
    (flags : Nat) : Defines m base fields methods (d.setSemantics owner method flags).rows := by
  refine { h with
    properties := h.properties.modifyRow .property owner fun row x hx ↦ ?_
    events := h.events.modifyRow .event owner fun row x hx ↦ ?_ }
  · split
    · exact { hx with }
    · split
      · exact { hx with }
      · exact hx
  · split
    · exact { hx with }
    · split
      · exact { hx with }
      · split
        · exact { hx with }
        · exact hx

theorem addPropertiesAndEvents (h : Defines m base fields methods d.rows)
    (hfew : ∀ table, m.tables.rows table < 0x1000000)
    (hadd : addPropertiesAndEvents m d = .ok loaded) :
    Defines m base fields methods loaded.rows :=
  addPropertiesAndEvents_invariant (P := fun d ↦ Defines m base fields methods d.rows)
    (fun _ _ _ _ hd ↦ hd.addProperty (hfew .property)) (fun _ _ _ _ hd ↦ hd.addEvent (hfew .event))
    (fun _ owner method flags hd ↦ hd.setSemantics owner method flags) h hadd

end Defines

theorem addSpecs_rows (hmembers : d.rows.memberRefs = #[]) (htypes : d.rows.typeSpecs = #[])
    (hmethods : d.rows.methodSpecs = #[]) (h : addSpecs m d = .ok loaded) :
    ∃ memberRefs typeSpecs methodSpecs,
      loaded = ⟨{ d.rows with memberRefs, typeSpecs, methodSpecs }⟩ ∧
      (memberRefs.size = m.tables.rows .memberRef ∧
        m.ReadFrom .memberRef m.TellsMemberRef memberRefs) ∧
      (typeSpecs.size = m.tables.rows .typeSpec ∧ m.ReadFrom .typeSpec m.TellsTypeSpec typeSpecs) ∧
      methodSpecs.size = m.tables.rows .methodSpec ∧
        m.ReadFrom .methodSpec m.TellsMethodSpec methodSpecs := by
  obtain ⟨e, he, h⟩ := except_bind_eq_ok_iff.1 h
  obtain ⟨f, hf, h⟩ := except_bind_eq_ok_iff.1 h
  obtain ⟨memberRefs, rfl, hmemberRefs⟩ := forTable_adds m.TellsMemberRef
    (fun refs ↦ ⟨{ d.rows with memberRefs := refs }⟩) (by rw [← hmembers]) he
    fun row refs t ht ↦ by
      obtain ⟨blob, hblob, ht⟩ := except_bind_eq_ok_iff.1 ht
      obtain ⟨name, hname, ht⟩ := except_bind_eq_ok_iff.1 ht
      cases ht
      exact ⟨_, ⟨rfl, hname, blob, hblob, Signature.readsReference_referenceSig blob⟩, rfl⟩
  obtain ⟨typeSpecs, rfl, htypeSpecs⟩ := forTable_adds m.TellsTypeSpec
    (fun specs ↦ ⟨{ d.rows with memberRefs, typeSpecs := specs }⟩) (by rw [← htypes]) hf
    fun row specs t ht ↦ by
      obtain ⟨blob, hblob, ht⟩ := except_bind_eq_ok_iff.1 ht
      cases ht
      exact ⟨_, ⟨blob, hblob, Signature.reads_orElse ..⟩, rfl⟩
  obtain ⟨methodSpecs, rfl, hmethodSpecs⟩ := forTable_adds m.TellsMethodSpec
    (fun specs ↦ ⟨{ d.rows with memberRefs, typeSpecs, methodSpecs := specs }⟩)
    (by rw [← hmethods]) h fun row specs t ht ↦ by
      obtain ⟨blob, hblob, ht⟩ := except_bind_eq_ok_iff.1 ht
      cases ht
      exact ⟨_, ⟨rfl, blob, hblob, Signature.reads_orElse ..⟩, rfl⟩
  exact ⟨memberRefs, typeSpecs, methodSpecs, rfl, hmemberRefs, htypeSpecs, hmethodSpecs⟩

theorem ns_typeNames {types : Array TypeDef} {t : TypeDef} (h : t.enclosing = none) (depth : Nat) :
    (typeNames types depth t).2 = t.ns := by
  cases depth with
  | zero => rfl
  | succ depth => simp [typeNames, outer?, h]

theorem tellsType_completeType {row : Row} {t : TypeDef} (h : m.TellsType row t)
    (types : Array TypeDef) (i : Nat) : m.TellsType row (completeType types i t) := by
  refine { h with ns := fun hnone ↦ ?_ }
  have houter : t.enclosing = none := hnone
  have hns : (completeType types i t).ns = t.ns := ns_typeNames houter types.size
  rw [hns]
  exact h.ns houter

/-- References and specifications as their rows tell them, and all of them. -/
structure Refers (m : Metadata) (a : Assembly) : Prop where
  assemblyRefCount : a.assemblyRefs.size = m.tables.rows .assemblyRef
  assemblyRefs : m.ReadFrom .assemblyRef m.TellsAssemblyRef a.assemblyRefs
  typeRefCount : a.typeRefs.size = m.tables.rows .typeRef
  typeRefs : m.ReadFrom .typeRef m.TellsTypeRef a.typeRefs
  memberRefCount : a.memberRefs.size = m.tables.rows .memberRef
  memberRefs : m.ReadFrom .memberRef m.TellsMemberRef a.memberRefs
  typeSpecCount : a.typeSpecs.size = m.tables.rows .typeSpec
  typeSpecs : m.ReadFrom .typeSpec m.TellsTypeSpec a.typeSpecs
  methodSpecCount : a.methodSpecs.size = m.tables.rows .methodSpec
  methodSpecs : m.ReadFrom .methodSpec m.TellsMethodSpec a.methodSpecs

/-- Building completes the names of types and references, and nothing that rows tell. -/
theorem mirrors_build
    (hdefines : Defines m base (listedBelow m 4 .field (m.tables.rows .typeDef + 1))
      (listedBelow m 5 .methodDef (m.tables.rows .typeDef + 1)) d.rows)
    (hrefers : Refers m d.rows) (hnumbered : d.build.RowsNumbered)
    (hfew : ∀ table, m.tables.rows table < 0x1000000) : d.build.Mirrors m := by
  have htypes : m.ReadFrom .typeDef m.TellsType d.build.types :=
    hdefines.types.mapIdx fun i t ⟨row, hrow, ht⟩ ↦ ⟨row, hrow, tellsType_completeType ht _ i⟩
  have hlists : EachRow (fun rid t ↦
      t.fields = listedBelow m 4 .field (m.tables.rows .typeDef + 1) rid ∧
      t.methods = listedBelow m 5 .methodDef (m.tables.rows .typeDef + 1) rid) d.build.types :=
    hdefines.lists.mapIdx fun _ _ ht ↦ ht
  have htypeRefs : m.ReadFrom .typeRef m.TellsTypeRef d.build.typeRefs :=
    hrefers.typeRefs.map fun _ _ ⟨row, hrow, ht⟩ ↦ ⟨row, hrow, { ht with }⟩
  have hcount : d.build.types.size = m.tables.rows .typeDef :=
    Array.size_mapIdx.trans hdefines.typeCount
  exact {
    types := htypes.shows hnumbered.types (hfew _)
    methods := hdefines.methods.shows hnumbered.methods (hfew _)
    fields := hdefines.fields.shows hnumbered.fields (hfew _)
    properties := hdefines.properties.shows hnumbered.properties (hfew _)
    events := hdefines.events.shows hnumbered.events (hfew _)
    typeRefs := htypeRefs.shows hnumbered.typeRefs (hfew _)
    memberRefs := hrefers.memberRefs.shows hnumbered.memberRefs (hfew _)
    typeSpecs := hrefers.typeSpecs.shows hnumbered.typeSpecs (hfew _)
    methodSpecs := hrefers.methodSpecs.shows hnumbered.methodSpecs (hfew _)
    assemblyRefs := hrefers.assemblyRefs.shows hnumbered.assemblyRefs (hfew _)
    typeCount := hcount
    typeRefCount := Array.size_map.trans hrefers.typeRefCount
    memberRefCount := hrefers.memberRefCount
    typeSpecCount := hrefers.typeSpecCount
    methodSpecCount := hrefers.methodSpecCount
    assemblyRefCount := hrefers.assemblyRefCount
    lists := fun rid t hpos hle hfound ↦ by
      have hboth := hlists.of_rowOf? (Nat.lt_of_le_of_lt htypes.size_le (hfew .typeDef)) hpos hle
        hfound
      rwa [listedBelow, listedBelow, if_pos (by omega), if_pos (by omega)] at hboth }

namespace Stages

variable {a : Assembly} (s : Stages m a)

theorem defines_mapped (hfew : ∀ table, m.tables.rows table < 0x1000000) :
    Defines m s.referring.rows (listedBelow m 4 .field (m.tables.rows .typeDef + 1))
      (listedBelow m 5 .methodDef (m.tables.rows .typeDef + 1)) s.mapped.rows := by
  obtain ⟨assemblyRefs, typeRefs, hreferring, _⟩ :=
    addReferences_rows (d := s.start) rfl rfl s.addReferences_eq
  obtain ⟨types, htyped, hcount, htypes, hnone, hsize, hrows⟩ :=
    addTypes_rows (by rw [hreferring]; rfl) s.addTypes_eq
  have hstart : Defines m s.referring.rows (listedBelow m 4 .field 1) (listedBelow m 5 .methodDef 1)
      s.typed.rows := by
    rw [htyped, hreferring]
    exact {
      types := htypes, typeCount := hcount
      lists := fun i t ht ↦ (hnone i t ht).imp
        (·.trans (if_neg (by omega)).symm) (·.trans (if_neg (by omega)).symm)
      methods := .empty, fields := .empty, properties := .empty, events := .empty
      typeRefs := rfl, memberRefs := rfl, typeSpecs := rfl, methodSpecs := rfl
      assemblyRefs := rfl }
  have hpeopled := defines_addMembers hstart hrows (methodRows_rows s.methodRows_eq) hfew
    s.addMembers_eq
  rw [hsize] at hpeopled
  exact (hpeopled.addRelations s.addRelations_eq).addPropertiesAndEvents hfew
    s.addPropertiesAndEvents_eq

theorem refers_specified (hfew : ∀ table, m.tables.rows table < 0x1000000) :
    Defines m s.specified.rows (listedBelow m 4 .field (m.tables.rows .typeDef + 1))
      (listedBelow m 5 .methodDef (m.tables.rows .typeDef + 1)) s.specified.rows ∧
    Refers m s.specified.rows := by
  have hmapped := s.defines_mapped hfew
  obtain ⟨assemblyRefs, typeRefs, hreferring, hassemblyRefs, htypeRefs⟩ :=
    addReferences_rows (d := s.start) rfl rfl s.addReferences_eq
  obtain ⟨memberRefs, typeSpecs, methodSpecs, hspecified, hmemberRefs, htypeSpecs, hmethodSpecs⟩ :=
    addSpecs_rows (hmapped.memberRefs.trans (by rw [hreferring]; rfl))
      (hmapped.typeSpecs.trans (by rw [hreferring]; rfl))
      (hmapped.methodSpecs.trans (by rw [hreferring]; rfl)) s.addSpecs_eq
  have hassemblies : s.mapped.rows.assemblyRefs = assemblyRefs :=
    hmapped.assemblyRefs.trans (by rw [hreferring])
  have hreferences : s.mapped.rows.typeRefs = typeRefs :=
    hmapped.typeRefs.trans (by rw [hreferring])
  rw [hspecified]
  constructor
  · exact { hmapped with
      typeRefs := rfl, memberRefs := rfl, typeSpecs := rfl, methodSpecs := rfl, assemblyRefs := rfl }
  · exact {
      assemblyRefCount := (congrArg Array.size hassemblies).trans hassemblyRefs.1
      assemblyRefs := hassemblies ▸ hassemblyRefs.2
      typeRefCount := (congrArg Array.size hreferences).trans htypeRefs.1
      typeRefs := hreferences ▸ htypeRefs.2
      memberRefCount := hmemberRefs.1, memberRefs := hmemberRefs.2
      typeSpecCount := htypeSpecs.1, typeSpecs := htypeSpecs.2
      methodSpecCount := hmethodSpecs.1, methodSpecs := hmethodSpecs.2 }

include s in
theorem mirrors (hfew : ∀ table, m.tables.rows table < 0x1000000) : a.Mirrors m := by
  obtain ⟨hdefines, hrefers⟩ := s.headed_invariant
    (P := fun e ↦ Defines m s.specified.rows (listedBelow m 4 .field (m.tables.rows .typeDef + 1))
      (listedBelow m 5 .methodDef (m.tables.rows .typeDef + 1)) e.rows ∧ Refers m e.rows)
    (fun _ _ h ↦ ⟨{ h.1 with }, { h.2 with }⟩) (fun _ _ h ↦ ⟨{ h.1 with }, { h.2 with }⟩)
    (s.refers_specified hfew)
  rw [← s.build_eq]
  exact mirrors_build hdefines hrefers (numbered_build s.reachable_headed.rowsNumbered) hfew

end Stages

end Loading

/-- What is loaded from an image mirrors the tables of the image, as long as tokens have room for
the numbers of the rows. -/
theorem Assembly.mirrors_ofImage {data : Bytes} {a : Assembly} (h : ofImage data = .ok a) :
    ∃ image m, Image.read data = .ok image ∧ Metadata.ofImage image = .ok m ∧
      ((∀ table, m.tables.rows table < 0x1000000) → a.Mirrors m) := by
  obtain ⟨image, himage, h⟩ := except_bind_eq_ok_iff.1 h
  obtain ⟨m, hm, h⟩ := except_bind_eq_ok_iff.1 h
  obtain ⟨s⟩ := Loading.nonempty_stages h
  exact ⟨image, m, himage, hm, s.mirrors⟩

namespace Image

def padded (length : Nat) (bytes : List UInt8) : List UInt8 :=
  bytes ++ List.replicate (length - bytes.length) 0

def numbers (width : Nat) (values : List Nat) : List UInt8 := values.flatMap (toLittleEndian width)

def ascii (text : String) : List UInt8 := text.toList.map fun c ↦ UInt8.ofNat c.toNat

def metadataBlock (tables : TableImage) (names : List UInt8) : List UInt8 :=
  numbers 4 [MetadataRoot.magic] ++ numbers 2 [1, 1] ++ numbers 4 [0, 4] ++ padded 4 (ascii "v4")
    ++ numbers 2 [0, 2] ++ numbers 4 [56, tables.bytes.length] ++ padded 4 (ascii "#~")
    ++ numbers 4 [56 + tables.bytes.length, names.length] ++ padded 12 (ascii "#Strings")
    ++ tables.bytes ++ names

def file (block : List UInt8) : Bytes :=
  let text := padded 72 (numbers 4 [72] ++ numbers 2 [2, 5]
    ++ numbers 4 [0x2048, block.length, 1]) ++ block
  let legacy := padded 0x80 (padded 0x3C (ascii "MZ") ++ numbers 4 [0x80])
  let header := padded 4 (ascii "PE") ++ numbers 2 [0x14C, 1] ++ numbers 4 [0, 0, 0]
    ++ numbers 2 [0xE0, 0x2102]
  let optional := numbers 2 [0x10B, 8]
    ++ numbers 4 [0x200, 0, 0, 0, 0x2000, 0, 0x400000, 0x2000, 0x200]
    ++ numbers 2 [4, 0, 0, 0, 4, 0] ++ numbers 4 [0, 0x4000, 0x200, 0] ++ numbers 2 [3, 0x8540]
    ++ numbers 4 [0x100000, 0x1000, 0x100000, 0x1000, 0, 16]
    ++ padded 128 (padded 112 [] ++ numbers 4 [0x2000, 72])
  let sections := padded 8 (ascii ".text")
    ++ numbers 4 [text.length, 0x2000, 0x200, 0x200, 0, 0, 0, 0x60000020]
  (padded 0x400 (padded 0x200 (legacy ++ header ++ optional ++ sections) ++ text)).toArray

def fieldsFrom (start : Nat) : Bytes :=
  file (metadataBlock
    { valid := 0x55
      rows := fun
        | .module => [[.number 0, .number 1, .number 0, .number 0, .number 0]]
        | .typeDef => [[.number 1, .number 3, .number 0, .coded .typeDefOrRef .typeDef 0 0,
            .number start, .number 1]]
        | .field => [[.number 0x16, .number 5, .number 0], [.number 0x16, .number 5, .number 0]]
        | .methodDef => [[.number 0, .number 0, .number 0x16, .number 5, .number 0, .number 1]]
        | _ => [] }
    [0, 77, 0, 84, 0, 102, 0])

end Image

theorem Table.mem_all (table : Table) : table ∈ Table.all := by cases table <;> decide

instance {α : Type} (x : Except Error α) (P : α → Prop) [DecidablePred P] :
    Decidable (∃ a, x = .ok a ∧ P a) :=
  match x with
  | .ok a => decidable_of_iff (P a)
    ⟨fun h ↦ ⟨a, rfl, h⟩, fun ⟨_, h, hP⟩ ↦ Except.ok.inj h ▸ hP⟩
  | .error _ => .isFalse fun ⟨_, h, _⟩ ↦ nomatch h

theorem exists_fieldsFrom_three :
    ∃ image, Image.read (Image.fieldsFrom 3) = .ok image ∧ ∃ m, Metadata.ofImage image = .ok m ∧
      (∀ table ∈ Table.all, m.tables.rows table < 0x1000000) ∧ m.tables.rows .typeDef = 1 ∧
      m.tables.rows .field = 2 ∧ m.listStart 4 .field 1 = 3 ∧
      ∃ a, Loading.assembly m = .ok a ∧ a.fields.size = 0 ∧ a.methods.size = 1 := by
  decide +kernel

theorem Assembly.mirrors_ofImage_fieldsFrom :
    ∃ a m, ofImage (Image.fieldsFrom 3) = .ok a ∧ a.methods.size = 1 ∧ a.Mirrors m := by
  obtain ⟨image, himage, m, hm, hfew, _, _, _, a, ha, _, hmethods⟩ := exists_fieldsFrom_three
  have hload : ofImage (Image.fieldsFrom 3) = .ok a := (ofImage_eq himage hm).trans ha
  obtain ⟨_, n, hagain, hn, hmirrors⟩ := mirrors_ofImage hload
  cases himage.symm.trans hagain
  cases hm.symm.trans hn
  exact ⟨a, m, hload, hmethods, hmirrors fun table ↦ hfew table table.mem_all⟩

end CliMetadata
