import CliMetadata.Assembly.Loading
import CliMetadata.Proofs.Assembly.Building

namespace CliMetadata.Loading

open Attempt Draft

variable {m : Metadata} {d loaded : Draft} {σ : Type} {table : Table} {owner : Token} {rid : Nat}

theorem forRows_run {P : Nat → σ → Prop} {step : Nat → σ → Except Error σ} {first count : Nat}
    {s t : σ}
    (hstep : ∀ rid s t, first ≤ rid → rid < first + count → P rid s → step rid s = .ok t →
      P (rid + 1) t)
    (hs : P first s) (h : forRows step first count s = .ok t) : P (first + count) t := by
  induction count generalizing first s with
  | zero =>
    cases h
    exact hs
  | succ count ih =>
    obtain ⟨u, hu, h⟩ := except_bind_eq_ok_iff.1 h
    have hnext := hstep first s u (Nat.le_refl first) (by omega) hs hu
    have hrest := ih (fun rid v w hlow hhigh ↦ hstep rid v w (by omega) (by omega)) hnext h
    rwa [Nat.add_right_comm] at hrest

theorem forRows_invariant {P : σ → Prop} {step : Nat → σ → Except Error σ}
    (hstep : ∀ rid s t, P s → step rid s = .ok t → P t) {first count : Nat} {s t : σ} (hs : P s)
    (h : forRows step first count s = .ok t) : P t :=
  forRows_run (P := fun _ ↦ P) (fun rid s t _ _ ↦ hstep rid s t) hs h

theorem forTable_run {P : Nat → σ → Prop} {step : Row → σ → Except Error σ} {s t : σ}
    (hstep : ∀ rid row s t, m.tables.row table rid = .ok row → P rid s → step row s = .ok t →
      P (rid + 1) t)
    (hs : P 1 s) (h : forTable m table step s = .ok t) : P (m.tables.rows table + 1) t := by
  have hrun := forRows_run (P := P) (fun rid u v _ _ hu hv ↦ ?_) hs h
  · rwa [Nat.add_comm] at hrun
  · obtain ⟨row, hrow, hv⟩ := except_bind_eq_ok_iff.1 hv
    exact hstep rid row u v hrow hu hv

theorem forTable_invariant {P : σ → Prop} {step : Row → σ → Except Error σ}
    (hstep : ∀ row s t, P s → step row s = .ok t → P t) {s t : σ} (hs : P s)
    (h : forTable m table step s = .ok t) : P t :=
  forTable_run (P := fun _ ↦ P) (fun _ row s t _ ↦ hstep row s t) hs h

theorem eq_of_expect {added : Token} {u : Unit} (h : expect added table rid = .ok u) :
    added = table.token rid := by
  rw [expect] at h
  split at h
  · assumption
  · cases h

theorem addField_ok (h : addField m owner rid d = .ok loaded) :
    ∃ row blob name, m.tables.row .field rid = .ok row ∧ m.blob (row.get 2) = .ok blob ∧
      m.string (row.get 1) = .ok name ∧
      nextToken .field d.rows.fields.size = Table.field.token rid ∧
      loaded = (d.addField owner name (row.get 0) (orElse .object Signature.fieldSig blob)).2 := by
  obtain ⟨row, hrow, h⟩ := except_bind_eq_ok_iff.1 h
  obtain ⟨blob, hblob, h⟩ := except_bind_eq_ok_iff.1 h
  obtain ⟨name, hname, h⟩ := except_bind_eq_ok_iff.1 h
  obtain ⟨_, hexpect, h⟩ := except_bind_eq_ok_iff.1 h
  cases h
  exact ⟨row, blob, name, hrow, hblob, hname, eq_of_expect hexpect, rfl⟩

theorem addProperty_ok (h : addProperty m owner rid d = .ok loaded) :
    ∃ row blob name, m.tables.row .property rid = .ok row ∧ m.blob (row.get 2) = .ok blob ∧
      m.string (row.get 1) = .ok name ∧
      nextToken .property d.rows.properties.size = Table.property.token rid ∧
      loaded = (d.addProperty owner name (row.get 0)
        (orElse plainProperty Signature.propertySig blob)).2 := by
  obtain ⟨row, hrow, h⟩ := except_bind_eq_ok_iff.1 h
  obtain ⟨blob, hblob, h⟩ := except_bind_eq_ok_iff.1 h
  obtain ⟨name, hname, h⟩ := except_bind_eq_ok_iff.1 h
  obtain ⟨_, hexpect, h⟩ := except_bind_eq_ok_iff.1 h
  cases h
  exact ⟨row, blob, name, hrow, hblob, hname, eq_of_expect hexpect, rfl⟩

theorem addEvent_ok (h : addEvent m owner rid d = .ok loaded) :
    ∃ row name, m.tables.row .event rid = .ok row ∧ m.string (row.get 1) = .ok name ∧
      nextToken .event d.rows.events.size = Table.event.token rid ∧
      loaded = (d.addEvent owner name (row.get 0) (some (row.token 2))).2 := by
  obtain ⟨row, hrow, h⟩ := except_bind_eq_ok_iff.1 h
  obtain ⟨name, hname, h⟩ := except_bind_eq_ok_iff.1 h
  obtain ⟨_, hexpect, h⟩ := except_bind_eq_ok_iff.1 h
  cases h
  exact ⟨row, name, hrow, hname, eq_of_expect hexpect, rfl⟩

def putMethod (d : Draft) (owner : Token) (method : MethodRow) (names : List String) : Draft :=
  let (token, d) := d.addMethod owner method.name method.flags method.signature
  let d := d.setImplFlags token method.implFlags
  let d := match method.body with
    | some code => d.setBody token code
    | none => d
  d.setParamNames token names

theorem addMethod_ok {methods : Array MethodRow} (h : addMethod m methods owner rid d = .ok loaded) :
    ∃ method names, 0 < rid ∧ methods[rid - 1]? = some method ∧
      nextToken .methodDef d.rows.methods.size = Table.methodDef.token rid ∧
      loaded = putMethod d owner method names := by
  rw [addMethod] at h
  split at h
  · cases h
  · next method hmethod =>
    split at hmethod
    · cases hmethod
    next hrid =>
    obtain ⟨_, hexpect, h⟩ := except_bind_eq_ok_iff.1 h
    obtain ⟨names, _, h⟩ := except_bind_eq_ok_iff.1 h
    cases h
    exact ⟨method, names, Nat.pos_of_ne_zero hrid, hmethod, eq_of_expect hexpect, rfl⟩

theorem methodRow_ok {row : Row} {method : MethodRow} (h : methodRow m row = .ok method) :
    ∃ blob, m.blob (row.get 4) = .ok blob ∧ m.string (row.get 3) = .ok method.name ∧
      method.flags = row.get 2 ∧ method.implFlags = row.get 1 ∧
      method.signature = orElse plainMethod Signature.methodSig blob ∧
      method.body = if row.get 0 = 0 ∨ row.get 1 % 4 = runtimeCode then none
        else (codeAt m (row.get 0)).toOption := by
  obtain ⟨blob, hblob, h⟩ := except_bind_eq_ok_iff.1 h
  obtain ⟨name, hname, h⟩ := except_bind_eq_ok_iff.1 h
  cases h
  exact ⟨blob, hblob, hname, rfl, rfl, rfl, rfl⟩

section Passes

variable {P : Draft → Prop}

theorem addReferences_invariant
    (hassembly : ∀ d name version, P d → P (d.addAssemblyRef name version).2)
    (htype : ∀ d scope ns name, P d → P (d.addTypeRef scope ns name).2) (hd : P d)
    (h : addReferences m d = .ok loaded) : P loaded := by
  obtain ⟨e, he, h⟩ := except_bind_eq_ok_iff.1 h
  have he : P e := by
    refine forTable_invariant (fun row u v hu hv ↦ ?_) hd he
    obtain ⟨name, _, hv⟩ := except_bind_eq_ok_iff.1 hv
    cases hv
    exact hassembly u name _ hu
  refine forTable_invariant (fun row u v hu hv ↦ ?_) he h
  obtain ⟨ns, _, hv⟩ := except_bind_eq_ok_iff.1 hv
  obtain ⟨name, _, hv⟩ := except_bind_eq_ok_iff.1 hv
  cases hv
  exact htype u _ ns name hu

theorem addTypes_invariant {types : Array Row}
    (htype : ∀ d ns name flags base, P d → P (d.addType ns name flags base).2) (hd : P d)
    (h : addTypes m d = .ok (loaded, types)) : P loaded := by
  have hall : P (loaded, types).1 := by
    refine forTable_invariant (P := fun s ↦ P s.1) (fun row u v hu hv ↦ ?_) hd h
    obtain ⟨ns, _, hv⟩ := except_bind_eq_ok_iff.1 hv
    obtain ⟨name, _, hv⟩ := except_bind_eq_ok_iff.1 hv
    cases hv
    exact htype u.1 ns name _ _ hu
  exact hall

theorem addMembers_run {P : Nat → Draft → Prop} {types : Array Row} {methods : Array MethodRow}
    (hstep : ∀ rid d e f fieldStop methodStop, 1 ≤ rid → rid ≤ types.size → P rid d →
      m.tables.listEnd .typeDef rid 4 .field = .ok fieldStop →
      m.tables.listEnd .typeDef rid 5 .methodDef = .ok methodStop →
      forRows (addField m (Table.typeDef.token rid)) ((types.getD (rid - 1) []).get 4)
        (fieldStop - (types.getD (rid - 1) []).get 4) d = .ok e →
      forRows (addMethod m methods (Table.typeDef.token rid)) ((types.getD (rid - 1) []).get 5)
        (methodStop - (types.getD (rid - 1) []).get 5) e = .ok f → P (rid + 1) f)
    (hd : P 1 d) (h : addMembers m types methods d = .ok loaded) : P (types.size + 1) loaded := by
  have hrun := forRows_run (P := P) (fun rid u v hlow hhigh hu hv ↦ ?_) hd h
  · rwa [Nat.add_comm] at hrun
  · obtain ⟨fieldStop, hfieldStop, hv⟩ := except_bind_eq_ok_iff.1 hv
    obtain ⟨w, hw, hv⟩ := except_bind_eq_ok_iff.1 hv
    obtain ⟨methodStop, hmethodStop, hv⟩ := except_bind_eq_ok_iff.1 hv
    exact hstep rid u w v fieldStop methodStop hlow (by omega) hu hfieldStop hmethodStop hw hv

theorem addRelations_invariant (hinterface : ∀ d type interface, P d → P (d.addInterface type interface))
    (hnest : ∀ d inner outer, P d → P (d.nest inner outer))
    (hparam : ∀ d owner name, P d → P (d.addGenericParam owner name)) (hd : P d)
    (h : addRelations m d = .ok loaded) : P loaded := by
  obtain ⟨e, he, h⟩ := except_bind_eq_ok_iff.1 h
  obtain ⟨f, hf, h⟩ := except_bind_eq_ok_iff.1 h
  obtain ⟨params, _, h⟩ := except_bind_eq_ok_iff.1 h
  cases h
  have he : P e := by
    refine forTable_invariant (fun row u v hu hv ↦ ?_) hd he
    cases hv
    exact hinterface u _ _ hu
  have hf : P f := by
    refine forTable_invariant (fun row u v hu hv ↦ ?_) he hf
    cases hv
    exact hnest u _ _ hu
  exact List.foldlRecOn params _ hf fun u hu p _ ↦ hparam u p.owner p.name hu

theorem addMapped_invariant {map target : Table} {add : Token → Nat → Draft → Except Error Draft}
    (hadd : ∀ owner rid u v, P u → add owner rid u = .ok v → P v) (hd : P d)
    (h : addMapped m map target add d = .ok loaded) : P loaded := by
  refine forRows_invariant (fun rid u v hu hv ↦ ?_) hd h
  obtain ⟨row, _, hv⟩ := except_bind_eq_ok_iff.1 hv
  obtain ⟨stop, _, hv⟩ := except_bind_eq_ok_iff.1 hv
  exact forRows_invariant (hadd _) hu hv

theorem addPropertiesAndEvents_invariant
    (hproperty : ∀ owner rid d e, P d → addProperty m owner rid d = .ok e → P e)
    (hevent : ∀ owner rid d e, P d → addEvent m owner rid d = .ok e → P e)
    (hsemantics : ∀ d owner method flags, P d → P (d.setSemantics owner method flags)) (hd : P d)
    (h : addPropertiesAndEvents m d = .ok loaded) : P loaded := by
  obtain ⟨e, he, h⟩ := except_bind_eq_ok_iff.1 h
  obtain ⟨f, hf, h⟩ := except_bind_eq_ok_iff.1 h
  have hmapped : P f := addMapped_invariant hevent (addMapped_invariant hproperty hd he) hf
  refine forTable_invariant (fun row u v hu hv ↦ ?_) hmapped h
  cases hv
  exact hsemantics u _ _ _ hu

theorem addSpecs_invariant
    (hmember : ∀ d parent name signature, P d → P (d.addMemberRef parent name signature).2)
    (htype : ∀ d signature, P d → P (d.addTypeSpec signature).2)
    (hmethod : ∀ d method args, P d → P (d.addMethodSpec method args).2) (hd : P d)
    (h : addSpecs m d = .ok loaded) : P loaded := by
  obtain ⟨e, he, h⟩ := except_bind_eq_ok_iff.1 h
  obtain ⟨f, hf, h⟩ := except_bind_eq_ok_iff.1 h
  have he : P e := by
    refine forTable_invariant (fun row u v hu hv ↦ ?_) hd he
    obtain ⟨blob, _, hv⟩ := except_bind_eq_ok_iff.1 hv
    obtain ⟨name, _, hv⟩ := except_bind_eq_ok_iff.1 hv
    cases hv
    exact hmember u _ name _ hu
  have hf : P f := by
    refine forTable_invariant (fun row u v hu hv ↦ ?_) he hf
    obtain ⟨blob, _, hv⟩ := except_bind_eq_ok_iff.1 hv
    cases hv
    exact htype u _ hu
  refine forTable_invariant (fun row u v hu hv ↦ ?_) hf h
  obtain ⟨blob, _, hv⟩ := except_bind_eq_ok_iff.1 hv
  cases hv
  exact hmethod u _ _ hu

end Passes

/-- How an assembly is loaded: the drafts behind the passes, the rows that one pass reads for
another, and the changes behind the last pass. -/
structure Stages (m : Metadata) (a : Assembly) where
  name : String
  moduleName : String
  mvid : Guid
  version : Version
  referring : Draft
  typed : Draft
  types : Array Row
  methods : Array MethodRow
  peopled : Draft
  related : Draft
  mapped : Draft
  specified : Draft
  headings : List Edit
  addReferences_eq : addReferences m
    ((((new name).setModuleName moduleName).setVersionId mvid).setVersion version) = .ok referring
  addTypes_eq : addTypes m referring = .ok (typed, types)
  methodRows_eq : methodRows m = .ok methods
  addMembers_eq : addMembers m types methods typed = .ok peopled
  addRelations_eq : addRelations m peopled = .ok related
  addPropertiesAndEvents_eq : addPropertiesAndEvents m related = .ok mapped
  addSpecs_eq : addSpecs m mapped = .ok specified
  heading : ∀ e ∈ headings, (∃ heap, e = .setUserStrings heap) ∨ ∃ t, e = .setEntryPoint t
  build_eq : (headings.foldl Edit.apply specified).build = a

theorem nonempty_stages {a : Assembly} (h : assembly m = .ok a) : Nonempty (Stages m a) := by
  by_cases hmodule : m.tables.rows .module = 0
  · rw [assembly, if_pos hmodule] at h
    cases h
  rw [assembly, if_neg hmodule] at h
  obtain ⟨_, _, h⟩ := except_bind_eq_ok_iff.1 h
  obtain ⟨moduleName, _, h⟩ := except_bind_eq_ok_iff.1 h
  obtain ⟨⟨name, version⟩, _, h⟩ := except_bind_eq_ok_iff.1 h
  obtain ⟨mvid, _, h⟩ := except_bind_eq_ok_iff.1 h
  obtain ⟨d₁, h₁, h⟩ := except_bind_eq_ok_iff.1 h
  obtain ⟨⟨d₂, types⟩, h₂, h⟩ := except_bind_eq_ok_iff.1 h
  obtain ⟨methods, hmethods, h⟩ := except_bind_eq_ok_iff.1 h
  obtain ⟨d₃, h₃, h⟩ := except_bind_eq_ok_iff.1 h
  obtain ⟨d₄, h₄, h⟩ := except_bind_eq_ok_iff.1 h
  obtain ⟨d₅, h₅, h⟩ := except_bind_eq_ok_iff.1 h
  obtain ⟨d₆, h₆, h⟩ := except_bind_eq_ok_iff.1 h
  have hentry (d : Draft) : ∃ edits : List Edit, (∀ e ∈ edits, ∃ t, e = .setEntryPoint t) ∧
      edits.foldl Edit.apply d = if m.header.entryPoint.isIn .methodDef
        && !m.header.entryPoint.isNull then d.setEntryPoint m.header.entryPoint else d := by
    split
    · exact ⟨[.setEntryPoint m.header.entryPoint], by simp, rfl⟩
    · exact ⟨[], by simp, rfl⟩
  have hheadings : ∃ edits : List Edit, (∀ e ∈ edits, (∃ heap, e = .setUserStrings heap) ∨
      ∃ t, e = .setEntryPoint t) ∧ (edits.foldl Edit.apply d₆).build = a := by
    split at h
    · obtain ⟨heap, _, h⟩ := except_bind_eq_ok_iff.1 h
      cases h
      obtain ⟨edits, hkind, hedits⟩ := hentry (d₆.setUserStrings heap)
      refine ⟨.setUserStrings heap :: edits, fun e he ↦ ?_, congrArg Draft.build hedits⟩
      exact (List.mem_cons.1 he).imp (⟨heap, ·⟩) (hkind e)
    · cases h
      obtain ⟨edits, hkind, hedits⟩ := hentry d₆
      exact ⟨edits, fun e he ↦ .inr (hkind e he), congrArg Draft.build hedits⟩
  obtain ⟨headings, hkind, hbuild⟩ := hheadings
  exact ⟨{
    name, moduleName, mvid, version, referring := d₁, typed := d₂, types, methods, peopled := d₃
    related := d₄, mapped := d₅, specified := d₆, headings
    addReferences_eq := h₁, addTypes_eq := h₂, methodRows_eq := hmethods, addMembers_eq := h₃
    addRelations_eq := h₄, addPropertiesAndEvents_eq := h₅, addSpecs_eq := h₆
    heading := hkind, build_eq := hbuild }⟩

namespace Stages

variable {a : Assembly} (s : Stages m a)

def start : Draft :=
  (((new s.name).setModuleName s.moduleName).setVersionId s.mvid).setVersion s.version

def headed : Draft := s.headings.foldl Edit.apply s.specified

theorem headed_invariant {P : Draft → Prop} (hstrings : ∀ d heap, P d → P (d.setUserStrings heap))
    (hentry : ∀ d t, P d → P (d.setEntryPoint t)) (hd : P s.specified) : P s.headed := by
  refine List.foldlRecOn s.headings _ hd fun d hd e he ↦ ?_
  obtain ⟨heap, rfl⟩ | ⟨t, rfl⟩ := s.heading e he
  · exact hstrings d heap hd
  · exact hentry d t hd

end Stages

end CliMetadata.Loading
