import CliMetadata.Proofs.Assembly.Outward

namespace CliMetadata

namespace Draft

variable {types : Array TypeDef} {i : Nat} {t s : TypeDef}

/-- The types with the names and nested types that follow from all of them. -/
def completed (types : Array TypeDef) : Array TypeDef := types.mapIdx (completeType types)

def outermost (types : Array TypeDef) (t : TypeDef) : TypeDef := walk (outer? types) types.size t

theorem getElem?_completed : (completed types)[i]? = types[i]?.map (completeType types i) :=
  Array.getElem?_mapIdx

theorem size_completed : (completed types).size = types.size := Array.size_mapIdx

theorem completeType_eq : completeType types i t = { t with
    fullName := joinedName (outer? types) (fun u ↦ qualified u.ns u.name) TypeDef.name types.size t
    ns := (outermost types t).ns
    nestedTypes := nestedIn types i } := by
  rw [completeType, typeNames_eq]
  rfl

def CompletesTo (types : Array TypeDef) (t s : TypeDef) : Prop := ∃ i, s = completeType types i t

namespace CompletesTo

theorem name (h : CompletesTo types t s) : s.name = t.name := by
  obtain ⟨i, rfl⟩ := h
  rfl

theorem ns (h : CompletesTo types t s) : s.ns = (outermost types t).ns := by
  obtain ⟨i, rfl⟩ := h
  rw [completeType_eq]

theorem enclosing (h : CompletesTo types t s) : s.enclosing = t.enclosing := by
  obtain ⟨i, rfl⟩ := h
  rfl

theorem outer? (h : CompletesTo types t s) :
    Option.Rel (CompletesTo types) (Draft.outer? types t) (Draft.outer? (completed types) s) := by
  rw [Draft.outer?, Draft.outer?, h.enclosing]
  cases t.enclosing with
  | none => exact .none
  | some token =>
    rw [Option.bind_some, Option.bind_some, getElem?_completed]
    split
    · exact .none
    · cases types[token.row - 1]? with
      | none => exact .none
      | some u => exact .some ⟨_, rfl⟩

theorem outermost (h : CompletesTo types t s) :
    CompletesTo types (Draft.outermost types t) (Draft.outermost (completed types) s) := by
  rw [Draft.outermost, Draft.outermost, size_completed]
  exact walk_congr (fun _ _ ↦ CompletesTo.outer?) h types.size

theorem ns_outermost (h : CompletesTo types t s) {n : Nat}
    (hends : EndsWithin (Draft.outer? (completed types)) n s) (hs : s ∈ completed types) :
    (Draft.outermost (completed types) s).ns = s.ns := by
  have hend : Draft.outer? types (Draft.outermost types t) = none := by
    have hlast := endsWithin_iff.1 (endsWithin_size hends hs)
    have hrel := h.outermost.outer?
    rw [← Draft.outermost] at hlast
    rw [hlast] at hrel
    match Draft.outer? types (Draft.outermost types t), hrel with
    | _, .none => rfl
  rw [h.outermost.ns, h.ns, Draft.outermost, walk_of_none hend]

end CompletesTo

theorem nestedIn_completed : nestedIn (completed types) i = nestedIn types i := by
  have hkept : (completed types).toList.map (fun t ↦ (t.enclosing, t.token)) =
      types.toList.map fun t ↦ (t.enclosing, t.token) := by
    refine List.ext_getElem? fun j ↦ ?_
    rw [List.getElem?_map, List.getElem?_map, Array.getElem?_toList, Array.getElem?_toList,
      getElem?_completed, Option.map_map]
    rfl
  have hnested (types : Array TypeDef) : nestedIn types i =
      ((types.toList.map fun t ↦ (t.enclosing, t.token)).filter fun entry ↦
        entry.1.bind (Assembly.place? · .typeDef) == some i).map Prod.snd := by
    rw [nestedIn, List.filter_map, List.map_map]
    rfl
  rw [hnested, hnested, hkept]

/-- Full names can only differ by the namespace of the type where the walk ends. -/
theorem joinedName_completed (h : CompletesTo types t s)
    (hns : (outermost (completed types) s).ns = s.ns) :
    joinedName (outer? (completed types)) (fun u ↦ qualified u.ns u.name) TypeDef.name
        (completed types).size s =
      joinedName (outer? types) (fun u ↦ qualified u.ns u.name) TypeDef.name types.size t := by
  rw [size_completed]
  refine (joinedName_congr (fun _ _ ↦ CompletesTo.outer?) (fun _ _ hof ↦ hof.name.symm) h _ ?_).symm
  rw [← outermost, ← size_completed, ← outermost, hns, h.ns, h.outermost.name]

/-- The second build changes a type only where its namespace is not the one where its walk ends. -/
theorem completeType_completed_iff (h : s = completeType types i t) :
    completeType (completed types) i s = s ↔ (outermost (completed types) s).ns = s.ns := by
  have hof : CompletesTo types t s := ⟨i, h⟩
  constructor
  · intro hsame
    have hns := congrArg TypeDef.ns hsame
    rwa [completeType_eq] at hns
  · intro hns
    rw [completeType_eq, nestedIn_completed, joinedName_completed hof hns, hns]
    rw [completeType_eq] at h
    rw [h]

theorem completeTypeRef_completed (refs : Array TypeRef) (ref : TypeRef) :
    completeTypeRef (refs.map (completeTypeRef refs)) (completeTypeRef refs ref) =
      completeTypeRef refs ref := by
  have hscope (x y : TypeRef) (h : y = completeTypeRef refs x) :
      Option.Rel (fun x y ↦ y = completeTypeRef refs x) (scopeIn? refs x)
        (scopeIn? (refs.map (completeTypeRef refs)) y) := by
    subst h
    have hscopes : scopeIn? (refs.map (completeTypeRef refs)) (completeTypeRef refs x) =
        (scopeIn? refs x).map (completeTypeRef refs) := by
      simp only [scopeIn?, Assembly.rowOf?, completeTypeRef, Array.getElem?_map,
        Option.map_bind, Function.comp_def]
    rw [hscopes]
    cases scopeIn? refs x with
    | none => exact .none
    | some outer => exact .some rfl
  have hsame : typeRefName (refs.map (completeTypeRef refs)) scopeLimit (completeTypeRef refs ref) =
      typeRefName refs scopeLimit ref := by
    rw [typeRefName_eq, typeRefName_eq]
    refine (joinedName_congr hscope (fun x y h ↦ h ▸ rfl) rfl _ ?_).symm
    rw [walk_congr hscope rfl scopeLimit]
    rfl
  conv_lhs => rw [completeTypeRef, hsame]
  rfl

end Draft

namespace Assembly

/-- The assembly that comes of taking up the work on another and changing nothing. -/
def rebuilt (a : Assembly) : Assembly := (Draft.ofAssembly a).build

end Assembly

namespace Draft

variable (d : Draft)

theorem rebuilt_build : d.build.rebuilt = { d.build with types := d.build.rebuilt.types } := by
  have hrefs : d.build.rebuilt.typeRefs = d.build.typeRefs := by
    refine Array.ext_getElem? fun i ↦ ?_
    rw [Assembly.rebuilt, build, ofAssembly, build, Array.getElem?_map, Array.getElem?_map,
      Option.map_map]
    exact congrArg (Option.map · _) (funext (completeTypeRef_completed d.rows.typeRefs))
  calc d.build.rebuilt
    _ = { d.build with types := d.build.rebuilt.types, typeRefs := d.build.rebuilt.typeRefs } := rfl
    _ = { d.build with types := d.build.rebuilt.types } := by rw [hrefs]

theorem nestedTypes_of_place {i : Nat} {t : TypeDef} (hi : d.build.types[i]? = some t) :
    t.nestedTypes = nestedIn d.build.types i := by
  obtain ⟨row, _, rfl⟩ := exists_row_of_type hi
  have hkept : nestedIn d.build.types i = nestedIn d.rows.types i := nestedIn_completed
  rw [hkept, completeType_eq]

theorem getElem?_rebuilt {i : Nat} {t u : TypeDef} (ht : d.build.types[i]? = some t)
    (hu : d.build.rebuilt.types[i]? = some u) :
    u = completeType d.build.types i t ∧ ∃ row, t = completeType d.rows.types i row := by
  obtain ⟨_, hsame, hu⟩ := exists_row_of_type hu
  cases ht.symm.trans hsame
  obtain ⟨row, _, hrow⟩ := exists_row_of_type ht
  exact ⟨hu, row, hrow⟩

/-- A second build changes nothing but the namespaces and full names of types whose walk outwards
goes in a circle. It changes nothing at all if, and only if, every type has the namespace of the
type where its walk ends or is cut off. -/
theorem rebuilt_build_eq_iff :
    d.build.rebuilt = { d.build with types := d.build.rebuilt.types } ∧
      d.build.rebuilt.types.size = d.build.types.size ∧
      (∀ (i : Nat) (t u : TypeDef), d.build.types[i]? = some t →
        d.build.rebuilt.types[i]? = some u →
        u = { t with ns := (outermost d.build.types t).ns, fullName := u.fullName } ∧
          ((∃ n, EndsWithin (outer? d.build.types) n t) → u = t)) ∧
      (d.build.rebuilt = d.build ↔ ∀ t ∈ d.build.types, (outermost d.build.types t).ns = t.ns) := by
  have hsize : d.build.rebuilt.types.size = d.build.types.size := size_completed
  refine ⟨d.rebuilt_build, hsize, fun i t u ht hu ↦ ?_, fun hsame t ht ↦ ?_, fun hns ↦ ?_⟩
  · obtain ⟨rfl, row, hrow⟩ := d.getElem?_rebuilt ht hu
    refine ⟨?_, fun ⟨n, hends⟩ ↦ ?_⟩
    · rw [completeType_eq, ← d.nestedTypes_of_place ht]
    · refine (completeType_completed_iff hrow).2 (CompletesTo.ns_outermost ⟨i, hrow⟩ hends ?_)
      exact Array.mem_of_getElem? ht
  · obtain ⟨i, hi⟩ := Array.mem_iff_getElem?.1 ht
    obtain ⟨hagain, row, hrow⟩ := d.getElem?_rebuilt hi (hsame ▸ hi)
    exact (completeType_completed_iff hrow).1 hagain.symm
  · have htypes : d.build.rebuilt.types = d.build.types := by
      refine Array.ext_getElem? fun i ↦ ?_
      have hrows : d.build.rebuilt.types[i]? =
          d.build.types[i]?.map (completeType d.build.types i) := getElem?_completed
      rw [hrows]
      cases ht : d.build.types[i]? with
      | none => rfl
      | some t =>
        obtain ⟨row, _, hrow⟩ := exists_row_of_type ht
        exact congrArg some ((completeType_completed_iff hrow).2 (hns t (Array.mem_of_getElem? ht)))
    rw [rebuilt_build, htypes]

def nestedInEachOther : Draft :=
  [Edit.addType "A" "X" 2 none, .addType "B" "Y" 2 none, .addType "C" "Z" 1 none,
    .nest ⟨0x02000001⟩ ⟨0x02000002⟩, .nest ⟨0x02000002⟩ ⟨0x02000001⟩].foldl Edit.apply (.new "App")

/-- Walks in a circle are cut off after three steps, at the other type: each of the types takes
over the namespace of the other, and with the next build gives it back. -/
theorem rebuilt_build_ne_nestedInEachOther :
    nestedInEachOther.Reachable ∧
      nestedInEachOther.build.types.toList.map (fun t ↦ (t.ns, t.fullName)) =
        [("B", "B.Y+X+Y+X"), ("A", "A.X+Y+X+Y"), ("C", "C.Z")] ∧
      nestedInEachOther.build.rebuilt.types.toList.map (fun t ↦ (t.ns, t.fullName)) =
        [("A", "A.Y+X+Y+X"), ("B", "B.X+Y+X+Y"), ("C", "C.Z")] ∧
      nestedInEachOther.build.rebuilt ≠ nestedInEachOther.build := by
  have hfirst : nestedInEachOther.build.types.toList.map (fun t ↦ (t.ns, t.fullName)) =
      [("B", "B.Y+X+Y+X"), ("A", "A.X+Y+X+Y"), ("C", "C.Z")] := by decide +kernel
  have hsecond : nestedInEachOther.build.rebuilt.types.toList.map (fun t ↦ (t.ns, t.fullName)) =
      [("A", "A.Y+X+Y+X"), ("B", "B.X+Y+X+Y"), ("C", "C.Z")] := by decide +kernel
  refine ⟨.edits (.new "App") _, hfirst, hsecond, fun hsame ↦ ?_⟩
  rw [hsame, hfirst] at hsecond
  revert hsecond
  decide

end Draft

end CliMetadata
