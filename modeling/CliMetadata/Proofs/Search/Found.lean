import CliMetadata.Proofs.Analyzer.World
import CliMetadata.Proofs.Assembly.Listed
import Mathlib.Data.List.Perm.Subperm

namespace CliMetadata

def TypeDef.listed (t : TypeDef) : MemberKind → List Token
  | .type => t.nestedTypes
  | .method => t.methods
  | .property => t.properties
  | .field => t.fields
  | .event => t.events

structure Assembly.HasMember (a : Assembly) (t : TypeDef) (x : Symbol) : Prop where
  listed : x.token ∈ t.listed x.kind
  found : Symbol.ofToken? a x.token = some x

namespace Search

def Precedes (a : Assembly) (x y : Symbol) : Prop :=
  x.fullName a < y.fullName a ∨ x.fullName a = y.fullName a ∧ x.token.toNat < y.token.toNat

/-- The symbols with a property, in order. Their tokens tell them apart. -/
structure Lists (a : Assembly) (symbols : List Symbol) (wanted : Symbol → Prop) : Prop where
  sorted : symbols.Pairwise (Precedes a)
  mem_iff : ∀ x, x ∈ symbols ↔ wanted x
  found : ∀ x ∈ symbols, Symbol.ofToken? a x.token = some x

variable (w : World)

/-- The types among which is searched: those of a namespace or all, but not the one for the members
outside of all types. -/
structure Among (namespaceName : Option String) (t : TypeDef) : Prop where
  mem : t ∈ w.assembly.types
  named : t.fullName ≠ "<Module>"
  inNamespace : ∀ input, namespaceName = some input → t.ns = NamespaceId.nameOf input

structure TypeFits (search : TypeSearch) (t : TypeDef) : Prop where
  among : Among w search.namespaceName t
  nesting : t.enclosing.isSome = true → search.includeNested = true
  name : (w.matcher search.query search.isPattern).holds t.name = true ∨
    (w.matcher search.query search.isPattern).holds t.fullName = true

/-- A member that meets the conditions of a search. Types are no members here. -/
structure MemberFits (search : MemberSearch) (x : Symbol) : Prop where
  owner : ∃ t, Among w search.namespaceName t ∧ w.assembly.HasMember t x ∧
    ∀ input, search.declaringType = some input → w.assembly.searchType? input = some t
  kind : x.kind ≠ .type ∧ (search.kinds = [] ∨ x.kind ∈ search.kinds)
  isStatic : ∀ wanted, search.isStatic = some wanted → x.isStatic w.assembly = wanted
  accessibility :
    ∀ wanted, search.accessibility = some wanted → x.accessibility w.assembly = wanted
  name : (w.matcher search.query search.isPattern).holds x.name = true ∨
    (w.matcher search.query search.isPattern).holds (x.fullName w.assembly) = true

def found : SearchKey → List Symbol
  | .types search =>
    ((w.typesAmong search.namespaceName).filter fun t ↦ (search.includeNested || !t.isNested)
      && (w.matcher search.query search.isPattern).holdsOfName t.name t.fullName).map .type
  | .members search =>
    ((w.onlyType search.declaringType (w.typesAmong search.namespaceName)).flatMap fun t ↦
      (membersOf w.assembly t (if search.kinds.isEmpty then MemberKind.members else search.kinds)
        ).filter (·.kind != .type)).filter fun x ↦ admits w.assembly search x
          && (w.matcher search.query search.isPattern).holdsOfName x.name (x.fullName w.assembly)
  | .namespaceTypes name _ => (w.typesAmong (some name)).map .type
  | .typeMembers type kinds _ =>
    (w.assembly.typeDef? type).elim [] fun t ↦ membersOf w.assembly t kinds

theorem hits_eq (key : SearchKey) : w.hits key = (found w key).map (Hit.ofSymbol w.assembly) := by
  cases key with
  | types search =>
    simp only [World.hits, typeHits, found, List.filter_filter, List.map_map, Bool.and_comm]
    rfl
  | members search =>
    simp only [World.hits, memberHits, found, List.filter_map, List.filter_filter, Bool.and_comm]
    rfl
  | namespaceTypes name request => simp only [World.hits, found, List.map_map]; rfl
  | typeMembers type kinds request => rfl

def results (key : SearchKey) : List Symbol :=
  (((found w key).map (Hit.ofSymbol w.assembly)).mergeSort Hit.before).map (·.symbol)

section Order

variable {a : Assembly} {x y : Hit}

theorem Hit.before_iff : x.before y = true ↔ x.fullName < y.fullName ∨
    x.fullName = y.fullName ∧ x.symbol.token.toNat ≤ y.symbol.token.toNat := by
  rw [before]
  split
  · next heq =>
    have hirrefl := String.lt_irrefl y.fullName
    rw [decide_eq_true_iff, heq]
    exact ⟨fun hle ↦ .inr ⟨rfl, hle⟩, fun h ↦ (h.resolve_left hirrefl).2⟩
  · next hne =>
    rw [decide_eq_true_iff]
    exact ⟨.inl, fun h ↦ h.resolve_right fun hsame ↦ hne hsame.1⟩

theorem Hit.before_trans (x y z : Hit) (hxy : x.before y = true) (hyz : y.before z = true) :
    x.before z = true := by
  rw [before_iff] at hxy hyz ⊢
  obtain hxy | ⟨hxy, htoken⟩ := hxy
  · obtain hyz | ⟨hyz, _⟩ := hyz
    · exact .inl (String.lt_trans hxy hyz)
    · exact .inl (hyz ▸ hxy)
  · obtain hyz | ⟨hyz, htoken'⟩ := hyz
    · exact .inl (hxy ▸ hyz)
    · exact .inr ⟨hxy.trans hyz, Nat.le_trans htoken htoken'⟩

theorem Hit.before_total (x y : Hit) : (x.before y || y.before x) = true := by
  rw [Bool.or_eq_true, before_iff, before_iff]
  by_cases heq : x.fullName = y.fullName
  · obtain hle | hle := Nat.le_total x.symbol.token.toNat y.symbol.token.toNat
    · exact .inl (.inr ⟨heq, hle⟩)
    · exact .inr (.inr ⟨heq.symm, hle⟩)
  · by_cases hlt : x.fullName < y.fullName
    · exact .inl (.inl hlt)
    · have hle := String.not_lt.1 hlt
      refine .inr (.inl ?_)
      rw [← String.not_le]
      exact fun h ↦ heq (String.le_antisymm h hle)

theorem Token.eq_of_toNat_eq {s t : Token} (h : s.toNat = t.toNat) : s = t := by
  obtain ⟨s⟩ := s
  obtain ⟨t⟩ := t
  exact congrArg Token.mk (UInt32.toNat_inj.1 h)

/-- Symbols that their tokens find are told apart by them. -/
theorem eq_of_found {x y : Symbol} (hx : Symbol.ofToken? a x.token = some x)
    (hy : Symbol.ofToken? a y.token = some y) (h : x.token = y.token) : x = y := by
  rw [h, hy] at hx
  exact (Option.some.inj hx).symm

/-- Sorting symbols by their full names puts them in order if their tokens tell them apart. -/
theorem lists_mergeSort {symbols : List Symbol} {wanted : Symbol → Prop} (hnodup : symbols.Nodup)
    (hfound : ∀ x ∈ symbols, Symbol.ofToken? a x.token = some x)
    (hmem : ∀ x, x ∈ symbols ↔ wanted x) :
    Lists a (((symbols.map (Hit.ofSymbol a)).mergeSort Hit.before).map (·.symbol)) wanted := by
  have hperm : (((symbols.map (Hit.ofSymbol a)).mergeSort Hit.before).map (·.symbol)).Perm
      symbols := by
    have h := (List.mergeSort_perm (symbols.map (Hit.ofSymbol a)) Hit.before).map (·.symbol)
    rw [List.map_map] at h
    exact h.trans (by simp [Hit.ofSymbol, Function.comp_def])
  refine ⟨?_, fun x ↦ hperm.mem_iff.trans (hmem x), fun x hx ↦ hfound x (hperm.mem_iff.1 hx)⟩
  have hsorted := List.pairwise_mergeSort Hit.before_trans Hit.before_total
    (symbols.map (Hit.ofSymbol a))
  have hdistinct := hperm.nodup_iff.2 hnodup
  rw [List.Nodup, List.pairwise_map] at hdistinct
  rw [List.pairwise_map]
  refine (hsorted.and hdistinct).imp_of_mem ?_
  intro x y hx hy hxy
  obtain ⟨x, hxmem, rfl⟩ := List.mem_map.1 ((List.mergeSort_perm _ _).mem_iff.1 hx)
  obtain ⟨y, hymem, rfl⟩ := List.mem_map.1 ((List.mergeSort_perm _ _).mem_iff.1 hy)
  obtain hlt | ⟨heq, hle⟩ := Hit.before_iff.1 hxy.1
  · exact .inl hlt
  · refine .inr ⟨heq, Nat.lt_of_le_of_ne hle fun htoken ↦ hxy.2 ?_⟩
    exact eq_of_found (hfound x hxmem) (hfound y hymem) (Token.eq_of_toNat_eq htoken)

theorem not_precedes (a : Assembly) (x : Symbol) : ¬Precedes a x x := by
  rintro (h | ⟨_, h⟩)
  · exact String.lt_irrefl _ h
  · exact Nat.lt_irrefl _ h

theorem Lists.length_le {symbols : List Symbol} {wanted : Symbol → Prop}
    (h : Lists a symbols wanted) : symbols.length ≤ 0x100000000 := by
  have hnodup : symbols.Nodup := by
    refine h.sorted.imp fun {x y} hxy ↦ ?_
    rintro rfl
    exact not_precedes a x hxy
  have htokens : (symbols.map (·.token.toNat)).Nodup := by
    refine List.Nodup.map_on (fun x hx y hy hxy ↦ ?_) hnodup
    exact eq_of_found (h.found x hx) (h.found y hy) (Token.eq_of_toNat_eq hxy)
  have hsub : symbols.map (·.token.toNat) ⊆ List.range 0x100000000 := by
    intro n hn
    obtain ⟨x, _, rfl⟩ := List.mem_map.1 hn
    exact List.mem_range.2 x.token.value.toNat_lt
  have hle := (List.subperm_of_subset htokens hsub).length_le
  rwa [List.length_map, List.length_range] at hle

end Order

section Types

variable {w : World} (hrows : w.assembly.RowsNumbered) (hfew : w.assembly.TokensSuffice)

include hrows hfew

theorem nodup_types : w.assembly.types.toList.Nodup := by
  rw [List.Nodup, List.pairwise_iff_getElem]
  intro i j hi hj hij heq
  have hsize := hfew.types
  rw [Array.length_toList] at hi hj
  have hplace (k : Nat) (hk : k < w.assembly.types.size) :
      w.assembly.types[k].token = Table.typeDef.token (k + 1) :=
    hrows.types k _ (Array.getElem?_eq_getElem hk)
  have htoken := congrArg TypeDef.token heq
  rw [Array.getElem_toList, Array.getElem_toList, hplace i hi, hplace j hj,
    Table.token_inj (by omega) (by omega)] at htoken
  omega

theorem typesAmong_eq (namespaceName : Option String) :
    w.typesAmong namespaceName = w.assembly.types.toList.filter fun t ↦
      t.fullName != moduleType && namespaceName.all (t.ns == NamespaceId.nameOf ·) := by
  have hself (types : List TypeDef) (htypes : ∀ t ∈ types, t ∈ w.assembly.types) :
      (types.map (·.token)).filterMap w.assembly.typeDef? = types := by
    rw [List.filterMap_map]
    have hsome : types.filterMap (w.assembly.typeDef? ∘ TypeDef.token) = types.filterMap some :=
      List.filterMap_congr fun t ht ↦ hrows.typeDef?_token hfew.types (htypes t ht)
    rw [hsome, List.filterMap_some]
  cases namespaceName with
  | none => simp [World.typesAmong, typesAmong]
  | some input =>
    have hlisted : (w.namespaceTypes? (NamespaceId.nameOf input)).getD []
        = (w.assembly.types.toList.filter (·.ns == NamespaceId.nameOf input)).map (·.token) := by
      rw [World.namespaceTypes?, NamespaceTypes.get?, NamespaceTypes.ofTypes, List.filter_map]
      cases hin : w.assembly.types.toList.filter (·.ns == NamespaceId.nameOf input) with
      | nil => simp [Function.comp_def, hin]
      | cons t types => simp [Function.comp_def, hin]
    rw [World.typesAmong, Option.map_some, hlisted, typesAmong, Option.elim_some, hself,
      List.filter_filter]
    · simp
    · intro t ht
      exact Array.mem_toList_iff.1 (List.mem_filter.1 ht).1

theorem mem_typesAmong_iff {namespaceName : Option String} {t : TypeDef} :
    t ∈ w.typesAmong namespaceName ↔ Among w namespaceName t := by
  rw [typesAmong_eq hrows hfew, List.mem_filter, Array.mem_toList_iff, Bool.and_eq_true, bne_iff_ne]
  constructor
  · rintro ⟨hmem, hnamed, hns⟩
    refine ⟨hmem, hnamed, ?_⟩
    rintro input rfl
    exact beq_iff_eq.1 hns
  · rintro ⟨hmem, hnamed, hns⟩
    refine ⟨hmem, hnamed, ?_⟩
    cases namespaceName with
    | none => rfl
    | some input => exact beq_iff_eq.2 (hns input rfl)

theorem nodup_typesAmong (namespaceName : Option String) : (w.typesAmong namespaceName).Nodup := by
  rw [typesAmong_eq hrows hfew]
  exact (nodup_types hrows hfew).filter _

theorem lists_types {types : List TypeDef} {wanted : TypeDef → Prop} (hnodup : types.Nodup)
    (hmem : ∀ t, t ∈ types ↔ wanted t) (htypes : ∀ t, wanted t → t ∈ w.assembly.types) :
    Lists w.assembly ((((types.map Symbol.type).map (Hit.ofSymbol w.assembly)).mergeSort
      Hit.before).map (·.symbol)) fun x ↦ ∃ t, x = .type t ∧ wanted t := by
  refine lists_mergeSort ?_ ?_ ?_
  · exact hnodup.map fun t u h ↦ by cases h; rfl
  · intro x hx
    obtain ⟨t, ht, rfl⟩ := List.mem_map.1 hx
    exact Symbol.ofToken?_eq_some_iff.2 (hrows.typeDef?_token hfew.types (htypes t ((hmem t).1 ht)))
  · intro x
    rw [List.mem_map]
    constructor
    · rintro ⟨t, ht, rfl⟩
      exact ⟨t, rfl, (hmem t).1 ht⟩
    · rintro ⟨t, rfl, ht⟩
      exact ⟨t, (hmem t).2 ht, rfl⟩

theorem lists_typeSearch (search : TypeSearch) :
    Lists w.assembly (results w (.types search)) fun x ↦
      ∃ t, x = .type t ∧ TypeFits w search t := by
  refine lists_types hrows hfew ((nodup_typesAmong hrows hfew _).filter _) ?_
    fun t ht ↦ ht.among.mem
  intro t
  rw [List.mem_filter, mem_typesAmong_iff hrows hfew, Bool.and_eq_true, Bool.or_eq_true,
    Matcher.holdsOfName, Bool.or_eq_true]
  constructor
  · rintro ⟨hamong, hnesting, hname⟩
    refine ⟨hamong, fun hnested ↦ ?_, hname⟩
    obtain hinclude | hflat := hnesting
    · exact hinclude
    · rw [TypeDef.isNested, hnested] at hflat
      cases hflat
  · rintro ⟨hamong, hnesting, hname⟩
    refine ⟨hamong, ?_, hname⟩
    cases hnested : t.isNested with
    | false => exact .inr rfl
    | true => exact .inl (hnesting hnested)

theorem lists_namespaceTypes (name : String) (request : PageRequest) :
    Lists w.assembly (results w (.namespaceTypes name request)) fun x ↦
      ∃ t, x = .type t ∧ Among w (some name) t :=
  lists_types hrows hfew (nodup_typesAmong hrows hfew _)
    (fun _ ↦ mem_typesAmong_iff hrows hfew) fun _ ht ↦ ht.mem

end Types

end Search

namespace Assembly

variable {a : Assembly}

theorem RowsNumbered.mem_of_searchType? (h : a.RowsNumbered) {input : String} {t : TypeDef}
    (ht : a.searchType? input = some t) : t ∈ a.types := by
  rw [searchType?] at ht
  split at ht
  · next u hu =>
    cases ht
    have hnamed := h.named?_of_search? hu
    rw [named?, Option.or_eq_some_iff] at hnamed
    obtain hfound | ⟨_, hfirst⟩ := hnamed
    · obtain ⟨kind, _, hfound⟩ := Option.bind_eq_some_iff.1 hfound
      cases kind with
      | type =>
        obtain ⟨u, hu, heq⟩ := Option.map_eq_some_iff.1 hfound
        cases heq
        exact mem_of_rowOf? hu
      | _ =>
        obtain ⟨_, _, heq⟩ := Option.map_eq_some_iff.1 hfound
        cases heq
    · obtain ⟨u, hu, heq⟩ := Option.map_eq_some_iff.1 hfirst
      cases heq
      exact Array.mem_toList_iff.1 (List.mem_of_find?_eq_some hu)
  · cases ht
  · obtain ⟨_, _, hfound⟩ := Option.bind_eq_some_iff.1 ht
    exact mem_of_rowOf? hfound

end Assembly

namespace Search

section Members

variable {w : World} (hbuilt : w.assembly.Built) (hfew : w.assembly.TokensSuffice) {t : TypeDef}
  {x : Symbol} {kinds : List MemberKind}

theorem ofToken?_kind {a : Assembly} {token : Token} (h : Symbol.ofToken? a token = some x) :
    MemberKind.ofToken? token = some x.kind := by
  obtain ⟨kind, hkind, hx⟩ := Option.bind_eq_some_iff.1 h
  rw [hkind]
  cases kind <;> obtain ⟨row, _, rfl⟩ := Option.map_eq_some_iff.1 hx <;> rfl

theorem listed_kind {a : Assembly} (hbuilt : a.Built) (ht : t ∈ a.types) {kind : MemberKind}
    {token : Token} (h : token ∈ t.listed kind) : MemberKind.ofToken? token = some kind := by
  obtain ⟨i, hi⟩ := Array.mem_iff_getElem?.1 ht
  have hlists := hbuilt.membersListed
  rw [MemberKind.ofToken?]
  cases kind with
  | type => rw [hbuilt.nestedListed.isIn hi h]; rfl
  | method => rw [hlists.methods.isIn hi h]; rfl
  | property => rw [hlists.properties.isIn hi h]; rfl
  | field => rw [hlists.fields.isIn hi h]; rfl
  | event => rw [hlists.events.isIn hi h]; rfl

include hbuilt

include hfew

theorem nodup_listed (ht : t ∈ w.assembly.types) (kind : MemberKind) : (t.listed kind).Nodup := by
  obtain ⟨i, hi⟩ := Array.mem_iff_getElem?.1 ht
  have hlists := hbuilt.membersListed
  cases kind with
  | type => exact hbuilt.nestedListed.nodup hfew.types hi
  | method => exact hlists.methods.nodup hfew.methods hi
  | property => exact hlists.properties.nodup hfew.properties hi
  | field => exact hlists.fields.nodup hfew.fields hi
  | event => exact hlists.events.nodup hfew.events hi

theorem declaringType?_of_hasMember (ht : t ∈ w.assembly.types) (h : w.assembly.HasMember t x) :
    x.declaringType? = some t.token := by
  obtain ⟨i, hi⟩ := Array.mem_iff_getElem?.1 ht
  obtain ⟨hlisted, hfound⟩ := h
  have hlists := hbuilt.membersListed
  have hkind := ofToken?_kind hfound
  rw [Symbol.ofToken?, hkind, Option.bind_some] at hfound
  rw [hbuilt.rowsNumbered.types i t hi]
  cases x with
  | type row =>
    obtain ⟨_, hrow, heq⟩ := Option.map_eq_some_iff.1 hfound
    cases heq
    exact hbuilt.nestedListed.owner_of_rowOf? hfew.types hi hlisted hrow
  | method row =>
    obtain ⟨_, hrow, heq⟩ := Option.map_eq_some_iff.1 hfound
    cases heq
    exact hlists.methods.owner_of_rowOf? hfew.methods hi hlisted hrow
  | property row =>
    obtain ⟨_, hrow, heq⟩ := Option.map_eq_some_iff.1 hfound
    cases heq
    exact hlists.properties.owner_of_rowOf? hfew.properties hi hlisted hrow
  | field row =>
    obtain ⟨_, hrow, heq⟩ := Option.map_eq_some_iff.1 hfound
    cases heq
    exact hlists.fields.owner_of_rowOf? hfew.fields hi hlisted hrow
  | event row =>
    obtain ⟨_, hrow, heq⟩ := Option.map_eq_some_iff.1 hfound
    cases heq
    exact hlists.events.owner_of_rowOf? hfew.events hi hlisted hrow

omit hbuilt hfew in
theorem membersOf_eq (a : Assembly) (t : TypeDef) (kinds : List MemberKind) :
    membersOf a t kinds = ([.type, .method, .field, .property, .event].flatMap fun kind ↦
      if kinds.isEmpty && kind != .type || kinds.contains kind then t.listed kind else []
        ).filterMap (Symbol.ofToken? a) := by
  simp only [membersOf, List.flatMap_cons, List.flatMap_nil, List.append_nil, List.append_assoc]
  rfl

omit hbuilt hfew in
theorem wanted_iff {kind : MemberKind} :
    (kinds.isEmpty && kind != .type || kinds.contains kind) = true ↔
      kinds = [] ∧ kind ≠ .type ∨ kind ∈ kinds := by
  rw [Bool.or_eq_true, Bool.and_eq_true, List.isEmpty_iff, bne_iff_ne, List.contains_iff_mem]

omit hfew in
theorem mem_membersOf_iff (ht : t ∈ w.assembly.types) : x ∈ membersOf w.assembly t kinds ↔
    w.assembly.HasMember t x ∧ (kinds = [] ∧ x.kind ≠ .type ∨ x.kind ∈ kinds) := by
  rw [membersOf_eq, List.mem_filterMap]
  constructor
  · rintro ⟨token, htoken, hx⟩
    obtain ⟨kind, _, htoken⟩ := List.mem_flatMap.1 htoken
    obtain rfl := hbuilt.rowsNumbered.token_ofToken? hx
    split at htoken
    · next hwanted =>
      have hkind := (listed_kind hbuilt ht htoken).symm.trans (ofToken?_kind hx)
      obtain rfl := Option.some.inj hkind
      exact ⟨⟨htoken, hx⟩, wanted_iff.1 hwanted⟩
    · cases htoken
  · rintro ⟨⟨hlisted, hx⟩, hwanted⟩
    refine ⟨x.token, List.mem_flatMap.2 ⟨x.kind, ?_, ?_⟩, hx⟩
    · cases x.kind <;> decide
    · rw [if_pos (wanted_iff.2 hwanted)]
      exact hlisted

theorem nodup_membersOf (ht : t ∈ w.assembly.types) : (membersOf w.assembly t kinds).Nodup := by
  rw [membersOf_eq]
  refine List.Nodup.filterMap (fun s u y hs hu ↦ ?_) (List.nodup_flatMap.2 ⟨fun kind _ ↦ ?_, ?_⟩)
  · have hnumbered := hbuilt.rowsNumbered
    rw [← hnumbered.token_ofToken? hs, ← hnumbered.token_ofToken? hu]
  · split
    · exact nodup_listed hbuilt hfew ht kind
    · exact List.nodup_nil
  · have hkinds : [MemberKind.type, .method, .field, .property, .event].Pairwise (· ≠ ·) := by
      decide
    refine hkinds.imp fun {kind other} hne ↦ ?_
    intro token hkind hother
    dsimp only at hkind hother
    split at hkind
    · split at hother
      · have hsame := (listed_kind hbuilt ht hkind).symm.trans (listed_kind hbuilt ht hother)
        exact hne (Option.some.inj hsame)
      · cases hother
    · cases hkind

theorem mem_onlyType_iff {input : Option String} {types : List TypeDef}
    (htypes : ∀ u ∈ types, u ∈ w.assembly.types) : t ∈ w.onlyType input types ↔
      t ∈ types ∧ ∀ name, input = some name → w.assembly.searchType? name = some t := by
  cases input with
  | none => simp [World.onlyType]
  | some name =>
    rw [World.onlyType, List.mem_filter, Option.any_eq_true]
    constructor
    · rintro ⟨hmem, owner, howner, htoken⟩
      refine ⟨hmem, ?_⟩
      rintro _ ⟨⟩
      have hin := hbuilt.rowsNumbered.mem_of_searchType? howner
      rw [howner, hbuilt.rowsNumbered.types.eq_of_key hfew.types hin (htypes t hmem)
        (beq_iff_eq.1 htoken)]
    · rintro ⟨hmem, howner⟩
      exact ⟨hmem, t, howner name rfl, beq_iff_eq.2 rfl⟩

omit hbuilt hfew in
theorem onlyType_sublist (w : World) (input : Option String) (types : List TypeDef) :
    (w.onlyType input types).Sublist types := by
  cases input with
  | none => exact .refl types
  | some name => exact List.filter_sublist

omit hbuilt hfew in
theorem admits_iff {a : Assembly} {search : MemberSearch} : admits a search x = true ↔
    (∀ wanted, search.isStatic = some wanted → x.isStatic a = wanted) ∧
      ∀ wanted, search.accessibility = some wanted → x.accessibility a = wanted := by
  rw [admits, Bool.and_eq_true, Option.all_eq_true, Option.all_eq_true]
  simp only [beq_iff_eq]

theorem lists_memberSearch (search : MemberSearch) :
    Lists w.assembly (results w (.members search)) (MemberFits w search) := by
  have hrows := hbuilt.rowsNumbered
  have hamong (t : TypeDef) (ht : t ∈ w.typesAmong search.namespaceName) :
      Among w search.namespaceName t := (mem_typesAmong_iff hrows hfew).1 ht
  have hsub := onlyType_sublist w search.declaringType (w.typesAmong search.namespaceName)
  have htypes (t : TypeDef)
      (ht : t ∈ w.onlyType search.declaringType (w.typesAmong search.namespaceName)) :
      t ∈ w.assembly.types := (hamong t (hsub.subset ht)).mem
  have hkinds (kind : MemberKind) (hkind : kind ≠ .type) :
      ((if search.kinds.isEmpty then MemberKind.members else search.kinds) = [] ∧ kind ≠ .type ∨
        kind ∈ if search.kinds.isEmpty then MemberKind.members else search.kinds) ↔
      search.kinds = [] ∨ kind ∈ search.kinds := by
    cases search.kinds with
    | nil => cases kind <;> simp_all [MemberKind.members]
    | cons k ks => simp
  refine lists_mergeSort (.filter _ (List.nodup_flatMap.2 ⟨fun t ht ↦ ?_, ?_⟩)) ?_ ?_
  · exact (nodup_membersOf hbuilt hfew (htypes t ht)).filter _
  · refine ((nodup_typesAmong hrows hfew _).sublist hsub).imp_of_mem fun {t u} ht hu hne ↦ ?_
    intro x hxt hxu
    have hinside := ((mem_membersOf_iff hbuilt (htypes t ht)).1 (List.mem_filter.1 hxt).1).1
    have hother := ((mem_membersOf_iff hbuilt (htypes u hu)).1 (List.mem_filter.1 hxu).1).1
    have htoken := (declaringType?_of_hasMember hbuilt hfew (htypes t ht) hinside).symm.trans
      (declaringType?_of_hasMember hbuilt hfew (htypes u hu) hother)
    exact hne (hbuilt.rowsNumbered.types.eq_of_key hfew.types (htypes t ht) (htypes u hu)
      (Option.some.inj htoken))
  · intro x hx
    obtain ⟨t, ht, hx⟩ := List.mem_flatMap.1 (List.mem_filter.1 hx).1
    exact ((mem_membersOf_iff hbuilt (htypes t ht)).1 (List.mem_filter.1 hx).1).1.found
  · intro x
    rw [found, List.mem_filter, List.mem_flatMap, Bool.and_eq_true, admits_iff,
      Matcher.holdsOfName, Bool.or_eq_true]
    constructor
    · rintro ⟨⟨t, ht, hx⟩, ⟨hstatic, haccess⟩, hname⟩
      obtain ⟨hmember, hkind⟩ := List.mem_filter.1 hx
      obtain ⟨hmember, hwanted⟩ := (mem_membersOf_iff hbuilt (htypes t ht)).1 hmember
      have hkind := bne_iff_ne.1 hkind
      obtain ⟨ht, hdeclaring⟩ := (mem_onlyType_iff hbuilt hfew fun u hu ↦ (hamong u hu).mem).1 ht
      exact ⟨⟨t, hamong t ht, hmember, hdeclaring⟩, ⟨hkind, (hkinds _ hkind).1 hwanted⟩, hstatic,
        haccess, hname⟩
    · rintro ⟨⟨t, ht, hmember, hdeclaring⟩, ⟨hkind, hwanted⟩, hstatic, haccess, hname⟩
      refine ⟨⟨t, ?_, List.mem_filter.2 ⟨?_, bne_iff_ne.2 hkind⟩⟩, ⟨hstatic, haccess⟩, hname⟩
      · exact (mem_onlyType_iff hbuilt hfew fun u hu ↦ (hamong u hu).mem).2
          ⟨(mem_typesAmong_iff hrows hfew).2 ht, hdeclaring⟩
      · exact (mem_membersOf_iff hbuilt ht.mem).2 ⟨hmember, (hkinds _ hkind).2 hwanted⟩

theorem lists_typeMembers {owner : TypeDef} (howner : owner ∈ w.assembly.types)
    (request : PageRequest) :
    Lists w.assembly (results w (.typeMembers owner.token kinds request)) fun x ↦
      w.assembly.HasMember owner x ∧ (kinds = [] ∧ x.kind ≠ .type ∨ x.kind ∈ kinds) := by
  have hfound : found w (.typeMembers owner.token kinds request)
      = membersOf w.assembly owner kinds := by
    rw [found, hbuilt.rowsNumbered.typeDef?_token hfew.types howner]
    rfl
  rw [results, hfound]
  exact lists_mergeSort (nodup_membersOf hbuilt hfew howner)
    (fun x hx ↦ ((mem_membersOf_iff hbuilt howner).1 hx).1.found)
    fun x ↦ mem_membersOf_iff hbuilt howner

end Members

end Search

end CliMetadata
