import CliMetadata.Proofs.Assembly.WellFormed
import CliMetadata.Proofs.Identifier

namespace CliMetadata

namespace Assembly

variable {a : Assembly}

def tokensOf (a : Assembly) (wanted : TypeDef → Bool) : List Token :=
  (a.types.toList.filter wanted).map (·.token)

theorem mem_tokensOf_iff {wanted : TypeDef → Bool} {token : Token} :
    token ∈ a.tokensOf wanted ↔ ∃ t ∈ a.types, wanted t = true ∧ t.token = token := by
  simp only [tokensOf, List.mem_map, List.mem_filter, Array.mem_toList_iff, and_assoc]

/-- Types stand in the order of their tokens. -/
theorem RowsNumbered.rising_tokensOf (hrows : a.RowsNumbered) (hfew : a.types.size < 0x1000000)
    (wanted : TypeDef → Bool) : (a.tokensOf wanted).Pairwise fun x y ↦ x.toNat < y.toNat := by
  have htypes : a.types.toList.Pairwise fun t u ↦ t.token.toNat < u.token.toNat := by
    rw [List.pairwise_iff_getElem]
    intro i j hi hj hij
    rw [Array.length_toList] at hi hj
    rw [Array.getElem_toList, Array.getElem_toList,
      hrows.types i _ (Array.getElem?_eq_getElem hi), hrows.types j _ (Array.getElem?_eq_getElem hj),
      toNat_token (by omega), toNat_token (by omega)]
    omega
  rw [tokensOf, List.pairwise_map]
  exact htypes.filter wanted

end Assembly

section Entries

variable {α κ ν : Type} [BEq κ] {key : α → κ} {value : α → ν}

theorem lookup_eq_head? (entries : List (κ × ν)) (k : κ) [LawfulBEq κ] :
    entries.lookup k = ((entries.filter (·.1 == k)).map (·.2)).head? := by
  induction entries with
  | nil => rfl
  | cons entry entries ih =>
    rw [List.lookup_cons, List.filter_cons, BEq.comm]
    split
    · next h => rw [if_pos h, List.map_cons, List.head?_cons]
    · next h => rw [ih, h, if_neg Bool.false_ne_true]

theorem map_filter_entries (xs : List α) (k : κ) :
    ((xs.map fun x ↦ (key x, value x)).filter (·.1 == k)).map (·.2)
      = (xs.filter (key · == k)).map value := by
  rw [List.filter_map, List.map_map]
  rfl

theorem lookup_reverse_entries [LawfulBEq κ] (xs : List α) (k : κ) :
    (xs.map fun x ↦ (key x, value x)).reverse.lookup k
      = ((xs.filter (key · == k)).map value).getLast? := by
  rw [lookup_eq_head?, List.filter_reverse, List.map_reverse, List.head?_reverse,
    map_filter_entries]

theorem flatMap_filter_perm [LawfulBEq κ] {keys : List κ} (hkeys : keys.Nodup) {xs : List α}
    (hxs : ∀ x ∈ xs, key x ∈ keys) : (keys.flatMap fun k ↦ xs.filter (key · == k)).Perm xs := by
  induction keys generalizing xs with
  | nil =>
    cases xs with
    | nil => exact .refl _
    | cons x xs => exact absurd (hxs x List.mem_cons_self) List.not_mem_nil
  | cons k keys ih =>
    obtain ⟨hk, hkeys⟩ := List.nodup_cons.1 hkeys
    let others := xs.filter fun x ↦ !(key x == k)
    have hothers (x : α) (hx : x ∈ others) : key x ∈ keys := by
      obtain ⟨hmem, hne⟩ := List.mem_filter.1 hx
      refine (List.mem_cons.1 (hxs x hmem)).resolve_left ?_
      simpa using hne
    have hrest : (keys.flatMap fun l ↦ others.filter (key · == l))
        = keys.flatMap fun l ↦ xs.filter (key · == l) := by
      refine List.flatMap_congr fun l hl ↦ ?_
      rw [List.filter_filter]
      refine List.filter_congr fun x _ ↦ ?_
      cases hx : key x == l with
      | false => rfl
      | true =>
        have hne : key x ≠ k := fun h ↦ hk (h ▸ (beq_iff_eq.1 hx).symm ▸ hl)
        simpa using hne
    rw [List.flatMap_cons, ← hrest]
    exact ((ih hkeys hothers).append_left _).trans (List.filter_append_perm _ xs)

end Entries

/-- Of the types with one full name the last counts. Under a simple name stand all types that have
it; as a name of one type it stands for the last of them, unless it is a full name. -/
structure TypeNames.Describes (names : TypeNames) (a : Assembly) : Prop where
  fullName? : ∀ name, names.fullName? name = (a.tokensOf (·.fullName == name)).getLast?
  named : ∀ name, names.named name = a.tokensOf (·.name == name)
  get? : ∀ name, names.get? name = (names.fullName? name).or (names.named name).getLast?

/-- Under a namespace stand its types; a namespace without types is not there. -/
def NamespaceTypes.Describes (index : NamespaceTypes) (a : Assembly) : Prop :=
  ∀ name tokens, index.get? name = some tokens ↔
    tokens ≠ [] ∧ tokens = a.tokensOf (·.ns == name)

/-- The namespaces under which an index has types, in order, the one without a name left out. With
that one they divide the types among them. -/
structure NamespaceTypes.Lists (index : NamespaceTypes) (namespaces : List String) (a : Assembly) :
    Prop where
  sorted : namespaces.Pairwise (· < ·)
  mem_iff : ∀ name, name ∈ namespaces ↔ name ≠ "" ∧ (index.get? name).isSome = true
  divided : (("" :: namespaces).filterMap index.get?).flatten.Perm
    (a.types.toList.map (·.token))

/-- Under the identifiers of types and of the members that they list stand the definitions with those
tokens and kinds. -/
structure Members.Finds (index : Members) (a : Assembly) : Prop where
  type : ∀ t ∈ a.types, index.get? ⟨a.mvid, t.token, .type⟩ = some (.type t)
  member : ∀ t ∈ a.types, ∀ kind ∈ MemberKind.members, ∀ token ∈ t.listed kind,
    ∃ x, index.get? ⟨a.mvid, token, kind⟩ = some x ∧ x.token = token ∧ x.kind = kind

section Contents

variable {a : Assembly}

theorem TypeNames.describes_ofTypes (a : Assembly) : (ofTypes a.types.toList).Describes a := by
  have hnamed (name : String) :
      (ofTypes a.types.toList).named name = a.tokensOf (·.name == name) := by
    rw [TypeNames.named, ofTypes, List.filter_reverse, List.map_reverse, List.reverse_reverse,
      map_filter_entries, Assembly.tokensOf]
  refine ⟨fun name ↦ lookup_reverse_entries _ name, hnamed, fun name ↦ ?_⟩
  rw [TypeNames.get?, hnamed]
  exact congrArg (Option.or _) (lookup_reverse_entries _ name)

theorem NamespaceTypes.describes_ofTypes (a : Assembly) :
    (ofTypes a.types.toList).Describes a := by
  intro name tokens
  have hbucket : (((ofTypes a.types.toList).entries.filter (·.1 == name)).map (·.2))
      = a.tokensOf (·.ns == name) := map_filter_entries _ name
  rw [get?, ← hbucket]
  cases (ofTypes a.types.toList).entries.filter (·.1 == name) with
  | nil => simp
  | cons entry found =>
    rw [Option.some_inj, eq_comm]
    exact ⟨fun h ↦ ⟨h ▸ List.cons_ne_nil _ _, h⟩, fun h ↦ h.2⟩

theorem mem_sortedNamespaces_iff {name : String} :
    name ∈ sortedNamespaces a ↔ name ≠ "" ∧ ∃ t ∈ a.types, t.ns = name := by
  simp only [sortedNamespaces, List.mem_mergeSort, List.mem_eraseDups, List.mem_filter,
    List.mem_map, Array.mem_toList_iff, bne_iff_ne, and_comm]

theorem pairwise_sortedNamespaces (a : Assembly) : (sortedNamespaces a).Pairwise (· < ·) := by
  let names := ((a.types.toList.map (·.ns)).filter (· != "")).eraseDups
  have hsorted : (names.mergeSort (· ≤ ·)).Pairwise fun x y ↦ decide (x ≤ y) = true :=
    List.pairwise_mergeSort (fun x y z hxy hyz ↦ by
        rw [decide_eq_true_iff] at hxy hyz ⊢
        exact String.le_trans hxy hyz)
      (fun x y ↦ by simpa using String.le_total x y) names
  have hdistinct : (names.mergeSort (· ≤ ·)).Nodup :=
    (List.mergeSort_perm names _).nodup_iff.2 (nodup_eraseDups _)
  refine (hsorted.and hdistinct).imp fun {x y} ⟨hle, hne⟩ ↦ ?_
  by_contra hlt
  exact hne (String.le_antisymm (of_decide_eq_true hle) (String.not_lt.1 hlt))

theorem NamespaceTypes.Describes.isSome_get?_iff {index : NamespaceTypes} (h : index.Describes a)
    {name : String} : (index.get? name).isSome = true ↔ ∃ t ∈ a.types, t.ns = name := by
  rw [Option.isSome_iff_exists]
  constructor
  · rintro ⟨tokens, htokens⟩
    obtain ⟨hne, rfl⟩ := (h name tokens).1 htokens
    obtain ⟨token, htoken⟩ := List.exists_mem_of_ne_nil _ hne
    obtain ⟨t, ht, hns, _⟩ := Assembly.mem_tokensOf_iff.1 htoken
    exact ⟨t, ht, beq_iff_eq.1 hns⟩
  · rintro ⟨t, ht, rfl⟩
    refine ⟨_, (h t.ns _).2 ⟨?_, rfl⟩⟩
    exact List.ne_nil_of_mem (Assembly.mem_tokensOf_iff.2 ⟨t, ht, beq_self_eq_true _, rfl⟩)

theorem NamespaceTypes.Describes.flatten_filterMap {index : NamespaceTypes}
    (h : index.Describes a) (names : List String) : (names.filterMap index.get?).flatten
      = (names.flatMap fun name ↦ a.types.toList.filter (·.ns == name)).map (·.token) := by
  induction names with
  | nil => rfl
  | cons name names ih =>
    rw [List.flatMap_cons, List.map_append, ← ih]
    cases hget : index.get? name with
    | some tokens =>
      rw [List.filterMap_cons_some hget, List.flatten_cons, ((h name tokens).1 hget).2]
      rfl
    | none =>
      have hempty : a.tokensOf (·.ns == name) = [] := by
        by_contra hne
        rw [(h name _).2 ⟨hne, rfl⟩] at hget
        cases hget
      rw [List.filterMap_cons_none hget]
      exact (congrArg (· ++ _) hempty).symm

theorem NamespaceTypes.Describes.lists {index : NamespaceTypes} (h : index.Describes a) :
    index.Lists (sortedNamespaces a) a where
  sorted := pairwise_sortedNamespaces a
  mem_iff name := by rw [mem_sortedNamespaces_iff, h.isSome_get?_iff]
  divided := by
    rw [h.flatten_filterMap]
    refine (flatMap_filter_perm (List.nodup_cons.2 ⟨?_, ?_⟩) fun t ht ↦ ?_).map _
    · exact fun hmem ↦ (mem_sortedNamespaces_iff.1 hmem).1 rfl
    · refine (pairwise_sortedNamespaces a).imp fun {x y} (hlt : x < y) (heq : x = y) ↦ ?_
      exact String.lt_irrefl y (heq ▸ hlt)
    · by_cases hns : t.ns = ""
      · exact List.mem_cons.2 (.inl hns)
      · refine List.mem_cons_of_mem _ (mem_sortedNamespaces_iff.2 ⟨hns, t, ?_, rfl⟩)
        exact Array.mem_toList_iff.1 ht

section Listed

variable (hbuilt : a.Built) (hfew : a.TokensSuffice)

include hbuilt hfew

theorem exists_ofToken?_of_listed {t : TypeDef} (ht : t ∈ a.types) {kind : MemberKind}
    (hkind : kind ∈ MemberKind.members) {token : Token} (htoken : token ∈ t.listed kind) :
    ∃ x, Symbol.ofToken? a token = some x ∧ x.token = token ∧ x.kind = kind := by
  have hmember : token ∈ t.members := by
    rw [TypeDef.mem_members_iff]
    simp only [MemberKind.members, List.mem_cons, List.not_mem_nil, or_false] at hkind
    rcases hkind with rfl | rfl | rfl | rfl <;> simp_all [TypeDef.listed]
  have hdeclared := Assembly.declaringType?_of_mem_members hbuilt.rowsNumbered
    hbuilt.membersListed hfew ht hmember
  obtain ⟨x, hx, _⟩ := Option.bind_eq_some_iff.1 hdeclared
  refine ⟨x, hx, hbuilt.rowsNumbered.token_ofToken? hx, ?_⟩
  have hsame := (Search.ofToken?_kind hx).symm.trans (Search.listed_kind hbuilt ht htoken)
  exact Option.some.inj hsame

theorem Members.finds_ofAssembly : (ofAssembly a).Finds a := by
  have hrows := hbuilt.rowsNumbered
  have hself {x : Symbol} (hx : Symbol.ofToken? a x.token = some x) (hlisted : a.IsListed x) :
      (ofAssembly a).get? (x.id a.mvid) = some x :=
    (hrows.get?_id_iff (hrows.named?_of_ofToken? hx)).2 ⟨rfl, hlisted⟩
  constructor
  · intro t ht
    have hfound : Symbol.ofToken? a t.token = some (.type t) :=
      Symbol.ofToken?_eq_some_iff.2 (hrows.typeDef?_token hfew.types ht)
    exact hself (x := .type t) hfound ⟨t, ht, .inl rfl⟩
  · intro t ht kind hkind token htoken
    obtain ⟨x, hx, rfl, rfl⟩ := exists_ofToken?_of_listed hbuilt hfew ht hkind htoken
    exact ⟨x, hself hx ⟨t, ht, .inr ⟨x.kind, hkind, htoken, hx⟩⟩, rfl, rfl⟩

end Listed

end Contents

end CliMetadata
