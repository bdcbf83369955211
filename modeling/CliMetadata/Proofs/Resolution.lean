import CliMetadata.Proofs.Cache
import CliMetadata.Proofs.Index
import CliMetadata.Resolver

namespace CliMetadata

namespace Strategy

def find? (a : Assembly) (input : String) : Strategy → Option Symbol
  | .memberId =>
    (MemberId.parse? input).bind fun id ↦
      if id.mvid = a.mvid then (Members.ofAssembly a).get? id else none
  | .documentationId =>
    (DocumentationId.ofText? input).bind fun id ↦ id.find? a (.ofTypes a.types.toList)
  | .hexToken => (hexToken? input).bind (Symbol.resolve? a)
  | .decimalToken => (decimalToken? input).bind (Symbol.resolve? a)

theorem run_gives (a : Assembly) (input : String) (strategy : Strategy) :
    Snapshot.Gives a (fun s ↦ strategy.run input s) (strategy.find? a input) := by
  intro generation s hs
  cases strategy with
  | memberId =>
    simp only [run, find?]
    split
    · next id hid =>
      rw [hid, Option.bind_some, hs.assembly_eq]
      split
      · obtain ⟨hvalue, hs⟩ := Snapshot.useMembers_gives a generation s hs
        exact ⟨congrArg (Members.get? · id) hvalue, hs⟩
      · exact ⟨rfl, hs⟩
    · next hid => exact ⟨by rw [hid, Option.bind_none], hs⟩
  | documentationId =>
    simp only [run, find?]
    split
    · next id hid =>
      obtain ⟨hvalue, hs⟩ := Snapshot.useTypeNames_gives a generation s hs
      rw [hid, Option.bind_some]
      exact ⟨congr (congrArg (DocumentationId.find? · · id) hs.assembly_eq) hvalue, hs⟩
    · next hid => exact ⟨by rw [hid, Option.bind_none], hs⟩
  | hexToken => exact ⟨by simp only [run, find?, hs.assembly_eq], hs⟩
  | decimalToken => exact ⟨by simp only [run, find?, hs.assembly_eq], hs⟩

end Strategy

def Assembly.search? (a : Assembly) (input : String) : Option Symbol :=
  Strategy.all.findSome? (Strategy.find? a input)

namespace Resolver

variable {a : Assembly} {generation : Nat} {r : Resolver} {s : Snapshot}

theorem search_gives (a : Assembly) (input : String) (strategies : List Strategy)
    (hs : s.Shows a generation) :
    (search input s strategies).1 = strategies.findSome? (Strategy.find? a input) ∧
      (search input s strategies).2.2.Shows a generation := by
  induction strategies generalizing s with
  | nil => exact ⟨rfl, hs⟩
  | cons strategy strategies ih =>
    obtain ⟨hfound, ht⟩ := strategy.run_gives a input generation s hs
    rw [search, List.findSome?_cons, ← hfound]
    split
    · next x t hrun =>
      simp only [hrun] at ht ⊢
      exact ⟨trivial, ht⟩
    · next t hrun =>
      simp only [hrun] at ht ⊢
      exact ih ht

/-- A resolver that remembers under a generation only what texts name in an assembly. -/
def Right (a : Assembly) (generation : Nat) (r : Resolver) : Prop :=
  ∀ key found, r.cache.kept? generation key = some found → found = a.search? key

theorem right_empty (a : Assembly) (generation : Nat) : Right a generation {} := by
  intro key found h
  cases h

/-- A resolver that is right gives what a text names, and stays right. -/
theorem resolve_gives (input : String) (hr : r.Right a generation) (hs : s.Shows a generation) :
    (r.resolve input s).1 = a.search? (trimmed input) ∧
      (r.resolve input s).2.1.Right a generation ∧ (r.resolve input s).2.2.Shows a generation := by
  have hvalue := r.cache.get_fst generation (trimmed input)
  have hkept := r.cache.kept?_get generation (trimmed input)
  rw [resolve, hs.generation_eq]
  split
  · next known cache hget =>
    rw [hget] at hvalue hkept
    exact ⟨hr _ known hvalue.symm, fun key found h ↦ hr key found ((hkept key).symm.trans h), hs⟩
  · next cache hget =>
    rw [hget] at hkept
    obtain ⟨hfound, ht⟩ := search_gives a (trimmed input) Strategy.all hs
    rw [← Assembly.search?] at hfound
    rcases hsearch : search (trimmed input) s Strategy.all with ⟨found, runs, t⟩
    simp only [hsearch] at hfound ht
    refine ⟨hfound, ?_, ht⟩
    intro key known h
    simp only [ht.generation_eq, count, Cache.kept?_insert] at h
    split at h
    · next hkey =>
      cases h
      rw [hkey]
      exact hfound
    · exact hr key known ((hkept key).symm.trans h)

end Resolver

/-- The type that a text names; as a last resort the text is taken as a name. -/
def Assembly.searchType? (a : Assembly) (input : String) : Option TypeDef :=
  match a.search? (trimmed input) with
  | some (.type t) => some t
  | some _ => none
  | none => ((TypeNames.ofTypes a.types.toList).get? (trimmed input)).bind a.typeDef?

namespace Resolver

variable {a : Assembly} {generation : Nat} {r : Resolver} {s : Snapshot}

theorem resolveType_gives (input : String) (hr : r.Right a generation) (hs : s.Shows a generation) :
    (r.resolveType input s).1 = a.searchType? input ∧
      (r.resolveType input s).2.1.Right a generation ∧
      (r.resolveType input s).2.2.Shows a generation := by
  obtain ⟨hfound, hr, hs⟩ := resolve_gives input hr hs
  rw [resolveType, Assembly.searchType?, ← hfound]
  split
  · next t q u hresolve =>
    rw [hresolve] at hr hs ⊢
    exact ⟨rfl, hr, hs⟩
  · next x q u hx hresolve =>
    rw [hresolve] at hr hs ⊢
    cases x with
    | type t => exact absurd rfl (hx t)
    | _ => exact ⟨rfl, hr, hs⟩
  · next q u hresolve =>
    rw [hresolve] at hr hs ⊢
    obtain ⟨hvalue, ht⟩ := Snapshot.useTypeNames_gives a generation u hs
    refine ⟨?_, hr, ht⟩
    simp only [hvalue, ht.assembly_eq]

end Resolver

theorem Members.get?_ofAssembly (a : Assembly) (id : MemberId) : (Members.ofAssembly a).get? id =
    (a.types.toList.flatMap (Members.ofType a)).find? fun x ↦ x.id a.mvid == id := by
  rw [get?, ofAssembly]
  generalize a.types.toList.flatMap (ofType a) = symbols
  induction symbols with
  | nil => rfl
  | cons x symbols ih => rw [List.map_cons, List.lookup_cons, List.find?_cons, ih, BEq.comm]

namespace Assembly

/-- The symbol that stands for a token: the definition it names, or else the first type that carries
it. -/
def named? (a : Assembly) (token : Token) : Option Symbol :=
  (Symbol.ofToken? a token).or ((a.types.toList.find? (·.token == token)).map .type)

variable {a : Assembly} {s : Symbol}

theorem RowsNumbered.named?_of_ofToken? (ha : a.RowsNumbered) {token : Token}
    (h : Symbol.ofToken? a token = some s) : a.named? s.token = some s := by
  rw [ha.token_ofToken? h, named?, h, Option.some_or]

theorem RowsNumbered.named?_of_first (ha : a.RowsNumbered) {front behind : List TypeDef}
    {t : TypeDef} (htypes : a.types.toList = front ++ t :: behind)
    (hfront : ∀ x ∈ front, x.token ≠ t.token) : a.named? t.token = some (.type t) := by
  have hplace : a.types[front.length]? = some t := by
    rw [← Array.getElem?_toList, htypes]
    simp
  have htoken : t.token = Table.typeDef.token (front.length + 1) := ha.types _ _ hplace
  have hfind : a.types.toList.find? (·.token == t.token) = some t := by
    rw [htypes, List.find?_append, List.find?_eq_none.2 (by simpa using hfront)]
    simp
  rw [named?, hfind]
  cases hs : Symbol.ofToken? a t.token with
  | none => rfl
  | some s =>
    have hkind : MemberKind.ofToken? t.token = some .type := by
      rw [MemberKind.ofToken?, htoken, Table.table_token]
      rfl
    rw [Symbol.ofToken?, hkind] at hs
    obtain ⟨row, hrow, rfl⟩ := Option.map_eq_some_iff.1 hs
    have hcarries := ha.types.token_rowOf? hrow
    obtain ⟨i, hi, hget⟩ := Option.bind_eq_some_iff.1 hrow
    have hle : i ≤ front.length := by
      have hrow := (place?_eq_some_iff.1 hi).2
      rw [htoken, Table.row_token] at hrow
      omega
    obtain hlt | rfl := Nat.lt_or_eq_of_le hle
    · rw [← Array.getElem?_toList, htypes, List.getElem?_append_left hlt] at hget
      exact absurd hcarries (hfront row (List.mem_of_getElem? hget))
    · rw [hplace] at hget
      cases hget
      rfl

theorem RowsNumbered.named?_of_members (ha : a.RowsNumbered) {id : MemberId}
    (h : (Members.ofAssembly a).get? id = some s) : a.named? s.token = some s := by
  rw [Members.get?_ofAssembly, List.find?_flatMap, List.findSome?_eq_some_iff] at h
  obtain ⟨front, t, behind, htypes, hs, hfront⟩ := h
  rw [Members.ofType, List.find?_cons] at hs
  split at hs
  · next hid =>
    cases hs
    refine ha.named?_of_first htypes fun x hx heq ↦ ?_
    have hx := hfront x hx
    rw [List.find?_eq_none] at hx
    refine hx (.type x) List.mem_cons_self ?_
    rw [← beq_iff_eq.1 hid]
    simp [Symbol.id, Symbol.token, Symbol.kind, heq]
  · obtain ⟨token, _, htoken⟩ := List.mem_filterMap.1 (List.mem_of_find?_eq_some hs)
    exact ha.named?_of_ofToken? htoken

theorem RowsNumbered.named?_of_resolve? (ha : a.RowsNumbered) {token : Token}
    (h : Symbol.resolve? a token = some s) : a.named? s.token = some s := by
  obtain ⟨definition, _, h⟩ := Option.bind_eq_some_iff.1 h
  exact ha.named?_of_ofToken? h

theorem RowsNumbered.named?_of_findMember? (ha : a.RowsNumbered) {kind : MemberKind}
    {owner : TypeDef} {member : List Char} {types : Option (List String)}
    (h : DocumentationId.findMember? a kind owner member types = some s) :
    a.named? s.token = some s := by
  have hnamed (tokens : List Token) (h : DocumentationId.findNamed? a tokens member = some s) :
      a.named? s.token = some s := by
    obtain ⟨token, _, htoken⟩ := List.mem_filterMap.1 (List.mem_of_find?_eq_some h)
    exact ha.named?_of_ofToken? htoken
  cases kind with
  | type => cases h
  | method =>
    obtain ⟨⟨name, arity⟩, _, h⟩ := Option.bind_eq_some_iff.1 h
    obtain ⟨m, _, h⟩ := Option.bind_eq_some_iff.1 h
    exact ha.named?_of_resolve? h
  | field => exact hnamed _ h
  | property => exact hnamed _ h
  | event => exact hnamed _ h

theorem RowsNumbered.named?_of_documentationId (ha : a.RowsNumbered) {id : DocumentationId}
    {names : TypeNames} (h : id.find? a names = some s) : a.named? s.token = some s := by
  rw [DocumentationId.find?] at h
  split at h
  · obtain ⟨token, _, h⟩ := Option.bind_eq_some_iff.1 h
    exact ha.named?_of_resolve? h
  · obtain ⟨⟨path, member⟩, _, h⟩ := Option.bind_eq_some_iff.1 h
    obtain ⟨token, _, h⟩ := Option.bind_eq_some_iff.1 h
    obtain ⟨owner, _, h⟩ := Option.bind_eq_some_iff.1 h
    exact ha.named?_of_findMember? h

/-- In an assembly with numbered rows the token of a symbol that a text names tells the symbol. -/
theorem RowsNumbered.named?_of_search? (ha : a.RowsNumbered) {input : String}
    (h : a.search? input = some s) : a.named? s.token = some s := by
  obtain ⟨strategy, _, h⟩ := List.exists_of_findSome?_eq_some h
  cases strategy with
  | memberId =>
    obtain ⟨id, _, h⟩ := Option.bind_eq_some_iff.1 h
    split at h
    · exact ha.named?_of_members h
    · cases h
  | documentationId =>
    obtain ⟨id, _, h⟩ := Option.bind_eq_some_iff.1 h
    exact ha.named?_of_documentationId h
  | hexToken =>
    obtain ⟨token, _, h⟩ := Option.bind_eq_some_iff.1 h
    exact ha.named?_of_resolve? h
  | decimalToken =>
    obtain ⟨token, _, h⟩ := Option.bind_eq_some_iff.1 h
    exact ha.named?_of_resolve? h

end Assembly

end CliMetadata
