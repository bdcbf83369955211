import CliMetadata.Proofs.Analyzer.Run
import CliMetadata.Proofs.Assembly.Ending
import CliMetadata.Proofs.Search.Found

namespace CliMetadata

theorem Search.pageOf_hits (w : World) (key : SearchKey) (v : Window) :
    pageOf w.assembly (w.hits key) v
      = .complete ((results w key).map (·.summary w.assembly)) v := by
  rw [pageOf, Page.map_complete, hits_eq, results, List.map_map]
  rfl

theorem length_sortedNamespaces_le (a : Assembly) : (sortedNamespaces a).length ≤ a.types.size := by
  rw [sortedNamespaces, List.length_mergeSort]
  calc _ ≤ ((a.types.toList.map (·.ns)).filter (· != "")).length := length_eraseDups_le _
    _ ≤ (a.types.toList.map (·.ns)).length := List.length_filter_le _ _
    _ = a.types.size := by rw [List.length_map, Array.length_toList]

def Assembly.shopNamespaces : Assembly :=
  ([Draft.Edit.addType "N:Shop" "Order" 1 none,
    .addType "Shop" "Basket" 1 none].foldl Draft.Edit.apply (.new "App")).build

namespace Analyzer

section Walks

variable {α : Type}

/-- The pages with these limits up to the first one that has no more. -/
def followed (ask : PageRequest → Query (Page α)) :
    List (Option Nat) → Option String → Query (List (Page α))
  | [], _ => pure []
  | limit :: limits, cursor => do
    let page ← ask ⟨limit, cursor⟩
    if page.hasMore then do
      let pages ← followed ask limits page.nextCursor
      pure (page :: pages)
    else pure [page]

/-- A query whose pages, whatever their limits are, follow one another through all results. -/
def Paged (ask : PageRequest → Query (Page α)) (results : List α) (z : Analyzer) : Prop :=
  ∀ limits, some 0 ∉ limits → ∃ pages, (followed ask limits none z).1 = .ok pages ∧
    Page.Turned results 0 limits.length pages

variable {w : Era} {z : Analyzer} {ask : PageRequest → Query (Page α)} {results : List α}
  {limits : List (Option Nat)} {cursor : Option String} {offset : Nat}

theorem followed_answers (hconfig : w.config.validate = .ok ())
    (hask : ∀ request v, w.window request = .ok v →
      Answers w (ask request) (.ok (.complete results v)))
    (hlength : results.length < 0x10000000000000000) (hlimits : some 0 ∉ limits)
    (hcursor : Window.StartsAt cursor offset) (hoffset : offset ≤ results.length) :
    ∃ pages, Answers w (followed ask limits cursor) (.ok pages) ∧
      Page.Turned results offset limits.length pages := by
  induction limits generalizing cursor offset with
  | nil => exact ⟨[], answers_pure [], Page.turned_nil results offset⟩
  | cons limit limits ih =>
    have hlimit : limit ≠ some 0 := fun h ↦ hlimits (h ▸ List.mem_cons_self)
    obtain ⟨v, hv, rfl, hpos, hle⟩ :=
      Window.ofRequest_valid hconfig hlimit hcursor (by omega)
    have hpage := hask ⟨limit, cursor⟩ v hv
    cases hmore : (Page.complete results v).hasMore with
    | false =>
      refine ⟨[.complete results v], hpage.ok_bind ?_, Page.turned_last hpos hle hmore⟩
      rw [hmore]
      exact answers_pure _
    | true =>
      have hcontinues := Page.complete_continues results v
      have hitems := hcontinues.length_le
      obtain ⟨pages, hpages, hturned⟩ := ih (fun h ↦ hlimits (List.mem_cons_of_mem _ h))
        (hcontinues.startsAt_next hmore) (by omega)
      refine ⟨.complete results v :: pages, hpage.ok_bind ?_,
        Page.turned_cons hpos hle hmore hturned⟩
      rw [hmore]
      exact hpages.ok_bind (answers_pure _)

theorem paged_of_answers (hconfig : w.config.validate = .ok ()) (hz : z.Shows w)
    (hlength : results.length < 0x10000000000000000)
    (hask : ∀ request v, w.window request = .ok v →
      Answers w (ask request) (.ok (.complete results v))) : Paged ask results z := by
  intro limits hlimits
  obtain ⟨pages, hpages, hturned⟩ := followed_answers hconfig hask hlength hlimits
    (.inl ⟨rfl, rfl⟩) (Nat.zero_le _)
  exact ⟨pages, (hpages z hz).1, hturned⟩

/-- Enough pages have all results, so a query pages through one list only. -/
theorem Paged.unique {others : List α} (h : Paged ask results z) (h' : Paged ask others z) :
    results = others := by
  let limits : List (Option Nat) := List.replicate (results.length + others.length + 1) none
  have hlimits : some 0 ∉ limits := fun hmem ↦ by cases List.eq_of_mem_replicate hmem
  have hcount : limits.length = results.length + others.length + 1 := List.length_replicate
  obtain ⟨pages, hpages, hturned⟩ := h limits hlimits
  obtain ⟨same, hsame, hturned'⟩ := h' limits hlimits
  obtain rfl := Except.ok.inj (hpages.symm.trans hsame)
  have hall := hturned.covers.all (hturned.finished (by omega) (by omega))
  exact hall.symm.trans (hturned'.covers.all (hturned'.finished (by omega) (by omega)))

end Walks

/-- A query whose pages give the wanted symbols of the assembly in order. -/
def Serves (a : Assembly) (ask : PageRequest → Query (Page Symbol.Summary))
    (wanted : Symbol → Prop) (z : Analyzer) : Prop :=
  ∃ symbols, Search.Lists a symbols wanted ∧ Paged ask (symbols.map (·.summary a)) z

section Searches

variable {w : Era} {z : Analyzer} (hconfig : w.config.validate = .ok ()) (hz : z.Shows w)
  {ask : PageRequest → Query (Page Symbol.Summary)} {wanted : Symbol → Prop}

include hconfig hz

theorem serves_of_lists (key : PageRequest → SearchKey) {symbols : List Symbol}
    (hlists : Search.Lists w.assembly symbols wanted)
    (hkey : ∀ request, Search.results w.toWorld (key request) = symbols)
    (hask : ∀ request v, w.window request = .ok v →
      Answers w (ask request) (.ok (Search.pageOf w.assembly (w.hits (key request)) v))) :
    Serves w.assembly ask wanted z := by
  refine ⟨symbols, hlists, paged_of_answers hconfig hz ?_ fun request v hv ↦ ?_⟩
  · have hle := hlists.length_le
    rw [List.length_map]
    omega
  · rw [← hkey request, ← Search.pageOf_hits]
    exact hask request v hv

theorem searchTypes_serves (hrows : w.assembly.RowsNumbered) (hfew : w.assembly.TokensSuffice)
    (search : TypeSearch) : Serves w.assembly (fun page ↦ searchTypes { search with page })
      (fun x ↦ ∃ t, x = .type t ∧ Search.TypeFits w.toWorld search t) z := by
  refine serves_of_lists hconfig hz (fun page ↦ .types { search with page })
    (Search.lists_typeSearch hrows hfew search) (fun _ ↦ rfl) fun request v hv ↦ ?_
  rw [← World.page_of_window (.types { search with page := request }) hv]
  exact searchTypes_answers w _

theorem searchMembers_serves (hbuilt : w.assembly.Built) (hfew : w.assembly.TokensSuffice)
    (search : MemberSearch) : Serves w.assembly (fun page ↦ searchMembers { search with page })
      (Search.MemberFits w.toWorld search) z := by
  refine serves_of_lists hconfig hz (fun page ↦ .members { search with page })
    (Search.lists_memberSearch hbuilt hfew search) (fun _ ↦ rfl) fun request v hv ↦ ?_
  rw [← World.page_of_window (.members { search with page := request }) hv]
  exact searchMembers_answers w _

/-- A namespace is asked for by its identifier or its name. The name that is found there is itself
taken for an identifier where it looks like one. -/
theorem typesInNamespace_serves (hrows : w.assembly.RowsNumbered)
    (hfew : w.assembly.TokensSuffice) (input : String) :
    Serves w.assembly (typesInNamespace input) (fun x ↦
      ∃ t, x = .type t ∧ Search.Among w.toWorld (some (NamespaceId.nameOf input)) t) z := by
  refine serves_of_lists hconfig hz (.namespaceTypes (NamespaceId.nameOf input))
    (Search.lists_namespaceTypes hrows hfew (NamespaceId.nameOf input) {}) (fun _ ↦ rfl)
    fun request v hv ↦ ?_
  rw [← World.page_of_window (.namespaceTypes (NamespaceId.nameOf input) request) hv]
  exact typesInNamespace_answers w input request

theorem membersOfType_serves (hbuilt : w.assembly.Built) (hfew : w.assembly.TokensSuffice)
    (kinds : List MemberKind) {input : String} {owner : TypeDef}
    (howner : w.assembly.searchType? input = some owner) :
    Serves w.assembly (membersOfType input kinds) (fun x ↦
      w.assembly.HasMember owner x ∧ (kinds = [] ∧ x.kind ≠ .type ∨ x.kind ∈ kinds)) z := by
  have hmem := hbuilt.rowsNumbered.mem_of_searchType? howner
  refine serves_of_lists hconfig hz (.typeMembers owner.token kinds)
    (Search.lists_typeMembers hbuilt hfew hmem {}) (fun _ ↦ rfl) fun request v hv ↦ ?_
  have hanswer : w.membersOfType input kinds request
      = .ok (Search.pageOf w.assembly (w.hits (.typeMembers owner.token kinds request)) v) := by
    rw [World.membersOfType, hv, World.requireType, howner, ← World.page_of_window
      (.typeMembers owner.token kinds request) hv]
    rfl
  rw [← hanswer]
  exact membersOfType_answers w input kinds request

theorem namespaces_paged (hfew : w.assembly.TokensSuffice) :
    Paged namespaces (sortedNamespaces w.assembly) z := by
  have htypes := hfew.types
  have hlength := length_sortedNamespaces_le w.assembly
  refine paged_of_answers hconfig hz (by omega) fun request v hv ↦ ?_
  have hanswer : w.namespaces request = .ok (.complete (sortedNamespaces w.assembly) v) := by
    rw [World.namespaces, hv]
    rfl
  rw [← hanswer]
  exact namespaces_answers w request

end Searches

theorem Serves.exists_summary_eq {a : Assembly} {ask : PageRequest → Query (Page Symbol.Summary)}
    {wanted other : Symbol → Prop} {z : Analyzer} (h : Serves a ask wanted z)
    (h' : Serves a ask other z) {x : Symbol} (hx : wanted x) :
    ∃ y, other y ∧ y.summary a = x.summary a := by
  obtain ⟨symbols, hlists, hpaged⟩ := h
  obtain ⟨others, hothers, hpaged'⟩ := h'
  have hmem : x.summary a ∈ symbols.map (·.summary a) :=
    List.mem_map_of_mem ((hlists.mem_iff x).2 hx)
  rw [hpaged.unique hpaged'] at hmem
  obtain ⟨y, hy, heq⟩ := List.mem_map.1 hmem
  exact ⟨y, (hothers.mem_iff y).1 hy, heq⟩

/-- At every point of a run, with valid settings, all searches give page by page the symbols that
meet their conditions, in order and none twice, and the namespaces come in pages as well. A
namespace's identifier is read twice: what it names is again taken for an identifier where it looks
like one. Specifications must not lead to themselves: pages name the types of members, and the type
to search can be given by any token. -/
theorem run_searches {config : Config} (hconfig : config.validate = .ok ())
    (engine : PatternEngine) (calls : List Call) {s : Snapshot}
    (hs : (run { config, engine } calls).snapshot = some s) (hbuilt : s.assembly.Built)
    (hfew : s.assembly.TokensSuffice) (htypes : s.assembly.TypeSpecsEnd)
    (hspecs : s.assembly.MethodSpecsEnd) :
    let z := run { config, engine } calls
    let a := s.assembly
    let w : World := ⟨config, engine, a⟩
    a.TypesNamed ∧ a.SpecsFollowed ∧
      (∀ search, Serves a (fun page ↦ searchTypes { search with page })
        (fun x ↦ ∃ t, x = .type t ∧ Search.TypeFits w search t) z) ∧
      (∀ search, Serves a (fun page ↦ searchMembers { search with page })
        (Search.MemberFits w search) z) ∧
      (∀ input, Serves a (typesInNamespace input)
        (fun x ↦ ∃ t, x = .type t ∧ Search.Among w (some (NamespaceId.nameOf input)) t) z) ∧
      (∀ input, NamespaceId.nameOf (NamespaceId.nameOf input) = NamespaceId.nameOf input →
        Serves a (typesInNamespace input)
          (fun x ↦ ∃ t, x = .type t ∧ Search.Among w (some input) t) z) ∧
      (∀ input kinds owner, (resolveType? input z).1 = .ok (some owner) →
        Serves a (membersOfType input kinds) (fun x ↦
          a.HasMember owner x ∧ (kinds = [] ∧ x.kind ≠ .type ∨ x.kind ∈ kinds)) z) ∧
      Paged namespaces (sortedNamespaces a) z := by
  intro z a w
  have hz : z.Shows ⟨w, s.generation⟩ := ((sound_start config engine).run calls).shows s hs
  have hrows := hbuilt.rowsNumbered
  refine ⟨Assembly.typeSpecsEnd_iff.1 htypes, Assembly.methodSpecsEnd_iff.1 hspecs,
    searchTypes_serves hconfig hz hrows hfew, searchMembers_serves hconfig hz hbuilt hfew,
    typesInNamespace_serves hconfig hz hrows hfew, fun input hname ↦ ?_,
    fun input kinds owner howner ↦ ?_, namespaces_paged hconfig hz hfew⟩
  · have hserves := typesInNamespace_serves hconfig hz hrows hfew input
    have hamong (t : TypeDef) : Search.Among w (some (NamespaceId.nameOf input)) t ↔
        Search.Among w (some input) t := by
      constructor <;> rintro ⟨hmem, hnamed, hns⟩ <;> refine ⟨hmem, hnamed, ?_⟩ <;> rintro _ ⟨⟩
      · rw [← hname]
        exact hns _ rfl
      · rw [hname]
        exact hns _ rfl
    simpa only [hamong] using hserves
  · have hanswer := (resolveType?_answers _ input z hz).1.symm.trans howner
    exact membersOfType_serves hconfig hz hbuilt hfew kinds (Except.ok.inj hanswer)

theorem run_searches_callingItself :
    let a := Assembly.callingItself
    let z := run { config := {}, engine := fun _ _ ↦ none } [.install 0 a]
    Config.validate {} = .ok () ∧ a.Built ∧ a.TokensSuffice ∧ a.TypeSpecsEnd ∧ a.MethodSpecsEnd ∧
      ∃ owner, (resolveType? "0x02000001" z).1 = .ok (some owner) ∧
        Serves a (membersOfType "0x02000001" [.method]) (fun x ↦ a.HasMember owner x ∧
          ([MemberKind.method] = [] ∧ x.kind ≠ .type ∨ x.kind ∈ [MemberKind.method])) z := by
  intro a z
  have hfew : a.TokensSuffice := ⟨by decide, by decide, by decide, by decide, by decide⟩
  have hvalid : Config.validate {} = .ok () := rfl
  have hbuilt : a.Built := Assembly.built_callingItself
  have htypes : a.TypeSpecsEnd := Assembly.typeSpecsEnd_callingItself
  have hspecs : a.MethodSpecsEnd := Assembly.methodSpecsEnd_callingItself
  obtain ⟨_, _, _, _, _, _, hmembers, _⟩ := run_searches hvalid (fun _ _ ↦ none) [.install 0 a] rfl
    hbuilt hfew htypes hspecs
  exact ⟨hvalid, hbuilt, hfew, htypes, hspecs, _, rfl, hmembers "0x02000001" [.method] _ rfl⟩

/-- A namespace whose name looks like an identifier is found by its own identifier, but asking for
its types gives those of the other namespace. -/
theorem typesInNamespace_markedTwice :
    let a := Assembly.shopNamespaces
    let z := run { config := {}, engine := fun _ _ ↦ none } [.install 0 a]
    let w : World := ⟨{}, fun _ _ ↦ none, a⟩
    a.Built ∧ Config.validate {} = .ok () ∧
      (namespaceOf? "N:N:Shop" z).1 = .ok (some "N:Shop") ∧
      ¬Serves a (typesInNamespace "N:N:Shop")
        (fun x ↦ ∃ t, x = .type t ∧ Search.Among w (some "N:N:Shop") t) z := by
  intro a z w
  have hbuilt : a.Built := ⟨_, .edits (.new "App") _, rfl⟩
  refine ⟨hbuilt, rfl, rfl, fun h ↦ ?_⟩
  have hfew : a.TokensSuffice := ⟨by decide, by decide, by decide, by decide, by decide⟩
  have hz : z.Shows ⟨w, 1⟩ := ((sound_start {} fun _ _ ↦ none).run [.install 0 a]).shows _ rfl
  have hserves := typesInNamespace_serves rfl hz hbuilt.rowsNumbered hfew "N:N:Shop"
  have horder : ∃ t ∈ a.types, t.fullName = "N:Shop.Order" ∧ t.ns = "N:Shop" :=
    ⟨a.types[0], Array.getElem_mem _, by decide, by decide⟩
  obtain ⟨order, hmem, hname, hns⟩ := horder
  have hwanted : Search.Among w (some "N:N:Shop") order := by
    refine ⟨hmem, by rw [hname]; decide, ?_⟩
    rintro _ ⟨⟩
    rw [hns]
    rfl
  obtain ⟨_, ⟨t, rfl, ht⟩, hsummary⟩ := h.exists_summary_eq hserves ⟨order, rfl, hwanted⟩
  have hsame : t.ns = order.ns := congrArg Symbol.Summary.namespaceName hsummary
  rw [ht.inNamespace _ rfl, hns] at hsame
  exact absurd hsame (by decide)

end Analyzer

end CliMetadata
