import CliMetadata.Proofs.Analyzer.Searching

namespace CliMetadata

variable {types : Array TypeDef} {t : TypeDef}

def TypeDef.IsBare (t : TypeDef) : Prop := ∀ kind, t.listed kind = []

/-- All types stand where the tokens of their places point to, except those that list nothing. -/
def Standing (types : Array TypeDef) : Prop :=
  ∀ i t, types[i]? = some t →
    Assembly.place? (Table.typeDef.token (i + 1)) .typeDef = some i ∨ t.IsBare

namespace Standing

theorem empty : Standing #[] := by
  intro i t h
  simp at h

theorem push (h : Standing types) (ht : t.IsBare) : Standing (types.push t) := by
  intro i u hu
  rw [Array.getElem?_push] at hu
  split at hu
  · cases hu
    exact .inr ht
  · exact h i u hu

theorem modifyRow (h : Standing types) (token : Token) (f : TypeDef → TypeDef) :
    Standing (Draft.modifyRow types .typeDef token f) := by
  rw [Draft.modifyRow]
  split
  · next j hj =>
    intro i u hu
    rw [Array.getElem?_modify] at hu
    split at hu
    · next hij =>
      subst hij
      rw [Assembly.eq_token_of_place? hj] at hj
      exact .inl hj
    · exact h i u hu
  · exact h

theorem nestedIn_eq_nil {i : Nat}
    (hi : Assembly.place? (Table.typeDef.token (i + 1)) .typeDef ≠ some i) :
    Draft.nestedIn types i = [] := by
  rw [Draft.nestedIn, List.map_eq_nil_iff, List.filter_eq_nil_iff]
  intro t _ henclosing
  obtain ⟨outer, _, houter⟩ := Option.bind_eq_some_iff.1 (beq_iff_eq.1 henclosing)
  rw [Assembly.eq_token_of_place? houter] at houter
  exact hi houter

theorem completed (h : Standing types) : Standing (types.mapIdx (Draft.completeType types)) := by
  intro i u hu
  rw [Array.getElem?_mapIdx] at hu
  obtain ⟨old, hold, rfl⟩ := Option.map_eq_some_iff.1 hu
  by_cases hi : Assembly.place? (Table.typeDef.token (i + 1)) .typeDef = some i
  · exact .inl hi
  · have hbare := (h i old hold).resolve_left hi
    refine .inr fun kind ↦ ?_
    cases kind with
    | type => exact nestedIn_eq_nil hi
    | method => exact hbare .method
    | property => exact hbare .property
    | field => exact hbare .field
    | event => exact hbare .event

end Standing

namespace Draft

variable {d : Draft}

/-- Every change keeps the types standing that list something. -/
theorem standing_apply (h : Standing d.rows.types) (e : Edit) :
    Standing (e.apply d).rows.types := by
  cases e with
  | addType ns name flags base => exact h.push fun kind ↦ by cases kind <;> rfl
  | nest inner outer => exact h.modifyRow inner _
  | addInterface type interface => exact h.modifyRow type _
  | addGenericParam owner name => exact h.modifyRow owner _
  | addMethod type name flags signature => exact h.modifyRow type _
  | addField type name flags signature => exact h.modifyRow type _
  | addProperty type name flags signature => exact h.modifyRow type _
  | addEvent type name flags eventType => exact h.modifyRow type _
  | _ => exact h

theorem Reachable.standing (h : d.Reachable) : Standing d.rows.types := by
  induction h with
  | new name => exact .empty
  | again _ ih => exact ih.completed
  | edit e _ ih => exact standing_apply ih e

end Draft

namespace Assembly

variable {a : Assembly}

theorem Built.place?_or_isBare (h : a.Built) {i : Nat} (ht : a.types[i]? = some t) :
    place? t.token .typeDef = some i ∨ t.IsBare := by
  rw [h.rowsNumbered.types i t ht]
  obtain ⟨d, hd, rfl⟩ := h
  exact hd.standing.completed i t ht

theorem RowsNumbered.eq_of_searchType? (h : a.RowsNumbered) {input : String} {u : TypeDef}
    (ht : a.searchType? input = some t) (hu : a.typeDef? t.token = some u) : u = t := by
  rw [searchType?] at ht
  split at ht
  · next v hv =>
    cases ht
    have hnamed := h.named?_of_search? hv
    have hfound : Symbol.ofToken? a t.token = some (.type u) := Symbol.ofToken?_eq_some_iff.2 hu
    have hfirst : a.named? t.token = some (.type u) := by rw [named?, hfound, Option.some_or]
    cases hnamed.symm.trans hfirst
    rfl
  · cases ht
  · obtain ⟨token, _, hfound⟩ := Option.bind_eq_some_iff.1 ht
    rw [h.types.token_rowOf? hfound] at hu
    exact Option.some.inj (hu.symm.trans hfound)

end Assembly

theorem flatMap_filter_eq {α β : Type} {l : List α} {i : Nat} {x : α} {p : α → Bool}
    {f : α → List β} (hx : l[i]? = some x) (hp : p x = true)
    (hrest : ∀ j y, l[j]? = some y → p y = true → j ≠ i → f y = []) :
    (l.filter p).flatMap f = f x := by
  induction l generalizing i with
  | nil => cases hx
  | cons y l ih =>
    cases i with
    | zero =>
      cases hx
      have hnone : (l.filter p).flatMap f = [] := by
        rw [List.flatMap_eq_nil_iff]
        intro z hz
        obtain ⟨hmem, hpz⟩ := List.mem_filter.1 hz
        obtain ⟨j, hj⟩ := List.getElem?_of_mem hmem
        exact hrest (j + 1) z hj hpz (Nat.succ_ne_zero j)
      rw [List.filter_cons_of_pos hp, List.flatMap_cons, hnone, List.append_nil]
    | succ i =>
      have hl := ih hx fun j z hj hpz hne ↦ hrest (j + 1) z hj hpz (by omega)
      by_cases hpy : p y = true
      · rw [List.filter_cons_of_pos hpy, List.flatMap_cons, hl, hrest 0 y rfl hpy (by omega),
          List.nil_append]
      · rw [List.filter_cons_of_neg hpy, hl]

namespace Search

section Members

variable {w : World} (hbuilt : w.assembly.Built) {kinds : List MemberKind}

theorem membersOf_of_isBare (a : Assembly) (ht : t.IsBare) (kinds : List MemberKind) :
    membersOf a t kinds = [] := by
  have hnone (kind : MemberKind) : t.listed kind = [] := ht kind
  simp [membersOf_eq, hnone]

include hbuilt

theorem filter_membersOf (ht : t ∈ w.assembly.types) (hkinds : .type ∉ kinds) :
    (membersOf w.assembly t (if kinds.isEmpty then MemberKind.members else kinds)).filter
      (·.kind != .type) = membersOf w.assembly t kinds := by
  have hall : membersOf w.assembly t (if kinds.isEmpty then MemberKind.members else kinds)
      = membersOf w.assembly t kinds := by
    cases kinds <;> rfl
  rw [hall, List.filter_eq_self]
  intro x hx
  rw [bne_iff_ne]
  obtain ⟨_, hkind⟩ | hkind := ((mem_membersOf_iff hbuilt ht).1 hx).2
  · exact hkind
  · exact fun htype ↦ hkinds (htype ▸ hkind)

omit hbuilt in
theorem onlyType_eq {input : String} (ht : w.assembly.searchType? input = some t) :
    w.onlyType (some input) (w.typesAmong none) =
      w.assembly.types.toList.filter fun u ↦ t.token == u.token && u.fullName != moduleType := by
  rw [World.onlyType, ht, World.typesAmong, typesAmong, List.filter_filter]
  rfl

/-- A search limited to the type that a text names finds what the type lists. -/
theorem found_oneType {input : String} (ht : w.assembly.searchType? input = some t)
    (hname : t.fullName ≠ moduleType) (hkinds : .type ∉ kinds) (isPattern : Bool)
    (request : PageRequest) :
    found w (.members { isPattern, declaringType := some input, kinds, page := request })
      = found w (.typeMembers t.token kinds request) := by
  have hsearch :
      found w (.members { isPattern, declaringType := some input, kinds, page := request })
        = (w.onlyType (some input) (w.typesAmong none)).flatMap
          fun u ↦ membersOf w.assembly u kinds := by
    refine (List.filter_eq_self.2 fun _ _ ↦ rfl).trans ?_
    refine List.flatMap_congr fun u hu ↦ filter_membersOf hbuilt ?_ hkinds
    rw [onlyType_eq ht] at hu
    exact Array.mem_toList_iff.1 (List.mem_filter.1 hu).1
  rw [hsearch, onlyType_eq ht, found]
  cases hfound : w.assembly.typeDef? t.token with
  | some u =>
    obtain rfl := hbuilt.rowsNumbered.eq_of_searchType? ht hfound
    obtain ⟨i, hi, htype⟩ := Option.bind_eq_some_iff.1 hfound
    refine flatMap_filter_eq (i := i) ?_ ?_ ?_
    · rw [Array.getElem?_toList, htype]
    · rw [Bool.and_eq_true, bne_iff_ne]
      exact ⟨beq_iff_eq.2 rfl, hname⟩
    · intro j y hj hy hne
      rw [Array.getElem?_toList] at hj
      rw [Bool.and_eq_true, beq_iff_eq] at hy
      obtain hplace | hbare := hbuilt.place?_or_isBare hj
      · rw [← hy.1, hi] at hplace
        exact absurd (Option.some.inj hplace).symm hne
      · exact membersOf_of_isBare _ hbare kinds
  | none =>
    rw [Option.elim_none, List.flatMap_eq_nil_iff]
    intro y hy
    rw [List.mem_filter, Array.mem_toList_iff, Bool.and_eq_true, beq_iff_eq] at hy
    obtain ⟨hmem, htoken, _⟩ := hy
    obtain ⟨j, hj⟩ := Array.mem_iff_getElem?.1 hmem
    obtain hplace | hbare := hbuilt.place?_or_isBare hj
    · rw [Assembly.typeDef?, Assembly.rowOf?, htoken, hplace, Option.bind_some, hj] at hfound
      cases hfound
    · exact membersOf_of_isBare _ hbare kinds

/-- Listings of a type's members are the pages of the search that is limited to the type. -/
theorem membersOfType_eq_page {input : String} (ht : w.assembly.searchType? input = some t)
    (hname : t.fullName ≠ moduleType) (hkinds : .type ∉ kinds) (isPattern : Bool)
    (request : PageRequest) : w.membersOfType input kinds request
      = w.page (.members { isPattern, declaringType := some input, kinds, page := request }) := by
  have hhits := congrArg (List.map (Hit.ofSymbol w.assembly))
    (found_oneType hbuilt ht hname hkinds isPattern request)
  rw [← hits_eq, ← hits_eq] at hhits
  rw [World.membersOfType, World.requireType, ht]
  cases hwindow : w.window request with
  | ok v =>
    change w.page (.typeMembers t.token kinds request) = _
    rw [World.page_of_window _ hwindow, World.page_of_window _ hwindow, hhits]
  | error e => exact (World.page_of_window_error hwindow).symm

end Members

end Search

namespace Analyzer

/-- At every point of a run with a built assembly, a search for all members of a type, of whatever
kinds, and the listing of these members give the same page or the same error. -/
theorem run_memberListings_agree {config : Config} (engine : PatternEngine) (calls : List Call)
    {s : Snapshot} (hs : (run { config, engine } calls).snapshot = some s)
    (hbuilt : s.assembly.Built) {input : String} {t : TypeDef}
    (ht : (resolveType? input (run { config, engine } calls)).1 = .ok (some t))
    (hname : t.fullName ≠ "<Module>") {kinds : List MemberKind} (hkinds : .type ∉ kinds)
    (isPattern : Bool) (request : PageRequest) :
    let z := run { config, engine } calls
    (searchMembers { isPattern, declaringType := some input, kinds, page := request } z).1
      = (membersOfType input kinds request z).1 := by
  intro z
  let w : Era := ⟨⟨config, engine, s.assembly⟩, s.generation⟩
  have hz : z.Shows w := ((sound_start config engine).run calls).shows s hs
  have hfound : w.assembly.searchType? input = some t :=
    Except.ok.inj ((resolveType?_answers w input z hz).1.symm.trans ht)
  have hlisting := (membersOfType_answers w input kinds request z hz).1
  rw [Search.membersOfType_eq_page hbuilt hfound hname hkinds isPattern request] at hlisting
  exact (searchMembers_answers w _ z hz).1.trans hlisting.symm

theorem run_memberListings_agree_callingItself :
    let a := Assembly.callingItself
    let z := run { config := {}, engine := fun _ _ ↦ none } [.install 0 a]
    a.Built ∧ (∃ t, (resolveType? "0x02000001" z).1 = .ok (some t) ∧ t.fullName ≠ "<Module>") ∧
      MemberKind.type ∉ [MemberKind.method] ∧
      (searchMembers { declaringType := some "0x02000001", kinds := [.method] } z).1
        = (membersOfType "0x02000001" [.method] {} z).1 := by
  intro a z
  have hname : (a.types[0]).fullName ≠ "<Module>" := by decide
  have hkinds : MemberKind.type ∉ [MemberKind.method] := by decide
  have ht : (resolveType? "0x02000001" z).1 = .ok (some a.types[0]) := rfl
  exact ⟨Assembly.built_callingItself, ⟨_, ht, hname⟩, hkinds,
    run_memberListings_agree (fun _ _ ↦ none) [.install 0 a] rfl Assembly.built_callingItself ht
      hname hkinds false {}⟩

end Analyzer

end CliMetadata
