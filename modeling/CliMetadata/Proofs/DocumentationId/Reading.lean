import CliMetadata.Proofs.Identifier

namespace CliMetadata

theorem splitFirst?_eq_some_iff {c : Char} {cs front rest : List Char} :
    splitFirst? c cs = some (front, rest) ↔ cs = front ++ c :: rest ∧ c ∉ front := by
  constructor
  · intro h
    induction cs generalizing front with
    | nil => cases h
    | cons x cs ih =>
      rw [splitFirst?] at h
      split at h
      · next hx =>
        cases h
        exact ⟨by rw [hx, List.nil_append], List.not_mem_nil⟩
      · next hx =>
        obtain ⟨⟨inner, behind⟩, hsplit, heq⟩ := Option.map_eq_some_iff.1 h
        cases heq
        obtain ⟨rfl, hinner⟩ := ih hsplit
        exact ⟨rfl, by simpa using ⟨Ne.symm hx, hinner⟩⟩
  · rintro ⟨rfl, h⟩
    exact splitFirst?_append h

namespace DocumentationId

variable {id : DocumentationId} {input : String}

theorem ofText?_eq_some_iff : ofText? input = some id ↔
    ∃ rest, input.toList = id.kind.code :: ':' :: rest ∧ id.name = trimBlank rest := by
  constructor
  · intro h
    obtain ⟨⟨mark, rest⟩, hsplit, h⟩ := Option.bind_eq_some_iff.1 h
    obtain ⟨hinput, _⟩ := splitFirst?_eq_some_iff.1 hsplit
    dsimp only at h
    split at h
    · obtain ⟨kind, hkind, h⟩ := Option.bind_eq_some_iff.1 h
      cases h
      rw [MemberKind.ofCode?_eq_some_iff.1 hkind] at hinput
      exact ⟨rest, hinput, rfl⟩
    · cases h
  · rintro ⟨rest, hinput, hname⟩
    have hcolon : ':' ∉ [id.kind.code] := by
      cases id.kind <;> decide
    rw [ofText?, hinput, ← List.singleton_append, splitFirst?_append hcolon]
    simp only [Option.bind_eq_bind, Option.bind_some, MemberKind.ofCode?_eq_some_iff.2 rfl,
      ← hname, Option.pure_def]

section Alone

variable (h : ofText? input = some id)

include h

theorem memberId?_of_ofText? : MemberId.parse? input = none := by
  obtain ⟨rest, hinput, _⟩ := ofText?_eq_some_iff.1 h
  have hversion : MemberId.readVersion [id.kind.code]
      = .error (.invalidArgument (.versionLength 1)) := by
    cases id.kind <;> rfl
  have hcolon : ':' ∉ [id.kind.code] := by
    cases id.kind <;> decide
  rw [MemberId.parse?, MemberId.parse, hinput, ← List.singleton_append, segments_append hcolon]
  split
  · next heq =>
    obtain ⟨rfl, _⟩ := List.cons.inj heq
    rw [hversion]
    rfl
  · rfl

theorem hexToken?_of_ofText? : Strategy.hexToken? input = none := by
  obtain ⟨rest, hinput, _⟩ := ofText?_eq_some_iff.1 h
  have hdigit : id.kind.code ≠ '0' := by
    cases id.kind <;> decide
  rw [Strategy.hexToken?, hinput]
  split
  · next heq => exact absurd (List.cons.inj heq).1 hdigit
  · next heq => exact absurd (List.cons.inj heq).1 hdigit
  · rfl

theorem decimalToken?_of_ofText? : Strategy.decimalToken? input = none := by
  obtain ⟨rest, hinput, _⟩ := ofText?_eq_some_iff.1 h
  have hsign : id.kind.code ≠ '+' := by
    cases id.kind <;> decide
  have hplus : Numeral.withoutPlus input.toList = input.toList := by
    rw [hinput, Numeral.withoutPlus]
    exact fun _ heq ↦ hsign (List.cons.inj heq).1
  have hne : input.toList ≠ [] := by
    rw [hinput]
    exact List.cons_ne_nil _ _
  have hdecimal : Numeral.decimal? 32 (String.ofList input.toList) = _ :=
    Numeral.decimal?_ofList hne hplus
  have hcolon : ':' ∈ input.toList := by
    rw [hinput]
    simp
  rw [Numeral.decimalValue?_of_foreign (by decide) hcolon, String.ofList_toList] at hdecimal
  rw [Strategy.decimalToken?, hdecimal]
  rfl

theorem search?_of_ofText? (a : Assembly) :
    a.search? input = id.find? a (.ofTypes a.types.toList) := by
  rw [Assembly.search?, Strategy.all]
  simp only [List.findSome?_cons, List.findSome?_nil, Strategy.find?, memberId?_of_ofText? h,
    hexToken?_of_ofText? h, decimalToken?_of_ofText? h, h, Option.bind_none, Option.bind_some]
  cases id.find? a (.ofTypes a.types.toList) <;> rfl

end Alone

end DocumentationId

def MemberKind.lettered (kind : MemberKind) (name : String) : String :=
  String.singleton kind.code ++ ":" ++ name

theorem Assembly.search?_lettered (a : Assembly) (kind : MemberKind) {name : String}
    (hfirst : ∀ c, name.toList.head? = some c → isBlank c = false)
    (hlast : ∀ c, name.toList.getLast? = some c → isBlank c = false) :
    a.search? (trimmed (kind.lettered name)) =
      DocumentationId.find? a (.ofTypes a.types.toList) ⟨kind, name.toList⟩ := by
  have htext : (kind.lettered name).toList = kind.code :: ':' :: name.toList := by
    simp [MemberKind.lettered]
  have hcode : isBlank kind.code = false := by
    cases kind <;> decide
  have htrimmed : trimmed (kind.lettered name) = kind.lettered name := by
    refine trimmed_eq_self (fun c hc ↦ ?_) fun c hc ↦ ?_
    · rw [htext, List.head?_cons, Option.some_inj] at hc
      rwa [← hc]
    · rw [htext, List.getLast?_cons_cons] at hc
      rcases hname : name.toList.getLast? with _ | last
      · rw [List.getLast?_eq_none_iff.1 hname, List.getLast?_singleton, Option.some_inj] at hc
        rw [← hc]
        decide
      · rw [List.getLast?_cons, hname, Option.getD_some, Option.some_inj] at hc
        exact hlast c (hc ▸ hname)
  have hread : DocumentationId.ofText? (kind.lettered name) = some ⟨kind, name.toList⟩ :=
    DocumentationId.ofText?_eq_some_iff.2 ⟨_, htext, (trimBlank_eq_self hfirst hlast).symm⟩
  rw [htrimmed, DocumentationId.search?_of_ofText? hread]

namespace TypeNames

variable {types : List TypeDef} {name : String}

theorem exists_of_fullName? {token : Token} (h : (ofTypes types).fullName? name = some token) :
    ∃ t ∈ types, t.fullName = name ∧ t.token = token := by
  obtain ⟨front, behind, hsplit, _⟩ := List.lookup_eq_some_iff.1 h
  have hmem : (name, token) ∈ (ofTypes types).byFullName := by
    rw [hsplit]
    exact List.mem_append_right _ List.mem_cons_self
  obtain ⟨t, ht, heq⟩ := List.mem_map.1 (List.mem_reverse.1 hmem)
  cases heq
  exact ⟨t, ht, rfl, rfl⟩

theorem exists_fullName? {t : TypeDef} (ht : t ∈ types) :
    ∃ token, (ofTypes types).fullName? t.fullName = some token := by
  rw [← Option.isSome_iff_exists, fullName?, List.lookup_isSome_iff]
  exact ⟨(t.fullName, t.token), List.mem_reverse.2 (List.mem_map.2 ⟨t, ht, rfl⟩),
    beq_self_eq_true _⟩

end TypeNames

namespace Assembly

variable {a : Assembly} {x : Symbol} {input : String}

theorem resolve?_of_standsAt {token : Token} (h : x.StandsAt a token) :
    Symbol.resolve? a token = some x := by
  rw [Symbol.resolve?, resolve?_of_contains (contains_of_standsAt h), Option.bind_some]
  exact Symbol.ofToken?_eq_some_iff.2 h

theorem accepts_of_find? {strategy : Strategy} (h : strategy.find? a input = some x) :
    strategy.accepts input = true ∨ DocumentationId.ofText? input = some ⟨.type, []⟩ := by
  cases strategy with
  | memberId =>
    obtain ⟨id, hid, _⟩ := Option.bind_eq_some_iff.1 h
    exact .inl (Option.isSome_of_eq_some hid)
  | documentationId =>
    obtain ⟨⟨kind, name⟩, hid, h⟩ := Option.bind_eq_some_iff.1 h
    rw [Strategy.accepts, hid, Option.any_some, bne_iff_ne]
    by_cases hname : name = []
    · subst hname
      cases kind with
      | type => exact .inr rfl
      | _ => cases h
    · exact .inl hname
  | hexToken =>
    obtain ⟨token, htoken, _⟩ := Option.bind_eq_some_iff.1 h
    exact .inl (Option.isSome_of_eq_some htoken)
  | decimalToken =>
    obtain ⟨token, htoken, _⟩ := Option.bind_eq_some_iff.1 h
    exact .inl (Option.isSome_of_eq_some htoken)

theorem trimmed_eq_of_ofText? (h : DocumentationId.ofText? (trimmed input) = some ⟨.type, []⟩) :
    trimmed input = "T:" := by
  obtain ⟨rest, hinput, hname⟩ := DocumentationId.ofText?_eq_some_iff.1 h
  have hrest : rest = [] := by
    by_contra hne
    have hblank := isBlank_of_trimBlank_eq_nil hname.symm _ (List.getLast_mem hne)
    have hkept : (trimBlank input.toList).getLast? = some (rest.getLast hne) := by
      rw [trimmed, String.toList_ofList] at hinput
      rw [hinput, List.getLast?_cons_cons, List.getLast?_cons_of_ne_nil hne,
        List.getLast?_eq_some_getLast hne]
    rw [getLast?_trimBlank hkept] at hblank
    cases hblank
  rw [hrest] at hinput
  exact String.toList_inj.1 hinput

/-- A text that names a symbol is well formed, unless it is the letter of types alone. -/
theorem isWellFormed_iff_of_search? (h : a.search? (trimmed input) = some x) :
    isWellFormed input = true ↔ trimmed input ≠ "T:" := by
  rw [isWellFormed, Bool.or_eq_true]
  constructor
  · intro hform heq
    rw [heq] at hform
    exact absurd hform (by decide)
  · intro hne
    obtain ⟨strategy, hstrategy, hfind⟩ := List.exists_of_findSome?_eq_some h
    rcases accepts_of_find? hfind with haccepts | hletter
    · exact .inr (List.any_eq_true.2 ⟨strategy, hstrategy, haccepts⟩)
    · exact absurd (trimmed_eq_of_ofText? hletter) hne

theorem RowsNumbered.exists_search?_letter_iff (hrows : a.RowsNumbered)
    (hfew : a.types.size < 0x1000000) :
    (∃ x, a.search? "T:" = some x) ↔ ∃ t ∈ a.types, t.fullName = "" := by
  have hletter : DocumentationId.ofText? "T:" = some ⟨.type, []⟩ := rfl
  have hsearch : a.search? "T:" =
      ((TypeNames.ofTypes a.types.toList).fullName? "").bind (Symbol.resolve? a) :=
    DocumentationId.search?_of_ofText? hletter a
  rw [hsearch]
  constructor
  · rintro ⟨x, hx⟩
    obtain ⟨token, htoken, _⟩ := Option.bind_eq_some_iff.1 hx
    obtain ⟨t, ht, hname, _⟩ := TypeNames.exists_of_fullName? htoken
    exact ⟨t, Array.mem_toList_iff.1 ht, hname⟩
  · rintro ⟨t, ht, hname⟩
    obtain ⟨token, htoken⟩ := TypeNames.exists_fullName? (Array.mem_toList_iff.2 ht)
    obtain ⟨u, hu, _, rfl⟩ := TypeNames.exists_of_fullName? htoken
    have hfound : (Symbol.type u).StandsAt a u.token :=
      hrows.typeDef?_token hfew (Array.mem_toList_iff.1 hu)
    exact ⟨.type u, by rw [← hname, htoken, Option.bind_some, resolve?_of_standsAt hfound]⟩

end Assembly

end CliMetadata
