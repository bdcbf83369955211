import CliMetadata.Proofs.Assembly.Leading
import CliMetadata.Proofs.Identifier.Form
import CliMetadata.Proofs.Resolution
import CliMetadata.Proofs.Search.Found

namespace CliMetadata

theorem splitFirst?_of_not_mem {c : Char} {cs : List Char} (h : c ∉ cs) :
    splitFirst? c cs = none := by
  induction cs with
  | nil => rfl
  | cons x cs ih =>
    rw [List.mem_cons, not_or] at h
    rw [splitFirst?, if_neg (Ne.symm h.1), ih h.2, Option.map_none]

theorem splitFirst?_append {c : Char} {cs rest : List Char} (h : c ∉ cs) :
    splitFirst? c (cs ++ c :: rest) = some (cs, rest) := by
  induction cs with
  | nil => rw [List.nil_append, splitFirst?, if_pos rfl]
  | cons x cs ih =>
    rw [List.mem_cons, not_or] at h
    rw [List.cons_append, splitFirst?, if_neg (Ne.symm h.1), ih h.2, Option.map_some]

namespace MemberId

variable {input : String} {version token : List Char} {kind : MemberKind}

namespace HasForm

variable (h : HasForm input version token kind)

include h

theorem front : ∃ c d rest, input.toList = c :: d :: (rest ++ [kind.code]) ∧
    c ∈ Hex.digits ∧ d ∈ Hex.digits := by
  obtain ⟨htext, hlength, _, hdigits, _⟩ := h
  rcases version with _ | ⟨c, _ | ⟨d, version⟩⟩
  · cases hlength
  · cases hlength
  · exact ⟨c, d, version ++ ':' :: (token ++ [':']), by simp [htext], hdigits c (by simp),
      hdigits d (by simp)⟩

theorem trimmed_eq : trimmed input = input := by
  obtain ⟨c, d, rest, htext, hc, _⟩ := h.front
  have hfirst : isBlank c = false := Hex.isBlank_of_isDigit (Hex.mem_digits_iff.1 hc)
  have hcode : isBlank kind.code = false := by
    cases kind <;> decide
  rw [trimmed, htext, ← List.cons_append, trimBlank_of_ends hfirst hcode, List.cons_append,
    ← htext, String.ofList_toList]

theorem documentationId?_eq_none : DocumentationId.ofText? input = none := by
  have hlength := h.version_length
  rw [DocumentationId.ofText?, h.text_eq,
    splitFirst?_append (colon_not_mem_of_digits h.version_digits)]
  rcases version with _ | ⟨c, _ | ⟨d, version⟩⟩
  · rfl
  · cases hlength
  · rfl

theorem hexToken?_eq_none : Strategy.hexToken? input = none := by
  obtain ⟨c, d, rest, htext, _, hd⟩ := h.front
  rw [Strategy.hexToken?, htext]
  split
  · next heq =>
    rw [(List.cons.inj (List.cons.inj heq).2).1] at hd
    exact absurd hd (by decide)
  · next heq =>
    rw [(List.cons.inj (List.cons.inj heq).2).1] at hd
    exact absurd hd (by decide)
  · rfl

theorem namespace?_eq_none : NamespaceId.name? input = none := by
  obtain ⟨c, d, rest, htext, hc, _⟩ := h.front
  have hmark : 'N' ≠ c := by
    rintro rfl
    exact absurd hc (by decide)
  rw [NamespaceId.name?, htext]
  simp [List.isPrefixOf?, hmark]

end HasForm

end MemberId

namespace Numeral

theorem decimalValue?_of_foreign {c : Char} {cs : List Char} (hc : c.isDigit = false)
    (h : c ∈ cs) : decimalValue? cs = none := by
  have hstop (start : Nat) : cs.foldlM
      (fun n c ↦ if c.isDigit then some (n * 10 + (c.toNat - 48)) else none) start = none := by
    induction cs generalizing start with
    | nil => simp at h
    | cons d cs ih =>
      rw [List.foldlM_cons]
      by_cases hd : d.isDigit = true
      · have hne : c ≠ d := by
          rintro rfl
          rw [hd] at hc
          cases hc
        rw [if_pos hd]
        exact ih ((List.mem_cons.1 h).resolve_left hne) _
      · rw [if_neg hd]
        rfl
  exact hstop 0

end Numeral

namespace MemberId

variable {input : String} {version token : List Char} {kind : MemberKind}

theorem HasForm.decimalToken?_eq_none (h : HasForm input version token kind) :
    Strategy.decimalToken? input = none := by
  obtain ⟨c, d, rest, htext, hc, _⟩ := h.front
  have hcolon : ':' ∈ input.toList := by
    rw [h.text_eq]
    simp
  have hplus : Numeral.withoutPlus input.toList = input.toList := by
    rw [htext, Numeral.withoutPlus]
    intro _ heq
    rw [(List.cons.inj heq).1] at hc
    exact absurd hc (by decide)
  have hne : input.toList ≠ [] := List.ne_nil_of_mem hcolon
  have hdecimal : Numeral.decimal? 32 (String.ofList input.toList) = _ :=
    Numeral.decimal?_ofList hne hplus
  rw [Numeral.decimalValue?_of_foreign (by decide) hcolon, String.ofList_toList] at hdecimal
  rw [Strategy.decimalToken?, hdecimal]
  rfl

theorem trimmed_text (id : MemberId) : trimmed id.text = id.text := id.hasForm_text.trimmed_eq

theorem namespace?_text (id : MemberId) : NamespaceId.name? id.text = none :=
  id.hasForm_text.namespace?_eq_none

end MemberId

namespace Token

variable (token : Token)

theorem text_toList : token.text.toList = '0' :: 'x' :: Hex.fixed 8 token.toNat := by
  simp [text]

theorem colon_not_mem_text : ':' ∉ token.text.toList := by
  rw [text_toList]
  intro h
  simp only [List.mem_cons, Char.reduceEq, false_or] at h
  exact absurd (Hex.mem_lowercase_of_mem_fixed h) (by decide)

theorem trimmed_text : trimmed token.text = token.text := by
  have hdigit := Hex.digit_mem_lowercase (Nat.mod_lt token.toNat (by omega : 16 > 0))
  have hlast : isBlank (Hex.digit (token.toNat % 16)) = false :=
    Hex.isBlank_of_isDigit (Hex.mem_digits_iff.1 (Hex.mem_digits_of_lowercase hdigit))
  have htext : token.text.toList = '0' :: (('x' :: Hex.fixed 7 (token.toNat / 16))
      ++ [Hex.digit (token.toNat % 16)]) := by
    rw [text_toList]
    rfl
  rw [trimmed, htext, trimBlank_of_ends (by decide) hlast, ← htext, String.ofList_toList]

theorem hexToken?_text : Strategy.hexToken? token.text = some token := by
  have hlength := Hex.length_fixed 8 token.toNat
  have hne : Hex.fixed 8 token.toNat ≠ [] := by
    intro h
    rw [h] at hlength
    cases hlength
  have hplus : Numeral.withoutPlus (Hex.fixed 8 token.toNat) = Hex.fixed 8 token.toNat := by
    rw [Numeral.withoutPlus]
    intro rest h
    have hmem : '+' ∈ Hex.fixed 8 token.toNat := by
      rw [h]
      exact List.mem_cons_self
    exact absurd (Hex.mem_lowercase_of_mem_fixed hmem) (by decide)
  have hlt := token.toNat_lt
  have hvalue : Hex.value? (Hex.fixed 8 token.toNat) = some token.toNat := Hex.value?_fixed hlt
  rw [Strategy.hexToken?, text_toList]
  simp only [Numeral.hex?_of_ne_nil hne hplus, hvalue, Option.filter_some]
  rw [if_pos (by simpa using hlt), Option.map_some]
  exact congrArg some (ofNat_toNat token)

end Token

namespace Assembly

variable {a : Assembly} {x : Symbol}

theorem search?_tokenText {token : Token} (h : Symbol.ofToken? a token = some x) :
    a.search? token.text = some x := by
  have hself := resolve?_of_contains (contains_of_standsAt (Symbol.ofToken?_eq_some_iff.1 h))
  have hmember : MemberId.parse? token.text = none := by
    rw [MemberId.parse?, MemberId.parse, segments_of_not_mem token.colon_not_mem_text]
    rfl
  have hdocumentation : DocumentationId.ofText? token.text = none := by
    rw [DocumentationId.ofText?, splitFirst?_of_not_mem token.colon_not_mem_text]
    rfl
  have hfound : Strategy.find? a token.text .hexToken = some x := by
    rw [Strategy.find?, token.hexToken?_text, Option.bind_some, Symbol.resolve?, hself,
      Option.bind_some, h]
  have hfirst : Strategy.find? a token.text .memberId = none := by
    rw [Strategy.find?, hmember, Option.bind_none]
  have hsecond : Strategy.find? a token.text .documentationId = none := by
    rw [Strategy.find?, hdocumentation, Option.bind_none]
  simp only [search?, Strategy.all, List.findSome?_cons, hfirst, hsecond, hfound]

theorem search?_of_parse {input : String} {id : MemberId} (h : MemberId.parse input = .ok id) :
    a.search? input = if id.mvid = a.mvid then (Members.ofAssembly a).get? id else none := by
  obtain ⟨version, token, hform, _⟩ := MemberId.parse_eq_ok_iff.1 h
  have hmembers : Strategy.find? a input .memberId =
      if id.mvid = a.mvid then (Members.ofAssembly a).get? id else none := by
    rw [Strategy.find?, MemberId.parse?_eq_some_iff.2 h, Option.bind_some]
  rw [search?, Strategy.all]
  simp only [List.findSome?_cons, List.findSome?_nil, hmembers]
  simp only [Strategy.find?, hform.documentationId?_eq_none, hform.hexToken?_eq_none,
    hform.decimalToken?_eq_none, Option.bind_none]
  split <;> simp_all

theorem id_of_get? {id : MemberId} (h : (Members.ofAssembly a).get? id = some x) :
    x.id a.mvid = id := by
  rw [Members.get?_ofAssembly] at h
  exact beq_iff_eq.1 (List.find?_some (p := fun s : Symbol ↦ s.id a.mvid == id) h)

/-- A type of the assembly, or the definition of a token that a type lists. -/
def IsListed (a : Assembly) (x : Symbol) : Prop :=
  ∃ t ∈ a.types, x = .type t ∨
    ∃ kind ∈ MemberKind.members, x.token ∈ t.listed kind ∧ Symbol.ofToken? a x.token = some x

/-- A text with the form of an identifier names no symbol but the one it identifies. -/
theorem id_of_search? {input : String} {id : MemberId} (hparse : MemberId.parse input = .ok id)
    (h : a.search? input = some x) : x.id a.mvid = id := by
  rw [search?_of_parse hparse] at h
  split at h
  · exact id_of_get? h
  · cases h

theorem id_of_search?_text {id : MemberId} (h : a.search? id.text = some x) :
    x.id a.mvid = id :=
  id_of_search? id.parse_text h

section Numbered

variable (hrows : a.RowsNumbered)

include hrows

theorem RowsNumbered.mem_ofType_iff {t : TypeDef} : x ∈ Members.ofType a t ↔ x = .type t ∨
    ∃ kind ∈ MemberKind.members, x.token ∈ t.listed kind ∧ Symbol.ofToken? a x.token = some x := by
  have htokens (token : Token) : token ∈ t.methods ++ t.fields ++ t.properties ++ t.events ↔
      ∃ kind ∈ MemberKind.members, token ∈ t.listed kind := by
    simp only [List.mem_append, MemberKind.members, List.mem_cons, List.not_mem_nil, or_false,
      exists_eq_or_imp, exists_eq_left, TypeDef.listed]
    tauto
  rw [Members.ofType, List.mem_cons, List.mem_filterMap]
  refine or_congr_right ⟨?_, ?_⟩
  · rintro ⟨token, hmem, htoken⟩
    obtain ⟨kind, hkind, hlisted⟩ := (htokens token).1 hmem
    obtain rfl := hrows.token_ofToken? htoken
    exact ⟨kind, hkind, hlisted, htoken⟩
  · rintro ⟨kind, hkind, hlisted, htoken⟩
    exact ⟨x.token, (htokens x.token).2 ⟨kind, hkind, hlisted⟩, htoken⟩

theorem RowsNumbered.isListed_of_get? {id : MemberId}
    (h : (Members.ofAssembly a).get? id = some x) : a.IsListed x := by
  rw [Members.get?_ofAssembly] at h
  obtain ⟨t, ht, hmem⟩ := List.mem_flatMap.1 (List.mem_of_find?_eq_some h)
  exact ⟨t, Array.mem_toList_iff.1 ht, hrows.mem_ofType_iff.1 hmem⟩

theorem RowsNumbered.exists_get? (h : a.IsListed x) :
    ∃ y, (Members.ofAssembly a).get? (x.id a.mvid) = some y := by
  obtain ⟨t, ht, hlisted⟩ := h
  rw [← Option.isSome_iff_exists, Members.get?_ofAssembly, List.find?_isSome]
  exact ⟨x, List.mem_flatMap.2 ⟨t, Array.mem_toList_iff.2 ht, hrows.mem_ofType_iff.2 hlisted⟩,
    beq_self_eq_true _⟩

theorem RowsNumbered.get?_id_iff (hnamed : a.named? x.token = some x) {y : Symbol} :
    (Members.ofAssembly a).get? (x.id a.mvid) = some y ↔ y = x ∧ a.IsListed x := by
  have hsame {y : Symbol} (hy : (Members.ofAssembly a).get? (x.id a.mvid) = some y) : y = x := by
    have hyNamed := hrows.named?_of_members hy
    have htoken : y.token = x.token := congrArg MemberId.token (id_of_get? hy)
    rw [htoken, hnamed] at hyNamed
    exact (Option.some.inj hyNamed).symm
  constructor
  · intro hy
    obtain rfl := hsame hy
    exact ⟨rfl, hrows.isListed_of_get? hy⟩
  · rintro ⟨rfl, hlisted⟩
    obtain ⟨z, hz⟩ := hrows.exists_get? hlisted
    rw [hz, hsame hz]

/-- The identifier of a symbol that a text names leads to that symbol, if it is listed, and to
nothing otherwise. -/
theorem RowsNumbered.search?_id_iff {input : String} (h : a.search? input = some x) {y : Symbol} :
    a.search? (x.id a.mvid).text = some y ↔ y = x ∧ a.IsListed x := by
  have hversion : (x.id a.mvid).mvid = a.mvid := rfl
  rw [search?_of_parse (MemberId.parse_text _), if_pos hversion, hrows.get?_id_iff (hrows.named?_of_search? h)]

/-- Whatever text names a symbol, its token finds it. -/
theorem RowsNumbered.standsAt_of_search? (hfew : a.types.size < 0x1000000) {input : String}
    (h : a.search? input = some x) : x.StandsAt a x.token := by
  have hnamed := hrows.named?_of_search? h
  rw [named?, Option.or_eq_some_iff] at hnamed
  rcases hnamed with hfound | ⟨_, hfirst⟩
  · exact Symbol.ofToken?_eq_some_iff.1 hfound
  · obtain ⟨t, ht, rfl⟩ := Option.map_eq_some_iff.1 hfirst
    exact hrows.typeDef?_token hfew (Array.mem_toList_iff.1 (List.mem_of_find?_eq_some ht))

end Numbered

end Assembly

end CliMetadata
