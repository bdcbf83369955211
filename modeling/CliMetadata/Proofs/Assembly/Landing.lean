import CliMetadata.Proofs.Assembly.Leading
import CliMetadata.Proofs.Assembly.Loaded
import CliMetadata.Proofs.Assembly.Referring

namespace CliMetadata

def ReferenceSig.kind : ReferenceSig → MemberKind
  | .method _ => .method
  | .field _ => .field

namespace Assembly

variable {a : Assembly} {token d : Token}

theorem resolve?_memberRef (h : token.isIn .memberRef = true) :
    a.resolve? token = a.resolveMemberRef? token := by
  rw [resolve?, resolveWithin, if_pos h]

theorem resolve?_typeSpec (h : token.isIn .typeSpec = true) :
    a.resolve? token = a.resolveType? token := by
  rw [resolve?, resolveWithin, if_neg (not_isIn h (by decide)), if_neg (not_isIn h (by decide)),
    if_pos h]

theorem resolveType?_cases (h : a.resolveType? token = some d) :
    (d = token ∧ ∃ t, a.typeDef? token = some t) ∨
      ∃ inner t, a.typeDef? inner = some t ∧ t.token = d := by
  rw [resolveType?] at h
  split at h
  · next hsome =>
    cases h
    exact .inl ⟨rfl, Option.isSome_iff_exists.1 hsome⟩
  · obtain ⟨spec, _, h⟩ := Option.bind_eq_some_iff.1 h
    refine .inr ?_
    unfold instantiatedType? at h
    split at h
    · obtain ⟨t, ht, rfl⟩ := Option.map_eq_some_iff.1 h
      exact ⟨_, t, ht, rfl⟩
    · obtain ⟨t, ht, rfl⟩ := Option.map_eq_some_iff.1 h
      exact ⟨_, t, ht, rfl⟩
    · cases h

theorem resolveMemberRef?_cases (h : a.resolveMemberRef? token = some d) :
    ∃ ref, a.memberRef? token = some ref ∧
      ((∃ m, a.method? ref.parent = some m ∧ m.token = d) ∨
        ∃ owner t, a.resolveType? ref.parent = some owner ∧ a.typeDef? owner = some t ∧
          a.memberOf? t ref.name ref.signature = some d) := by
  rw [resolveMemberRef?] at h
  obtain ⟨ref, href, h⟩ := Option.bind_eq_some_iff.1 h
  refine ⟨ref, href, ?_⟩
  split at h
  · next m hm => exact .inl ⟨m, hm, Option.some.inj h⟩
  · obtain ⟨owner, howner, h⟩ := Option.bind_eq_some_iff.1 h
    obtain ⟨t, ht, h⟩ := Option.bind_eq_some_iff.1 h
    exact .inr ⟨owner, t, howner, ht, h⟩

section Numbered

variable (hrows : a.RowsNumbered)

include hrows

theorem RowsNumbered.exists_typeDef? (h : a.resolveType? token = some d) :
    ∃ t, a.typeDef? d = some t := by
  obtain ⟨rfl, ht⟩ | ⟨inner, t, ht, rfl⟩ := resolveType?_cases h
  · exact ht
  · rw [hrows.types.token_rowOf? ht]
    exact ⟨t, ht⟩

theorem RowsNumbered.exists_standsAt {t : TypeDef} {name : String} {signature : ReferenceSig}
    (h : a.memberOf? t name signature = some d) :
    ∃ x : Symbol, x.StandsAt a d ∧ x.kind = signature.kind ∧ x.name = name := by
  cases signature with
  | field type =>
    obtain ⟨f, hf, rfl⟩ := Option.map_eq_some_iff.1 h
    obtain ⟨listed, _, hrow⟩ := List.mem_filterMap.1 (List.mem_of_find?_eq_some hf)
    have htoken : f.token = listed := hrows.fields.token_rowOf? hrow
    have hname := List.find?_some hf
    exact ⟨.field f, htoken ▸ hrow, rfl, beq_iff_eq.1 hname⟩
  | method signature =>
    obtain ⟨m, hm, rfl⟩ := Option.map_eq_some_iff.1 h
    refine ⟨.method m, hrows.method?_of_mem_methodsOf (List.mem_of_find?_eq_some hm), rfl, ?_⟩
    have hspelled := List.find?_some hm
    simp only [spells, Bool.and_eq_true, beq_iff_eq] at hspelled
    exact hspelled.1.1.1

theorem RowsNumbered.contains_of_resolveMemberRef? (h : a.resolveMemberRef? token = some d) :
    a.contains d = true := by
  obtain ⟨ref, _, ⟨m, hm, rfl⟩ | ⟨_, t, _, _, hd⟩⟩ := resolveMemberRef?_cases h
  · rw [hrows.methods.token_rowOf? hm]
    exact contains_of_method? hm
  · obtain ⟨x, hx, _⟩ := hrows.exists_standsAt hd
    exact contains_of_standsAt hx

theorem RowsNumbered.contains_of_standsFor (h : a.StandsFor token d) : a.contains d = true := by
  induction h with
  | definition hcontains => exact hcontains
  | type _ hd =>
    obtain ⟨t, ht⟩ := hrows.exists_typeDef? hd
    exact contains_of_standsAt (x := .type t) ht
  | member _ hd => exact hrows.contains_of_resolveMemberRef? hd
  | «instance» _ _ _ ih => exact ih

/-- A generic method leads to where the method behind it leads, however many are in between. -/
theorem RowsNumbered.resolve?_methodSpec (h : token.isIn .methodSpec = true) :
    a.resolve? token = (a.methodSpec? token).bind fun spec ↦ a.resolve? spec.method := by
  refine Option.ext fun d ↦ ?_
  simp only [Option.bind_eq_some_iff, hrows.resolve?_eq_some_iff]
  constructor
  · intro hd
    cases hd with
    | definition hcontains =>
      have htable := table_of_contains hcontains
      rw [Token.isIn, beq_iff_eq] at h
      rw [h] at htable
      exact absurd htable (by decide)
    | type hin _ => exact absurd hin (not_isIn h (by decide))
    | member hin _ => exact absurd hin (not_isIn h (by decide))
    | «instance» _ hspec hmethod => exact ⟨_, hspec, hmethod⟩
  · rintro ⟨spec, hspec, hmethod⟩
    exact .instance h hspec hmethod

end Numbered

/-- The tokens that lead to themselves are those of the definitions, and whatever a token leads to
is one of them: a type, if the token is one of a type specification, and a method or field with the
name of the reference, if it is one of a reference into something other than a method. -/
theorem Produced.resolve?_lands (h : a.Produced) :
    (∀ token, a.resolve? token = some token ↔ a.contains token = true) ∧
      (∀ token, token.isIn .methodSpec = true →
        a.resolve? token = (a.methodSpec? token).bind fun spec ↦ a.resolve? spec.method) ∧
      ∀ token d, a.resolve? token = some d → a.contains d = true ∧ a.resolve? d = some d ∧
        (token.isIn .typeSpec = true → ∃ t, a.typeDef? d = some t) ∧
        ∀ ref, a.memberRef? token = some ref → ref.parent.isIn .methodDef = false →
          ∃ x : Symbol, x.StandsAt a d ∧ x.kind = ref.signature.kind ∧ x.name = ref.name := by
  have hrows := h.rowsNumbered
  have hcontains {token d : Token} (hd : a.resolve? token = some d) : a.contains d = true :=
    hrows.contains_of_standsFor (standsFor_of_resolveWithin hd)
  refine ⟨fun token ↦ ⟨hcontains, resolve?_of_contains⟩, fun token ↦ hrows.resolve?_methodSpec,
    fun token d hd ↦ ⟨hcontains hd, resolve?_of_contains (hcontains hd), fun hspec ↦ ?_,
      fun ref href hparent ↦ ?_⟩⟩
  · rw [resolve?_typeSpec hspec] at hd
    exact hrows.exists_typeDef? hd
  · rw [resolve?_memberRef (isIn_of_rowOf? href)] at hd
    obtain ⟨found, hfound, hcases⟩ := resolveMemberRef?_cases hd
    obtain rfl := Option.some.inj (href.symm.trans hfound)
    obtain ⟨m, hm, _⟩ | ⟨_, t, _, _, hmember⟩ := hcases
    · rw [isIn_of_rowOf? hm] at hparent
      cases hparent
    · exact hrows.exists_standsAt hmember

theorem resolve?_lands_convertingTwice :
    let a := convertingTwice
    a.Produced ∧ a.resolve? ⟨0x0A000001⟩ = some ⟨0x06000001⟩ ∧ a.contains ⟨0x06000001⟩ = true ∧
      (∃ x : Symbol, x.StandsAt a ⟨0x06000001⟩ ∧ x.kind = .method ∧ x.name = "op_Explicit") ∧
      a.resolve? ⟨0x1B000001⟩ = some ⟨0x02000001⟩ ∧ ∃ t, a.typeDef? ⟨0x02000001⟩ = some t := by
  intro a
  have hproduced : a.Produced := .inl built_convertingTwice
  have hreference : a.resolve? ⟨0x0A000001⟩ = some ⟨0x06000001⟩ := by decide
  have hinstance : a.resolve? ⟨0x1B000001⟩ = some ⟨0x02000001⟩ := by decide
  obtain ⟨_, _, hlands⟩ := Produced.resolve?_lands hproduced
  obtain ⟨hcontains, _, _, hnamed⟩ := hlands _ _ hreference
  obtain ⟨_, _, htype, _⟩ := hlands _ _ hinstance
  exact ⟨hproduced, hreference, hcontains, hnamed a.memberRefs[0] rfl (by decide), hinstance,
    htype rfl⟩

end Assembly

end CliMetadata
