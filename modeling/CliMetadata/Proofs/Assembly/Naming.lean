import CliMetadata.Proofs.Assembly.Building
import CliMetadata.Proofs.Identifier
import CliMetadata.Proofs.Signature.Text

namespace CliMetadata

def isPlainMark (c : Char) : Bool := c.isAlphanum || c == '_'

def isFullNameMark (c : Char) : Bool := isPlainMark c || c == '.' || c == '+'

theorem toNat_of_isAlphanum {c : Char} (h : c.isAlphanum = true) :
    48 ≤ c.toNat ∧ c.toNat ≤ 122 := by
  rcases Bool.or_eq_true_iff.1 h with hletter | hdigit
  · rcases Bool.or_eq_true_iff.1 hletter with hupper | hlower
    · have hrange : 65 ≤ c.toNat ∧ c.toNat ≤ 90 := of_decide_eq_true hupper
      omega
    · obtain ⟨hfrom, hto⟩ := Bool.and_eq_true_iff.1 hlower
      have hfrom : 97 ≤ c.toNat := of_decide_eq_true hfrom
      have hto : c.toNat ≤ 122 := of_decide_eq_true hto
      omega
  · have hrange := Char.isDigit_iff_toNat.1 hdigit
    simp only [Char.reduceToNat] at hrange
    omega

theorem isBlank_of_isFullNameMark {c : Char} (h : isFullNameMark c = true) :
    isBlank c = false := by
  simp only [isFullNameMark, isPlainMark, Bool.or_eq_true, beq_iff_eq] at h
  rcases h with ((h | rfl) | rfl) | rfl
  · have hrange := toNat_of_isAlphanum h
    exact isBlank_of_toNat (by omega) (by omega)
  all_goals rfl

def IsPlainName (name : String) : Prop := ∀ c ∈ name.toList, isPlainMark c = true

def IsPlainNamespace (ns : String) : Prop := ∀ c ∈ ns.toList, isPlainMark c = true ∨ c = '.'

instance (name : String) : Decidable (IsPlainName name) := List.decidableBAll _ name.toList

instance (ns : String) : Decidable (IsPlainNamespace ns) := List.decidableBAll _ ns.toList

/-- An assembly whose types, also those of other modules, and methods have plain names. -/
structure Assembly.NamesPlain (a : Assembly) : Prop where
  types : ∀ t ∈ a.types, IsPlainNamespace t.ns ∧ IsPlainName t.name
  typeRefs : ∀ ref ∈ a.typeRefs, IsPlainNamespace ref.ns ∧ IsPlainName ref.name
  methods : ∀ m ∈ a.methods, IsPlainName m.name

namespace Draft

variable {ns name : String} {types : Array TypeDef} {refs : Array TypeRef}

theorem fullName_qualified (hns : IsPlainNamespace ns) (hname : IsPlainName name) {c : Char}
    (hc : c ∈ (qualified ns name).toList) : isFullNameMark c = true := by
  have hname (c : Char) (hc : c ∈ name.toList) : isFullNameMark c = true := by
    simp [isFullNameMark, hname c hc]
  rw [qualified] at hc
  split at hc
  · exact hname c hc
  · rw [String.toList_append, String.toList_append, List.mem_append, List.mem_append] at hc
    rcases hc with (hc | hc) | hc
    · rcases hns c hc with hmark | rfl
      · simp [isFullNameMark, hmark]
      · rfl
    · rw [List.mem_singleton.1 hc]
      rfl
    · exact hname c hc

theorem fullName_nested {outer : String} (houter : ∀ c ∈ outer.toList, isFullNameMark c = true)
    (hname : IsPlainName name) {c : Char} (hc : c ∈ (outer ++ "+" ++ name).toList) :
    isFullNameMark c = true := by
  rw [String.toList_append, String.toList_append, List.mem_append, List.mem_append] at hc
  rcases hc with (hc | hc) | hc
  · exact houter c hc
  · rw [List.mem_singleton.1 hc]
    rfl
  · simp [isFullNameMark, hname c hc]

theorem fullName_typeNames (hnames : ∀ t ∈ types, IsPlainName t.name) {depth : Nat} {t : TypeDef}
    (ht : t ∈ types) (hns : IsPlainNamespace (typeNames types depth t).2) :
    ∀ c ∈ (typeNames types depth t).1.toList, isFullNameMark c = true := by
  induction depth generalizing t with
  | zero => exact fun c hc ↦ fullName_qualified hns (hnames t ht) hc
  | succ depth ih =>
    rw [typeNames] at hns ⊢
    cases houter : outer? types t with
    | none =>
      rw [houter] at hns
      exact fun c hc ↦ fullName_qualified hns (hnames t ht) hc
    | some outer =>
      rw [houter] at hns
      have hmem : outer ∈ types := Assembly.mem_of_outer? houter
      exact fun c hc ↦ fullName_nested (ih hmem hns) (hnames t ht) hc

theorem fullName_typeRefName
    (hnames : ∀ ref ∈ refs, IsPlainNamespace ref.ns ∧ IsPlainName ref.name) {depth : Nat}
    {ref : TypeRef} (href : ref ∈ refs) :
    ∀ c ∈ (typeRefName refs depth ref).toList, isFullNameMark c = true := by
  induction depth generalizing ref with
  | zero => exact fun c hc ↦ fullName_qualified (hnames ref href).1 (hnames ref href).2 hc
  | succ depth ih =>
    rw [typeRefName]
    cases houter : Assembly.rowOf? refs .typeRef ref.scope with
    | none => exact fun c hc ↦ fullName_qualified (hnames ref href).1 (hnames ref href).2 hc
    | some outer =>
      have hmem : outer ∈ refs := Assembly.mem_of_rowOf? houter
      exact fun c hc ↦ fullName_nested (ih hmem) (hnames ref href).2 hc

end Draft

namespace Assembly

variable {a : Assembly}

theorem Built.fullName_types (hbuilt : a.Built) (hplain : a.NamesPlain) {t : TypeDef}
    (ht : t ∈ a.types) : ∀ c ∈ t.fullName.toList, isFullNameMark c = true := by
  obtain ⟨d, _, rfl⟩ := hbuilt
  have hnames : ∀ u ∈ d.rows.types, IsPlainName u.name := by
    intro u hu
    obtain ⟨i, hi, rfl⟩ := Array.mem_iff_getElem.1 hu
    exact (hplain.types (Draft.completeType d.rows.types i d.rows.types[i])
      (Array.mem_mapIdx.2 ⟨i, hi, rfl⟩)).2
  have hns := (hplain.types t ht).1
  obtain ⟨i, hi, rfl⟩ := Array.mem_mapIdx.1 ht
  exact Draft.fullName_typeNames hnames (Array.getElem_mem hi) hns

theorem Built.fullName_typeRefs (hbuilt : a.Built) (hplain : a.NamesPlain) {ref : TypeRef}
    (href : ref ∈ a.typeRefs) : ∀ c ∈ ref.fullName.toList, isFullNameMark c = true := by
  obtain ⟨d, _, rfl⟩ := hbuilt
  have hnames : ∀ ref ∈ d.rows.typeRefs, IsPlainNamespace ref.ns ∧ IsPlainName ref.name :=
    fun ref href ↦ hplain.typeRefs (Draft.completeTypeRef d.rows.typeRefs ref)
      (Array.mem_map.2 ⟨ref, href, rfl⟩)
  obtain ⟨ref, hmem, rfl⟩ := Array.mem_map.1 href
  exact Draft.fullName_typeRefName hnames hmem

theorem displayable_text (token : Token) : Displayable 0 token.text := by
  have hmark : ∀ n < 16, isDisplayMark (Hex.digit n) = true := by decide
  have hfixed (width n : Nat) : ∀ c ∈ Hex.fixed width n, isDisplayMark c = true := by
    induction width generalizing n with
    | zero => exact fun c hc ↦ absurd hc List.not_mem_nil
    | succ width ih =>
      intro c hc
      rw [Hex.fixed, List.mem_append, List.mem_singleton] at hc
      rcases hc with hc | rfl
      · exact ih _ c hc
      · exact hmark _ (Nat.mod_lt n (by decide))
  refine .of_marks (List.all_eq_true.2 fun c hc ↦ ?_)
  rw [Token.text_toList, List.mem_cons, List.mem_cons] at hc
  rcases hc with rfl | rfl | hc
  · rfl
  · rfl
  · exact hfixed _ _ c hc

/-- Where names are plain, the names of all types are displayable. -/
theorem Built.displayable_typeName (hbuilt : a.Built) (hplain : a.NamesPlain) (token : Token) :
    Displayable 0 (a.typeName token) := by
  have hfull {name : String} (h : ∀ c ∈ name.toList, isFullNameMark c = true) :
      Displayable 0 name := by
    refine .of_marks (List.all_eq_true.2 fun c hc ↦ ?_)
    have hmark := h c hc
    simp only [isFullNameMark, isPlainMark, Bool.or_eq_true, beq_iff_eq] at hmark
    rcases hmark with ((hmark | rfl) | rfl) | rfl
    · rw [isDisplayMark, hmark, Bool.true_or]
    all_goals rfl
  have hwithin (depth : Nat) : ∀ token, Displayable 0 (a.typeNameWithin depth token) := by
    induction depth with
    | zero => exact displayable_text
    | succ depth ih =>
      intro token
      rw [typeNameWithin]
      split
      · next t ht => exact hfull (hbuilt.fullName_types hplain (mem_of_rowOf? ht))
      · split
        · next ref href => exact hfull (hbuilt.fullName_typeRefs hplain (mem_of_rowOf? href))
        · split
          · exact TypeSig.displayable_render ih _
          · exact displayable_text token
  exact hwithin _ token

end Assembly

end CliMetadata
