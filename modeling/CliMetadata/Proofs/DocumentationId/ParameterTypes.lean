import CliMetadata.Proofs.Assembly.Naming
import CliMetadata.Proofs.DocumentationId.FullName
import Mathlib.Data.List.Forall2

namespace CliMetadata

theorem not_mem_intercalate {c : Char} {sep : List Char} {texts : List (List Char)} (hsep : c ∉ sep)
    (h : ∀ text ∈ texts, c ∉ text) : c ∉ sep.intercalate texts := by
  induction texts with
  | nil => exact List.not_mem_nil
  | cons text texts ih =>
    have htext := h text List.mem_cons_self
    cases texts with
    | nil => simpa using htext
    | cons next texts =>
      rw [List.intercalate_cons_cons, List.mem_append, List.mem_append, not_or, not_or]
      exact ⟨⟨htext, hsep⟩, ih fun t ht ↦ h t (List.mem_cons_of_mem _ ht)⟩

namespace DocumentationId

variable {a : Assembly} {names : TypeNames} {owner name types : List Char}

theorem splitMember?_colons (hname : ':' ∉ name) :
    splitMember? (owner ++ ':' :: ':' :: name) = some (owner, name) := by
  have hnone : splitLastPiece? [':', ':'] name = none :=
    splitLastPiece?_of_not_mem List.mem_cons_self hname
  have hone : splitLastPiece? [':', ':'] (':' :: name) = none := by
    rw [splitLastPiece?, hnone, Option.map_eq_none_iff, Option.eq_none_iff_forall_ne_some]
    intro rest h
    cases List.isPrefixOf?_eq_some_iff_append_eq.1 h
    exact hname List.mem_cons_self
  have htwo : splitLastPiece? [':', ':'] ([':', ':'] ++ name) = some ([], name) := by
    rw [List.cons_append, List.singleton_append, splitLastPiece?, hone]
    simp [List.isPrefixOf?]
  rw [splitMember?, show owner ++ ':' :: ':' :: name = owner ++ ([':', ':'] ++ name) from rfl,
    splitLastPiece?_append htwo, Option.some_or]

theorem find?_of_parameters (hslash : '/' ∉ owner ++ name ++ types) (hparen : '(' ∉ owner ++ name)
    (hcolon : ':' ∉ name) (hmark : '\x60' ∉ name) :
    find? a names ⟨.method, owner ++ ':' :: ':' :: name ++ '(' :: (types ++ [')'])⟩ =
      ((names.fullName? (String.ofList owner)).bind a.typeDef?).bind fun u ↦
        ((a.methodsOf u.methods).find? (methodMatches a (String.ofList name) none
          (some ((ParameterList.split types).map String.ofList)))).bind fun m ↦
            Symbol.resolve? a m.token := by
  have hpath : path ⟨.method, owner ++ ':' :: ':' :: name ++ '(' :: (types ++ [')'])⟩ =
      owner ++ ':' :: ':' :: name ++ '(' :: (types ++ [')']) := by
    refine (List.map_congr_left fun c hc ↦ if_neg ?_).trans (List.map_id _)
    rintro rfl
    simp at hc hslash
    tauto
  have hfront : '(' ∉ owner ++ ':' :: ':' :: name := by
    simpa using hparen
  have hend : beforeEnd? [')'] (types ++ [')']) = some types := beforeEnd?_eq_some_iff.2 rfl
  have harity := splitArity?_of_not_mem hmark
  rw [find?, if_neg MemberKind.noConfusion, hpath, splitParameters, splitFirst?_append hfront]
  simp only [hend, splitMember?_colons hcolon, Option.bind_eq_bind, Option.bind_some, findMember?,
    findMethod?, harity, Option.bind_assoc]

end DocumentationId

namespace Assembly

variable (a : Assembly)

/-- The ways to write the type of a parameter: as it is displayed, or with a keyword. -/
def SpellsParam (p : Parameter TypeSig) (text : String) : Prop :=
  text = a.renderParam p ∨
    ∃ word, p.base.keyword? = some word ∧ text = if p.byRef then word ++ "&" else word

/-- A method with a name, for whose parameters some texts can be written. -/
structure Answers (name : String) (texts : List String) (m : MethodDef) : Prop where
  name : m.name = name
  params : List.Forall₂ a.SpellsParam m.signature.params texts

variable {a} {name : String} {texts : List String} {m : MethodDef}

theorem parameterMatches_iff {p : Parameter TypeSig} {text : String} :
    DocumentationId.parameterMatches a p text = true ↔ a.SpellsParam p text := by
  rw [DocumentationId.parameterMatches, Bool.or_eq_true, beq_iff_eq, Option.any_eq_true]
  simp only [beq_iff_eq, SpellsParam, eq_comm (a := a.renderParam p)]

theorem methodMatches_iff :
    DocumentationId.methodMatches a name none (some texts) m = true ↔ a.Answers name texts m := by
  rw [DocumentationId.methodMatches, Option.all_none, Bool.and_true, Bool.and_eq_true, beq_iff_eq,
    Option.all_some, DocumentationId.parametersMatch, Bool.and_eq_true, beq_iff_eq,
    List.all_eq_true]
  simp only [parameterMatches_iff]
  constructor
  · rintro ⟨hname, hlength, hall⟩
    exact ⟨hname, List.forall₂_iff_zip.2 ⟨hlength.symm, fun hmem ↦ hall _ hmem⟩⟩
  · rintro ⟨hname, hparams⟩
    obtain ⟨hlength, hall⟩ := List.forall₂_iff_zip.1 hparams
    exact ⟨hname, hlength.symm, fun _ hmem ↦ hall hmem⟩

/-- The texts of parameter types that lists leave as they are: there is no white space in them, and
the last one is not empty. -/
structure Readable (texts : List String) : Prop where
  noBlank : ∀ text ∈ texts, ∀ c ∈ text.toList, isBlank c = false
  last : texts.getLast? ≠ some ""

instance (texts : List String) : Decidable (Readable texts) :=
  decidable_of_iff ((texts.all fun text ↦ text.toList.all fun c ↦ !isBlank c) = true ∧
      texts.getLast? ≠ some "") <| by
    simp only [List.all_eq_true, Bool.not_eq_true']
    exact ⟨fun h ↦ ⟨h.1, h.2⟩, fun h ↦ ⟨h.noBlank, h.last⟩⟩

def readParameters (list : String) : List String :=
  (ParameterList.split list.toList).map String.ofList

def withoutBlanks (text : String) : String :=
  String.ofList (text.toList.filter fun c ↦ !isBlank c)

theorem withoutBlanks_eq_self_iff {text : String} :
    withoutBlanks text = text ↔ ∀ c ∈ text.toList, isBlank c = false := by
  rw [withoutBlanks, ← String.toList_inj, String.toList_ofList, List.filter_eq_self]
  simp only [Bool.not_eq_true']

theorem isBlank_of_keyword? {p : Parameter TypeSig} {word : String}
    (h : p.base.keyword? = some word) : ∀ c ∈ (a.renderParam p).toList, isBlank c = false := by
  obtain ⟨byRef, base⟩ := p
  cases base with
  | primitive base =>
    have hall : base.name.toList.all (fun c ↦ !isBlank c) = true := by
      cases base <;> decide
    have hname (c : Char) (hc : c ∈ base.name.toList) : isBlank c = false := by
      simpa using List.all_eq_true.1 hall c hc
    intro c hc
    rw [renderParam, TypeSig.renderParam, TypeSig.render] at hc
    split at hc
    · rw [String.toList_append, List.mem_append] at hc
      rcases hc with hc | hc
      · exact hname c hc
      · rw [List.mem_singleton.1 hc]
        rfl
    · exact hname c hc
  | _ => cases h

section Lists

variable (hdisplayable : ∀ text ∈ texts, Displayable 0 text)

include hdisplayable

theorem split_displayed : ParameterList.split (String.intercalate ", " texts).toList =
    (ParameterList.withoutBlankEnd (texts.map String.toList)).map ParameterList.standardize := by
  rw [String.toList_intercalate]
  refine ParameterList.split_intercalate fun t ht ↦ ?_
  obtain ⟨text, htext, rfl⟩ := List.mem_map.1 ht
  exact (hdisplayable text htext).onePiece

/-- A list is read without its white space, unless its last text is blank: then it is read without
that text. -/
theorem readParameters_eq_map
    (hlast : ∀ last, texts.getLast? = some last → last.toList.all isBlank = false) :
    readParameters (String.intercalate ", " texts) = texts.map withoutBlanks := by
  have hkept : ParameterList.withoutBlankEnd (texts.map String.toList) = texts.map String.toList :=
    ParameterList.withoutBlankEnd_eq_self fun last h ↦ by
      rw [List.getLast?_map] at h
      obtain ⟨text, htext, rfl⟩ := Option.map_eq_some_iff.1 h
      exact hlast text htext
  rw [readParameters, split_displayed hdisplayable, hkept, List.map_map, List.map_map]
  refine List.map_congr_left fun text htext ↦ congrArg String.ofList ?_
  refine (List.map_congr_left fun c hc ↦ ?_).trans (List.map_id _)
  exact ((hdisplayable text htext).standard c (List.mem_filter.1 hc).1).1

theorem length_readParameters {last : String} (hlast : texts.getLast? = some last)
    (hblank : last.toList.all isBlank = true) :
    (readParameters (String.intercalate ", " texts)).length + 1 = texts.length := by
  have hmap : (texts.map String.toList).getLast? = some last.toList := by
    rw [List.getLast?_map, hlast, Option.map_some]
  have hlength := ParameterList.length_withoutBlankEnd hmap hblank
  rwa [readParameters, split_displayed hdisplayable, List.length_map, List.length_map,
    ← List.length_map String.toList]

theorem readParameters_of_readable (h : Readable texts) :
    readParameters (String.intercalate ", " texts) = texts := by
  rw [readParameters_eq_map hdisplayable]
  · refine (List.map_congr_left fun text htext ↦ ?_).trans (List.map_id texts)
    exact withoutBlanks_eq_self_iff.2 (h.noBlank text htext)
  · intro last hlast
    have hmem := List.mem_of_getLast? hlast
    cases hchars : last.toList with
    | nil => exact absurd (hlast.trans (congrArg some (String.toList_eq_nil_iff.1 hchars))) h.last
    | cons c rest =>
      have hc : isBlank c = false := h.noBlank last hmem c (by simp [hchars])
      rw [List.all_cons, hc, Bool.false_and]

theorem readable_of_spells {params : List (Parameter TypeSig)}
    (htexts : texts = params.map a.renderParam) (h : List.Forall₂ a.SpellsParam params
      (readParameters (String.intercalate ", " texts))) : Readable texts := by
  have hlast (last : String) (hlast : texts.getLast? = some last) :
      last.toList.all isBlank = false := by
    rw [← Bool.not_eq_true]
    intro hblank
    have hshort := length_readParameters hdisplayable hlast hblank
    have hlength := h.length_eq
    rw [htexts, List.length_map] at hshort
    rw [htexts] at hlength
    omega
  rw [readParameters_eq_map hdisplayable hlast, htexts, List.map_map,
    List.forall₂_map_right_iff, List.forall₂_same] at h
  constructor
  · intro text htext
    rw [htexts] at htext
    obtain ⟨p, hp, rfl⟩ := List.mem_map.1 htext
    rcases h p hp with hsame | ⟨word, hword, _⟩
    · exact withoutBlanks_eq_self_iff.1 hsame
    · exact isBlank_of_keyword? hword
  · intro hempty
    have hblank := hlast "" hempty
    cases hblank

end Lists

def displayedTypes (a : Assembly) (m : MethodDef) : String :=
  String.intercalate ", " (a.paramTypeNames m.signature)

def displayedMethod (a : Assembly) (t : TypeDef) (m : MethodDef) : String :=
  t.fullName ++ "::" ++ m.name ++ "(" ++ a.displayedTypes m ++ ")"

theorem toList_displayedMethod (a : Assembly) (t : TypeDef) (m : MethodDef) :
    (a.displayedMethod t m).toList = t.fullName.toList ++ ':' :: ':' :: m.name.toList ++
      '(' :: ((a.displayedTypes m).toList ++ [')']) := by
  simp [displayedMethod]

theorem slash_not_mem_displayedTypes
    (h : ∀ text ∈ a.paramTypeNames m.signature, Displayable 0 text) :
    '/' ∉ (a.displayedTypes m).toList := by
  rw [displayedTypes, String.toList_intercalate]
  refine not_mem_intercalate (by decide) fun text htext hmem ↦ ?_
  obtain ⟨text, hparam, rfl⟩ := List.mem_map.1 htext
  exact absurd ((h text hparam).standard _ hmem).1 (by decide)

section Ends

variable {t : TypeDef} {c : Char}

theorem isBlank_head?_displayedMethod (h : ∀ c ∈ t.fullName.toList, isFullNameMark c = true)
    (hc : (a.displayedMethod t m).toList.head? = some c) : isBlank c = false := by
  rw [toList_displayedMethod] at hc
  cases hchars : t.fullName.toList with
  | nil =>
    rw [hchars] at hc
    cases hc
    rfl
  | cons first rest =>
    rw [hchars] at hc
    rw [← Option.some.inj hc]
    exact isBlank_of_isFullNameMark (h first (hchars ▸ List.mem_cons_self))

theorem isBlank_getLast?_displayedMethod
    (hc : (a.displayedMethod t m).toList.getLast? = some c) : isBlank c = false := by
  rw [toList_displayedMethod, ← List.cons_append, ← List.append_assoc, List.getLast?_concat] at hc
  cases hc
  rfl

end Ends

end Assembly

namespace World

variable {w : World} (hbuilt : w.assembly.Built) (hfew : w.assembly.TokensSuffice)
  (hdistinct : w.assembly.FullNamesDistinct) (hplain : w.assembly.NamesPlain) {t : TypeDef}
  {m n : MethodDef}

include hbuilt hfew hdistinct hplain

omit hfew hdistinct in
theorem displayable_paramTypeNames (text : String)
    (htext : text ∈ w.assembly.paramTypeNames m.signature) : Displayable 0 text := by
  obtain ⟨p, _, rfl⟩ := List.mem_map.1 htext
  exact TypeSig.displayable_renderParam (hbuilt.displayable_typeName hplain) p

/-- What is displayed for a method leads to the first method of its type that answers to the list as
it is read. -/
theorem resolve?_displayedMethod (ht : t ∈ w.assembly.types)
    (hm : m ∈ w.assembly.methodsOf t.methods) :
    w.resolve? (MemberKind.method.lettered (w.assembly.displayedMethod t m)) = some (.method n) ↔
      let texts := Assembly.readParameters (w.assembly.displayedTypes m)
      ∃ front behind, w.assembly.methodsOf t.methods = front ++ n :: behind ∧
        w.assembly.Answers m.name texts n ∧ ∀ x ∈ front, ¬w.assembly.Answers m.name texts x := by
  have hrows := hbuilt.rowsNumbered
  have howner (c : Char) (hc : c ∈ t.fullName.toList) : isFullNameMark c = true :=
    hbuilt.fullName_types hplain ht c hc
  have hname : IsPlainName m.name :=
    hplain.methods m (Assembly.mem_of_rowOf? (hrows.method?_of_mem_methodsOf hm))
  have hnot {c : Char} (howned : isFullNameMark c = false) (hnamed : isPlainMark c = false) :
      c ∉ t.fullName.toList ++ m.name.toList := by
    rw [List.mem_append, not_or]
    exact ⟨fun h ↦ by simp [howner c h] at howned, fun h ↦ by simp [hname c h] at hnamed⟩
  have hslash : '/' ∉ t.fullName.toList ++ m.name.toList ++
      (w.assembly.displayedTypes m).toList := by
    rw [List.mem_append, not_or]
    exact ⟨hnot (by decide) (by decide),
      Assembly.slash_not_mem_displayedTypes (displayable_paramTypeNames hbuilt hplain)⟩
  have hfind : DocumentationId.find? w.assembly (.ofTypes w.assembly.types.toList)
      ⟨.method, t.fullName.toList ++ ':' :: ':' :: m.name.toList ++
        '(' :: ((w.assembly.displayedTypes m).toList ++ [')'])⟩ = _ :=
    DocumentationId.find?_of_parameters hslash (hnot (by decide) (by decide))
      (fun h ↦ absurd (hname _ h) (by decide)) fun h ↦ absurd (hname _ h) (by decide)
  rw [String.ofList_toList, (hrows.fullName?_bind_eq_some_iff hfew.types hdistinct).2 ⟨ht, rfl⟩,
    Option.bind_some, hrows.find?_bind_resolve?, String.ofList_toList] at hfind
  rw [resolve?, Assembly.search?_lettered _ _
    (fun c hc ↦ Assembly.isBlank_head?_displayedMethod howner hc)
    fun c hc ↦ Assembly.isBlank_getLast?_displayedMethod hc, Assembly.toList_displayedMethod, hfind,
    Option.map_eq_some_iff]
  simp only [Symbol.method.injEq, exists_eq_right, List.find?_eq_some_iff_append,
    Bool.not_eq_true', ← Bool.not_eq_true, Assembly.methodMatches_iff]
  constructor
  · rintro ⟨hn, front, behind, hsplit, hfront⟩
    exact ⟨front, behind, hsplit, hn, hfront⟩
  · rintro ⟨front, behind, hsplit, hn, hfront⟩
    exact ⟨hn, front, behind, hsplit, hfront⟩

/-- What is displayed for a method leads to a method with its name and parameter types exactly if
the parameter types are readable, and the first method that answers to them is one with the same. -/
theorem resolve?_displayedMethod_iff (ht : t ∈ w.assembly.types)
    (hm : m ∈ w.assembly.methodsOf t.methods) :
    (∃ n ∈ w.assembly.methodsOf t.methods,
        w.resolve? (MemberKind.method.lettered (w.assembly.displayedMethod t m))
          = some (.method n) ∧ n.name = m.name ∧
        w.assembly.paramTypeNames n.signature = w.assembly.paramTypeNames m.signature) ↔
      Assembly.Readable (w.assembly.paramTypeNames m.signature) ∧
        ∃ front n behind, w.assembly.methodsOf t.methods = front ++ n :: behind ∧
          n.name = m.name ∧
          w.assembly.paramTypeNames n.signature = w.assembly.paramTypeNames m.signature ∧
          ∀ x ∈ front, ¬w.assembly.Answers m.name (w.assembly.paramTypeNames m.signature) x := by
  have hdisplayable : ∀ text ∈ w.assembly.paramTypeNames m.signature, Displayable 0 text :=
    displayable_paramTypeNames hbuilt hplain
  have hanswers {x : MethodDef} (hname : x.name = m.name)
      (hparams : w.assembly.paramTypeNames x.signature = w.assembly.paramTypeNames m.signature) :
      w.assembly.Answers m.name (w.assembly.paramTypeNames m.signature) x := by
    refine ⟨hname, ?_⟩
    rw [← hparams, Assembly.paramTypeNames, List.forall₂_map_right_iff, List.forall₂_same]
    exact fun p _ ↦ .inl rfl
  simp only [resolve?_displayedMethod hbuilt hfew hdistinct hplain ht hm]
  constructor
  · rintro ⟨n, _, ⟨front, behind, hsplit, hn, hfront⟩, hname, hparams⟩
    have hreadable := Assembly.readable_of_spells hdisplayable hparams.symm hn.params
    rw [Assembly.displayedTypes, Assembly.readParameters_of_readable hdisplayable hreadable]
      at hfront
    exact ⟨hreadable, front, n, behind, hsplit, hname, hparams, hfront⟩
  · rintro ⟨hreadable, front, n, behind, hsplit, hname, hparams, hfront⟩
    rw [Assembly.displayedTypes, Assembly.readParameters_of_readable hdisplayable hreadable]
    have hmem : n ∈ w.assembly.methodsOf t.methods := by
      rw [hsplit]
      exact List.mem_append_right _ List.mem_cons_self
    exact ⟨n, hmem, ⟨front, behind, hsplit, hanswers hname hparams, hfront⟩, hname, hparams⟩

end World

end CliMetadata
