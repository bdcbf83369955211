import CliMetadata.Proofs.DocumentationId.Reading
import CliMetadata.Proofs.Search.Found

namespace CliMetadata

section Splitting

variable {piece text front rest front' rest' : List Char} {c : Char}

theorem append_of_splitFirstPiece? (h : splitFirstPiece? piece text = some (front, rest)) :
    text = front ++ (piece ++ rest) := by
  induction text generalizing front with
  | nil =>
    rw [splitFirstPiece?] at h
    split at h
    · next hpiece =>
      cases h
      rw [List.isEmpty_iff.1 hpiece]
      rfl
    · cases h
  | cons x text ih =>
    rw [splitFirstPiece?] at h
    split at h
    · next hprefix =>
      cases h
      exact (List.isPrefixOf?_eq_some_iff_append_eq.1 hprefix).symm
    · obtain ⟨⟨inner, behind⟩, hsplit, heq⟩ := Option.map_eq_some_iff.1 h
      cases heq
      exact congrArg (x :: ·) (ih hsplit)

theorem append_of_splitLastPiece? (h : splitLastPiece? piece text = some (front, rest)) :
    text = front ++ (piece ++ rest) := by
  induction text generalizing front with
  | nil =>
    rw [splitLastPiece?] at h
    split at h
    · next hpiece =>
      cases h
      rw [List.isEmpty_iff.1 hpiece]
      rfl
    · cases h
  | cons x text ih =>
    rw [splitLastPiece?] at h
    split at h
    · next hsplit =>
      cases h
      exact congrArg (x :: ·) (ih hsplit)
    · obtain ⟨behind, hprefix, heq⟩ := Option.map_eq_some_iff.1 h
      cases heq
      exact (List.isPrefixOf?_eq_some_iff_append_eq.1 hprefix).symm

theorem splitLastPiece?_append (h : splitLastPiece? piece (piece ++ rest) = some ([], rest)) :
    splitLastPiece? piece (front ++ (piece ++ rest)) = some (front, rest) := by
  induction front with
  | nil => exact h
  | cons x front ih => rw [List.cons_append, splitLastPiece?, ih]

theorem splitLastPiece?_of_not_mem (hc : c ∈ piece) (h : c ∉ text) :
    splitLastPiece? piece text = none := by
  rw [Option.eq_none_iff_forall_ne_some]
  rintro ⟨front, rest⟩ hsplit
  rw [append_of_splitLastPiece? hsplit] at h
  exact h (List.mem_append_right _ (List.mem_append_left _ hc))

theorem not_mem_of_splitLastPiece? (h : splitLastPiece? [c] text = none) : c ∉ text := by
  induction text with
  | nil => exact List.not_mem_nil
  | cons x text ih =>
    rw [splitLastPiece?] at h
    split at h
    · cases h
    · next hnone =>
      have hne : c ≠ x := by
        rintro rfl
        simp [List.isPrefixOf?] at h
      rw [List.mem_cons, not_or]
      exact ⟨hne, ih hnone⟩

theorem splitLastPiece?_eq_some_iff : splitLastPiece? [c] text = some (front, rest) ↔
    text = front ++ c :: rest ∧ c ∉ rest := by
  constructor
  · intro h
    refine ⟨append_of_splitLastPiece? h, ?_⟩
    induction text generalizing front with
    | nil => cases h
    | cons x text ih =>
      rw [splitLastPiece?] at h
      split at h
      · next hsplit =>
        cases h
        exact ih hsplit
      · next hnone =>
        obtain ⟨behind, hprefix, heq⟩ := Option.map_eq_some_iff.1 h
        cases heq
        cases List.isPrefixOf?_eq_some_iff_append_eq.1 hprefix
        exact not_mem_of_splitLastPiece? hnone
  · rintro ⟨rfl, h⟩
    refine splitLastPiece?_append ?_
    have hnone : splitLastPiece? [c] rest = none :=
      splitLastPiece?_of_not_mem (List.mem_singleton.2 rfl) h
    rw [List.singleton_append, splitLastPiece?, hnone]
    simp [List.isPrefixOf?]

theorem eq_of_append_eq (h : front ++ c :: rest = front' ++ c :: rest') (hrest : c ∉ rest)
    (hrest' : c ∉ rest') : front = front' ∧ rest = rest' := by
  have hsplit := splitLastPiece?_eq_some_iff.2 ⟨h, hrest'⟩
  rw [splitLastPiece?_eq_some_iff.2 ⟨rfl, hrest⟩, Option.some_inj] at hsplit
  exact Prod.mk.inj hsplit

theorem beforeEnd?_eq_some_iff : beforeEnd? piece text = some front ↔ text = front ++ piece := by
  rw [beforeEnd?, Option.map_eq_some_iff]
  constructor
  · rintro ⟨rest, hprefix, rfl⟩
    have hreverse := congrArg List.reverse (List.isPrefixOf?_eq_some_iff_append_eq.1 hprefix)
    simpa using hreverse.symm
  · rintro rfl
    exact ⟨front.reverse, List.isPrefixOf?_eq_some_iff_append_eq.2 (by simp), by simp⟩

end Splitting

theorem Assembly.RowsNumbered.find?_bind_resolve? {a : Assembly} (hrows : a.RowsNumbered)
    (tokens : List Token) (p : MethodDef → Bool) :
    (((a.methodsOf tokens).find? p).bind fun m ↦ Symbol.resolve? a m.token) =
      ((a.methodsOf tokens).find? p).map .method := by
  cases hfound : (a.methodsOf tokens).find? p with
  | none => rfl
  | some m =>
    have hstands : (Symbol.method m).StandsAt a m.token :=
      hrows.method?_of_mem_methodsOf (List.mem_of_find?_eq_some hfound)
    rw [Option.bind_some, resolve?_of_standsAt hstands, Option.map_some]

namespace DocumentationId

/-- The name of a member that is found behind the name of its type: the name of a constructor, or
one without dots that does not, with what stands in front of it, spell a constructor. -/
def Separable (owner name : String) : Prop :=
  name = ".ctor" ∨ name = ".cctor" ∨
    '.' ∉ name.toList ∧ name ≠ "#ctor" ∧ name ≠ "#cctor" ∧
      (owner.toList.getLast? = some '.' → name ≠ "ctor" ∧ name ≠ "cctor")

section Members

variable {path owner member : List Char}

/-- The spelling of a constructor, or the last dot. -/
theorem splitMember?_cases (hcolon : ':' ∉ path) (h : splitMember? path = some (owner, member)) :
    (∃ entry ∈ constructorEnds, path = owner ++ entry.1.toList ∧ member = entry.2.toList) ∨
      path = owner ++ '.' :: member ∧ '.' ∉ member ∧
        ∀ entry ∈ constructorEnds, ∀ front, path ≠ front ++ entry.1.toList := by
  have hnone : splitLastPiece? [':', ':'] path = none :=
    splitLastPiece?_of_not_mem List.mem_cons_self hcolon
  rw [splitMember?, hnone, Option.none_or, Option.or_eq_some_iff] at h
  rcases h with h | ⟨hends, h⟩
  · obtain ⟨entry, hentry, h⟩ := List.exists_of_findSome?_eq_some h
    obtain ⟨front, hfront, heq⟩ := Option.map_eq_some_iff.1 h
    cases heq
    exact .inl ⟨entry, hentry, beforeEnd?_eq_some_iff.1 hfront, rfl⟩
  · obtain ⟨hpath, hdot⟩ := splitLastPiece?_eq_some_iff.1 h
    refine .inr ⟨hpath, hdot, fun entry hentry front heq ↦ ?_⟩
    have hend := List.findSome?_eq_none_iff.1 hends entry hentry
    rw [Option.map_eq_none_iff, beforeEnd?_eq_some_iff.2 heq] at hend
    cases hend

theorem not_mem_of_splitMember? {c : Char} {front name : List Char}
    (hcolon : ':' ∉ front ++ '.' :: name)
    (h : splitMember? (front ++ '.' :: name) = some (owner, member)) (hname : c ∉ name)
    (hc : c ∉ ".cctor".toList) : c ∉ member := by
  rcases splitMember?_cases hcolon h with ⟨entry, hentry, _, rfl⟩ | ⟨hpath, hdot, _⟩
  · have hctor : c ∉ ".ctor".toList := fun hmem ↦ hc (by revert hmem; simp +contextual)
    simp only [constructorEnds, List.mem_cons, List.not_mem_nil, or_false] at hentry
    rcases hentry with rfl | rfl | rfl | rfl <;> assumption
  · intro hmem
    rcases List.append_eq_append_iff.1 hpath with ⟨middle, rfl, hrest⟩ | ⟨middle, rfl, hrest⟩
    · cases middle with
      | nil =>
        cases hrest
        exact hname hmem
      | cons x middle =>
        cases hrest
        exact hname (List.mem_append_right _ (List.mem_cons_of_mem _ hmem))
    · cases middle with
      | nil =>
        cases hrest
        exact hname hmem
      | cons x middle =>
        cases hrest
        exact hdot (List.mem_append_right _ List.mem_cons_self)

theorem eq_of_append_constructorEnd {front front' : List Char} {entry entry' : String × String}
    (hentry : entry ∈ constructorEnds) (hentry' : entry' ∈ constructorEnds)
    (h : front ++ entry.1.toList = front' ++ entry'.1.toList) :
    front = front' ∧ entry = entry' := by
  have hreverse : entry.1.toList.reverse ++ front.reverse =
      entry'.1.toList.reverse ++ front'.reverse := by
    rw [← List.reverse_append, h, List.reverse_append]
  simp only [constructorEnds, List.mem_cons, List.not_mem_nil, or_false] at hentry hentry'
  rcases hentry with rfl | rfl | rfl | rfl <;> rcases hentry' with rfl | rfl | rfl | rfl <;>
    simp_all

theorem splitMember?_eq_some_iff {owner name : String}
    (hcolon : ':' ∉ owner.toList ++ '.' :: name.toList) :
    splitMember? (owner.toList ++ '.' :: name.toList) = some (owner.toList, name.toList) ↔
      Separable owner name := by
  constructor
  · intro h
    rcases splitMember?_cases hcolon h with ⟨entry, hentry, _, hmember⟩ | ⟨_, hdot, hends⟩
    · have hname : name = entry.2 := String.toList_inj.1 hmember
      simp only [constructorEnds, List.mem_cons, List.not_mem_nil, or_false] at hentry
      rcases hentry with rfl | rfl | rfl | rfl
      · exact .inl hname
      · exact .inr (.inl hname)
      · exact .inl hname
      · exact .inr (.inl hname)
    · refine .inr (.inr ⟨hdot, ?_, ?_, fun hlast ↦ ?_⟩)
      · rintro rfl
        exact hends (".#ctor", ".ctor") (by decide) owner.toList rfl
      · rintro rfl
        exact hends (".#cctor", ".cctor") (by decide) owner.toList rfl
      · obtain ⟨front, hfront⟩ := List.getLast?_eq_some_iff.1 hlast
        rw [hfront] at hends
        constructor
        · rintro rfl
          exact hends ("..ctor", ".ctor") (by decide) front (by simp)
        · rintro rfl
          exact hends ("..cctor", ".cctor") (by decide) front (by simp)
  · intro h
    have hsome : (splitMember? (owner.toList ++ '.' :: name.toList)).isSome := by
      have hlast : splitLastPiece? ['.'] (owner.toList ++ '.' :: name.toList) ≠ none := fun hnone ↦
        not_mem_of_splitLastPiece? hnone (List.mem_append_right _ List.mem_cons_self)
      rw [splitMember?, Option.isSome_or, Option.isSome_or, Option.isSome_iff_ne_none.2 hlast,
        Bool.or_true, Bool.or_true]
    obtain ⟨⟨front, member⟩, hsplit⟩ := Option.isSome_iff_exists.1 hsome
    rw [hsplit]
    rcases h with rfl | rfl | ⟨hdot, hctor, hcctor, hlast⟩
    · rcases splitMember?_cases hcolon hsplit with ⟨entry, hentry, hpath, rfl⟩ | ⟨_, _, hends⟩
      · have hctor : ("..ctor", ".ctor") ∈ constructorEnds := by decide
        obtain ⟨hfront, rfl⟩ := eq_of_append_constructorEnd hctor hentry hpath
        rw [hfront]
      · exact absurd rfl (hends ("..ctor", ".ctor") (by decide) owner.toList)
    · rcases splitMember?_cases hcolon hsplit with ⟨entry, hentry, hpath, rfl⟩ | ⟨_, _, hends⟩
      · have hcctor : ("..cctor", ".cctor") ∈ constructorEnds := by decide
        obtain ⟨hfront, rfl⟩ := eq_of_append_constructorEnd hcctor hentry hpath
        rw [hfront]
      · exact absurd rfl (hends ("..cctor", ".cctor") (by decide) owner.toList)
    · rcases splitMember?_cases hcolon hsplit with ⟨entry, hentry, hpath, _⟩ | ⟨hpath, hmember, _⟩
      · have hends (word : String) (hword : '.' ∉ word.toList)
            (heq : owner.toList ++ '.' :: name.toList =
              front ++ ['.'] ++ '.' :: word.toList) :
            owner.toList.getLast? = some '.' ∧ name = word := by
          obtain ⟨howner, hname⟩ := eq_of_append_eq heq hdot hword
          exact ⟨by rw [howner, List.getLast?_concat], String.toList_inj.1 hname⟩
        simp only [constructorEnds, List.mem_cons, List.not_mem_nil, or_false] at hentry
        rcases hentry with rfl | rfl | rfl | rfl
        · obtain ⟨hmark, hname⟩ := hends "ctor" (by decide) (by simpa using hpath)
          exact absurd hname (hlast hmark).1
        · obtain ⟨hmark, hname⟩ := hends "cctor" (by decide) (by simpa using hpath)
          exact absurd hname (hlast hmark).2
        · exact absurd (String.toList_inj.1 (eq_of_append_eq hpath hdot (by decide)).2) hctor
        · exact absurd (String.toList_inj.1 (eq_of_append_eq hpath hdot (by decide)).2) hcctor
      · obtain ⟨rfl, rfl⟩ := eq_of_append_eq hpath hdot hmember
        rfl

end Members

/-- A name without the characters that lists of parameter types, nested types and members are told
by, and without white space. -/
def Plain (name : String) : Prop :=
  ∀ c ∈ name.toList, c ≠ '/' ∧ c ≠ ':' ∧ c ≠ '(' ∧ isBlank c = false

instance (name : String) : Decidable (Plain name) := List.decidableBAll _ name.toList

theorem Plain.append {s t : String} (hs : Plain s) (ht : Plain t) : Plain (s ++ t) := by
  intro c hc
  rw [String.toList_append, List.mem_append] at hc
  exact hc.elim (hs c) (ht c)

section Find

open Search

variable {a : Assembly} {names : TypeNames} {kind : MemberKind} {name : List Char}

theorem find?_of_not_mem (hkind : kind ≠ .type) (hslash : '/' ∉ name) (hparen : '(' ∉ name) :
    find? a names ⟨kind, name⟩ = (splitMember? name).bind fun parts ↦
      ((names.fullName? (String.ofList parts.1)).bind a.typeDef?).bind fun u ↦
        findMember? a kind u parts.2 none := by
  have hpath : path ⟨kind, name⟩ = name := by
    refine (List.map_congr_left fun c hc ↦ ?_).trans (List.map_id name)
    exact if_neg fun heq : c = '/' ↦ hslash (heq ▸ hc)
  have hparameters : splitParameters name = (name, none) := by
    rw [splitParameters, splitFirst?_of_not_mem hparen]
  rw [find?, if_neg hkind, hpath, hparameters]
  simp only [Option.bind_eq_bind, Option.bind_assoc]

theorem splitArity?_of_not_mem (hmark : '\x60' ∉ name) :
    splitArity? name = some (String.ofList name, none) := by
  have hnone : splitFirstPiece? ['\x60', '\x60'] name = none := by
    rw [Option.eq_none_iff_forall_ne_some]
    rintro ⟨front, rest⟩ hsplit
    rw [append_of_splitFirstPiece? hsplit] at hmark
    exact hmark (List.mem_append_right _ (List.mem_append_left _ List.mem_cons_self))
  rw [splitArity?, hnone]

theorem findMember?_of_not_mem {w : World} (hbuilt : w.assembly.Built) {u : TypeDef}
    (hu : u ∈ w.assembly.types) (hkind : kind ≠ .type) (hmark : '\x60' ∉ name) :
    findMember? w.assembly kind u name none = findNamed? w.assembly (u.listed kind) name := by
  cases kind with
  | type => exact absurd rfl hkind
  | method =>
    have hsymbols : u.methods.filterMap (Symbol.ofToken? w.assembly) =
        (w.assembly.methodsOf u.methods).map .method := by
      rw [Assembly.methodsOf, List.map_filterMap]
      refine List.filterMap_congr fun token htoken ↦ ?_
      have hlisted : token ∈ u.listed .method := htoken
      rw [Symbol.ofToken?, listed_kind hbuilt hu hlisted, Option.bind_some]
    have hmatches (m : MethodDef) : methodMatches w.assembly (String.ofList name) none none m =
        ((Symbol.method m).name.toList == name) := by
      rw [methodMatches, Option.all_none, Option.all_none, Bool.and_true, Bool.and_true,
        Bool.eq_iff_iff, beq_iff_eq, beq_iff_eq, ← String.toList_inj, String.toList_ofList]
      rfl
    rw [findMember?, findMethod?, splitArity?_of_not_mem hmark, findNamed?, TypeDef.listed,
      hsymbols, List.find?_map]
    simp only [Option.bind_eq_bind, Option.bind_some, Function.comp_def, ← hmatches,
      hbuilt.rowsNumbered.find?_bind_resolve?]
  | property => rfl
  | field => rfl
  | event => rfl

theorem hasMember_of_findNamed? {w : World} (hbuilt : w.assembly.Built) {u : TypeDef}
    (hu : u ∈ w.assembly.types) {y : Symbol}
    (h : findNamed? w.assembly (u.listed kind) name = some y) :
    w.assembly.HasMember u y ∧ y.kind = kind ∧ y.name.toList = name := by
  rw [findNamed?, List.find?_eq_some_iff_append] at h
  obtain ⟨hname, front, behind, hsymbols, _⟩ := h
  have hmem : y ∈ (u.listed kind).filterMap (Symbol.ofToken? w.assembly) := by
    rw [hsymbols]
    exact List.mem_append_right _ List.mem_cons_self
  obtain ⟨token, htoken, hy⟩ := List.mem_filterMap.1 hmem
  have hkind := (listed_kind hbuilt hu htoken).symm.trans (ofToken?_kind hy)
  obtain rfl := hbuilt.rowsNumbered.token_ofToken? hy
  obtain rfl := Option.some.inj hkind
  exact ⟨⟨htoken, hy⟩, rfl, beq_iff_eq.1 hname⟩

theorem exists_findNamed? {u : TypeDef} {y : Symbol} (hy : a.HasMember u y) :
    ∃ z, findNamed? a (u.listed y.kind) y.name.toList = some z := by
  rw [← Option.isSome_iff_exists, findNamed?, List.find?_isSome]
  exact ⟨y, List.mem_filterMap.2 ⟨y.token, hy.listed, hy.found⟩, beq_self_eq_true _⟩

end Find

end DocumentationId

namespace Assembly

def FullNamesDistinct (a : Assembly) : Prop := (a.types.toList.map (·.fullName)).Nodup

variable {a : Assembly}

/-- Where full names are distinct, a full name leads to the type that has it. -/
theorem RowsNumbered.fullName?_bind_eq_some_iff (hrows : a.RowsNumbered)
    (hfew : a.types.size < 0x1000000) (hdistinct : a.FullNamesDistinct) {name : String}
    {t : TypeDef} : ((TypeNames.ofTypes a.types.toList).fullName? name).bind a.typeDef? = some t ↔
      t ∈ a.types ∧ t.fullName = name := by
  constructor
  · intro h
    obtain ⟨token, htoken, h⟩ := Option.bind_eq_some_iff.1 h
    obtain ⟨u, hu, hname, rfl⟩ := TypeNames.exists_of_fullName? htoken
    have hu := Array.mem_toList_iff.1 hu
    rw [hrows.typeDef?_token hfew hu] at h
    cases h
    exact ⟨hu, hname⟩
  · rintro ⟨ht, rfl⟩
    have ht := Array.mem_toList_iff.2 ht
    obtain ⟨token, htoken⟩ := TypeNames.exists_fullName? ht
    obtain ⟨u, hu, hname, rfl⟩ := TypeNames.exists_of_fullName? htoken
    obtain rfl := List.inj_on_of_nodup_map hdistinct hu ht hname
    rw [htoken, Option.bind_some, hrows.typeDef?_token hfew (Array.mem_toList_iff.1 hu)]

end Assembly

namespace World

variable {w : World} (hbuilt : w.assembly.Built) (hfew : w.assembly.TokensSuffice) {t : TypeDef}
  {x : Symbol}

include hbuilt hfew

theorem fullName_of_hasMember (ht : t ∈ w.assembly.types) (hx : w.assembly.HasMember t x)
    (hkind : x.kind ≠ .type) : x.fullName w.assembly = t.fullName ++ "." ++ x.name := by
  have howner := Search.declaringType?_of_hasMember hbuilt hfew ht hx
  have hname : w.assembly.typeName t.token = t.fullName := by
    rw [Assembly.typeName, Assembly.typeNameWithin,
      hbuilt.rowsNumbered.typeDef?_token hfew.types ht]
  have hfull : x.fullName w.assembly =
      x.declaringType?.elim x.name fun owner ↦ w.assembly.typeName owner ++ "." ++ x.name := by
    cases x with
    | type => exact absurd rfl hkind
    | _ => rfl
  rw [hfull, howner, Option.elim_some, hname]

/-- The full name of a member leads to a member of its kind with this full name if there is one
whose name is told apart from the name of its type, and only then. -/
theorem resolve?_fullName_iff (hdistinct : w.assembly.FullNamesDistinct)
    (ht : t ∈ w.assembly.types) (hx : w.assembly.HasMember t x) (hkind : x.kind ≠ .type)
    (hplain : DocumentationId.Plain (x.fullName w.assembly)) (hmark : '\x60' ∉ x.name.toList) :
    (∃ y, w.resolve? (x.kind.lettered (x.fullName w.assembly)) = some y ∧ y.kind = x.kind ∧
        y.fullName w.assembly = x.fullName w.assembly) ↔
      ∃ u ∈ w.assembly.types, ∃ y, w.assembly.HasMember u y ∧ y.kind = x.kind ∧
        y.fullName w.assembly = x.fullName w.assembly ∧
        DocumentationId.Separable u.fullName y.name := by
  have hrows := hbuilt.rowsNumbered
  have htext {u : TypeDef} {y : Symbol} (hu : u ∈ w.assembly.types)
      (hy : w.assembly.HasMember u y) (hykind : y.kind = x.kind) :
      (y.fullName w.assembly).toList = u.fullName.toList ++ '.' :: y.name.toList := by
    rw [fullName_of_hasMember hbuilt hfew hu hy (hykind ▸ hkind)]
    simp
  have hcolon : ':' ∉ (x.fullName w.assembly).toList := fun hmem ↦ (hplain _ hmem).2.1 rfl
  have hfind : DocumentationId.find? w.assembly (.ofTypes w.assembly.types.toList)
      ⟨x.kind, (x.fullName w.assembly).toList⟩ = _ :=
    DocumentationId.find?_of_not_mem hkind (fun hmem ↦ (hplain _ hmem).1 rfl)
      fun hmem ↦ (hplain _ hmem).2.2.1 rfl
  have hmarks {owner member : List Char}
      (hsplit : DocumentationId.splitMember? (x.fullName w.assembly).toList =
        some (owner, member)) : '\x60' ∉ member := by
    rw [htext ht hx rfl] at hsplit hcolon
    exact DocumentationId.not_mem_of_splitMember? hcolon hsplit hmark (by decide)
  rw [resolve?, Assembly.search?_lettered _ _
    (fun c hc ↦ (hplain c (List.mem_of_mem_head? hc)).2.2.2)
    fun c hc ↦ (hplain c (List.mem_of_getLast? hc)).2.2.2, hfind]
  constructor
  · rintro ⟨y, hy, _, hyname⟩
    obtain ⟨⟨owner, member⟩, hsplit, hy⟩ := Option.bind_eq_some_iff.1 hy
    obtain ⟨u, hu, hy⟩ := Option.bind_eq_some_iff.1 hy
    obtain ⟨hu, howner⟩ := (hrows.fullName?_bind_eq_some_iff hfew.types hdistinct).1 hu
    rw [DocumentationId.findMember?_of_not_mem hbuilt hu hkind (hmarks hsplit)] at hy
    obtain ⟨hy, hykind, hmember⟩ := DocumentationId.hasMember_of_findNamed? hbuilt hu hy
    refine ⟨u, hu, y, hy, hykind, hyname, ?_⟩
    rw [← hyname, htext hu hy hykind] at hsplit hcolon
    rw [← DocumentationId.splitMember?_eq_some_iff hcolon, hsplit, hmember, howner,
      String.toList_ofList]
  · rintro ⟨u, hu, y, hy, hykind, hyname, hseparable⟩
    have hsplit : DocumentationId.splitMember? (x.fullName w.assembly).toList =
        some (u.fullName.toList, y.name.toList) := by
      rw [← hyname, htext hu hy hykind] at hcolon ⊢
      exact (DocumentationId.splitMember?_eq_some_iff hcolon).2 hseparable
    have howner := (hrows.fullName?_bind_eq_some_iff hfew.types hdistinct).2 ⟨hu, rfl⟩
    obtain ⟨z, hz⟩ := DocumentationId.exists_findNamed? hy
    rw [hykind] at hz
    obtain ⟨hzmember, hzkind, hzname⟩ := DocumentationId.hasMember_of_findNamed? hbuilt hu hz
    refine ⟨z, ?_, hzkind, ?_⟩
    · rw [hsplit, Option.bind_some, String.ofList_toList, howner, Option.bind_some,
        DocumentationId.findMember?_of_not_mem hbuilt hu hkind (hmarks hsplit), hz]
    · rw [← hyname, ← String.toList_inj, htext hu hzmember hzkind, htext hu hy hykind, hzname]

end World

end CliMetadata
