import CliMetadata.Proofs.Assembly.Ending

namespace CliMetadata

namespace Assembly

variable {a : Assembly} {t : TypeDef} {m n : MethodDef} {token : Token}

/-- A token for a type: its own, or one of an instantiation of it. -/
inductive Denotes (a : Assembly) (t : TypeDef) : Token → Prop
  | definition {token : Token} : a.typeDef? token = some t → Denotes a t token
  | instantiation {token inner : Token} {spec : TypeSpec} {base : TypeSig} {args : List TypeSig} :
      a.typeSpec? token = some spec → spec.signature = .generic base args →
      base = .classType inner ∨ base = .valueType inner → a.typeDef? inner = some t →
      Denotes a t token

/-- Methods that no member reference tells apart. -/
structure Alike (a : Assembly) (m n : MethodDef) : Prop where
  name : n.name = m.name
  genericCount : n.signature.genericCount = m.signature.genericCount
  hasThis : n.signature.hasThis = m.signature.hasThis
  paramTypes : a.paramTypeNames n.signature = a.paramTypeNames m.signature

theorem Alike.refl (a : Assembly) (m : MethodDef) : a.Alike m m := ⟨rfl, rfl, rfl, rfl⟩

theorem spells_iff : a.spells m.name m.signature n = true ↔ a.Alike m n := by
  simp only [spells, Bool.and_eq_true, beq_iff_eq]
  constructor
  · rintro ⟨⟨⟨hname, hcount⟩, hthis⟩, htypes⟩
    exact ⟨hname, hcount, hthis, htypes⟩
  · rintro ⟨hname, hcount, hthis, htypes⟩
    exact ⟨⟨⟨hname, hcount⟩, hthis⟩, htypes⟩

theorem Denotes.method?_eq_none (h : a.Denotes t token) : a.method? token = none := by
  cases h with
  | definition ht => exact rowOf?_eq_none ht (by decide)
  | instantiation hspec _ _ _ => exact rowOf?_eq_none hspec (by decide)

theorem RowsNumbered.resolveType?_of_denotes (hrows : a.RowsNumbered) (h : a.Denotes t token) :
    (a.resolveType? token).bind a.typeDef? = some t := by
  rw [resolveType?]
  cases h with
  | definition ht => rw [if_pos (Option.isSome_of_eq_some ht), Option.bind_some, ht]
  | instantiation hspec hsignature hbase ht =>
    have hnone : a.typeDef? token = none := rowOf?_eq_none hspec (by decide)
    rw [hnone, Option.isSome_none, if_neg Bool.false_ne_true, hspec, Option.bind_some, hsignature]
    rcases hbase with rfl | rfl <;>
      rw [instantiatedType?, ht, Option.map_some, Option.bind_some, hrows.types.token_rowOf? ht, ht]

theorem RowsNumbered.resolveMemberRef?_eq_find? (hrows : a.RowsNumbered) {ref : MemberRef}
    (href : a.memberRef? token = some ref) (hparent : a.Denotes t ref.parent)
    (hname : ref.name = m.name) (hsignature : ref.signature = .method m.signature) :
    a.resolveMemberRef? token =
      ((a.methodsOf t.methods).find? (a.spells m.name m.signature)).map (·.token) := by
  obtain ⟨owner, howner, ht⟩ := Option.bind_eq_some_iff.1 (hrows.resolveType?_of_denotes hparent)
  simp only [resolveMemberRef?, href, hparent.method?_eq_none, howner, ht, hname, hsignature, memberOf?,
    Option.bind_eq_bind, Option.bind_some]

/-- Where no type specification mentions itself, the parameter types have names to compare, and a
reference that spells out a method leads to a method of the type that it does not tell apart from
that one: to the method itself if none in front of it is alike, and only then. -/
theorem resolveMemberRef?_eq_some_iff (hbuilt : a.Built) (hends : a.TypeSpecsEnd) {ref : MemberRef}
    (href : a.memberRef? token = some ref) (hparent : a.Denotes t ref.parent)
    (hm : m ∈ a.methodsOf t.methods) (hname : ref.name = m.name)
    (hsignature : ref.signature = .method m.signature) :
    a.TypesNamed ∧
      (∃ n ∈ a.methodsOf t.methods, a.Alike m n ∧ a.resolveMemberRef? token = some n.token) ∧
      (a.resolveMemberRef? token = some m.token ↔ ∃ front behind,
        a.methodsOf t.methods = front ++ m :: behind ∧ ∀ n ∈ front, ¬a.Alike m n) := by
  have hrows : a.RowsNumbered := hbuilt.rowsNumbered
  have hfound := hrows.resolveMemberRef?_eq_find? href hparent hname hsignature
  rw [hfound]
  have hself : a.spells m.name m.signature m = true := spells_iff.2 (.refl a m)
  obtain ⟨n, hn⟩ := Option.isSome_iff_exists.1 (List.find?_isSome.2 ⟨m, hm, hself⟩)
  refine ⟨typeSpecsEnd_iff.1 hends, ⟨n, List.mem_of_find?_eq_some hn,
    spells_iff.1 (List.find?_some hn), ?_⟩, ?_⟩
  · rw [hn, Option.map_some]
  constructor
  · intro htoken
    rw [hn, Option.map_some, Option.some_inj] at htoken
    have hnrow := hrows.method?_of_mem_methodsOf (List.mem_of_find?_eq_some hn)
    rw [htoken, hrows.method?_of_mem_methodsOf hm] at hnrow
    cases hnrow
    obtain ⟨_, front, behind, hsplit, hfront⟩ := List.find?_eq_some_iff_append.1 hn
    refine ⟨front, behind, hsplit, fun x hx halike ↦ ?_⟩
    have hspelled := hfront x hx
    rw [spells_iff.2 halike] at hspelled
    cases hspelled
  · rintro ⟨front, behind, hsplit, hfront⟩
    have hfirst : (a.methodsOf t.methods).find? (a.spells m.name m.signature) = some m := by
      refine List.find?_eq_some_iff_append.2 ⟨hself, front, behind, hsplit, fun x hx ↦ ?_⟩
      rw [Bool.not_eq_true', Bool.eq_false_iff]
      exact fun hspelled ↦ hfront x hx (spells_iff.1 hspelled)
    rw [hfirst, Option.map_some]

def convertingTwice : Assembly :=
  let money : TypeSig := .valueType ⟨0x02000001⟩
  let toInt : MethodSig :=
    { result := { base := .primitive .int32 }, params := [{ base := money }] }
  let toLong : MethodSig := { toInt with result := { base := .primitive .int64 } }
  ([Draft.Edit.addType "App" "Money" 1 none,
    .addMethod ⟨0x02000001⟩ "op_Explicit" 0x816 toInt,
    .addMethod ⟨0x02000001⟩ "op_Explicit" 0x816 toLong,
    .addTypeSpec (.generic money [.object]),
    .addMemberRef ⟨0x1B000001⟩ "op_Explicit" (.method toInt),
    .addMemberRef ⟨0x02000001⟩ "op_Explicit" (.method toLong)].foldl
      Draft.Edit.apply (.new "App")).build

theorem built_convertingTwice : convertingTwice.Built := ⟨_, .edits (.new "App") _, rfl⟩

theorem resolveMemberRef?_convertingTwice :
    let a := convertingTwice
    a.Built ∧ a.TypeSpecsEnd ∧ ∃ t ∈ a.types, ∃ m ∈ a.methodsOf t.methods, ∃ ref,
      a.memberRef? ⟨0x0A000001⟩ = some ref ∧ a.Denotes t ref.parent ∧ ref.name = m.name ∧
        ref.signature = .method m.signature ∧ a.resolveMemberRef? ⟨0x0A000001⟩ = some m.token := by
  intro a
  have hends : a.TypeSpecsEnd := built_convertingTwice.rowsNumbered.typeSpecsEnd (by decide)
  have href : a.memberRef? ⟨0x0A000001⟩ = some a.memberRefs[0] := rfl
  have hparent : a.Denotes a.types[0] a.memberRefs[0].parent :=
    .instantiation (by decide : a.typeSpec? ⟨0x1B000001⟩ = some a.typeSpecs[0]) rfl (.inr rfl)
      (by decide)
  have hm : a.methods[0] ∈ a.methodsOf a.types[0].methods := .head _
  obtain ⟨_, _, hiff⟩ :=
    resolveMemberRef?_eq_some_iff built_convertingTwice hends href hparent hm rfl rfl
  exact ⟨built_convertingTwice, hends, _, Array.getElem_mem _, _, hm, _, href, hparent, rfl, rfl,
    hiff.2 ⟨[], [a.methods[1]], rfl, by simp⟩⟩

/-- No other method has the name and the signature of the second conversion, but the reference to it
leads to the first. -/
theorem not_resolveMemberRef?_convertingTwice :
    let a := convertingTwice
    a.Built ∧ ∃ t ∈ a.types, ∃ m ∈ a.methodsOf t.methods, ∃ ref,
      (∀ n ∈ a.methodsOf t.methods, n ≠ m → ¬(n.name = m.name ∧ n.signature = m.signature)) ∧
        a.memberRef? ⟨0x0A000002⟩ = some ref ∧ a.typeDef? ref.parent = some t ∧
        ref.name = m.name ∧ ref.signature = .method m.signature ∧
        ∃ n ∈ a.methodsOf t.methods, n ≠ m ∧ a.resolveMemberRef? ⟨0x0A000002⟩ = some n.token ∧
          a.resolveMemberRef? ⟨0x0A000002⟩ ≠ some m.token := by
  intro a
  refine ⟨built_convertingTwice, a.types[0], Array.getElem_mem _, a.methods[1], .tail _ (.head _),
    a.memberRefs[1], by decide, rfl, by decide, rfl, rfl, a.methods[0], .head _, by decide,
    by decide, by decide⟩

end Assembly

end CliMetadata
