import CliMetadata.Proofs.Assembly.Leading
import CliMetadata.Proofs.Signature.Mentioning
import CliMetadata.Source.Disassembly
import CliMetadata.Usage
import Mathlib.Data.Finset.Card
import Mathlib.Data.Finset.Image
import Mathlib.Logic.Relation
import Mathlib.Order.WellFounded

namespace CliMetadata

section Bounds

variable {α β : Type} {r : α → α → Prop} {rows : Finset α} {x y : α}

open Classical in
noncomputable def rowsBelow (r : α → α → Prop) (rows : Finset α) (x : α) : Finset α :=
  rows.filter fun y ↦ Relation.ReflTransGen r y x

theorem mem_rowsBelow : y ∈ rowsBelow r rows x ↔ y ∈ rows ∧ Relation.ReflTransGen r y x := by
  classical
  exact Finset.mem_filter

theorem card_rowsBelow_le (r : α → α → Prop) (rows : Finset α) (x : α) :
    (rowsBelow r rows x).card ≤ rows.card :=
  Finset.card_le_card fun _ hy ↦ (mem_rowsBelow.1 hy).1

section Finite

variable (hacyclic : ∀ x, ¬Relation.TransGen r x x) (hrows : ∀ y x, r y x → x ∈ rows)

include hacyclic hrows

theorem card_rowsBelow_lt (h : r y x) : (rowsBelow r rows y).card < (rowsBelow r rows x).card := by
  refine Finset.card_lt_card (Finset.ssubset_iff_subset_ne.2 ⟨fun z hz ↦ ?_, fun heq ↦ ?_⟩)
  · obtain ⟨hmem, hbelow⟩ := mem_rowsBelow.1 hz
    exact mem_rowsBelow.2 ⟨hmem, hbelow.tail h⟩
  · have hself : x ∈ rowsBelow r rows x := mem_rowsBelow.2 ⟨hrows y x h, .refl⟩
    rw [← heq, mem_rowsBelow] at hself
    exact hacyclic x (.tail' hself.2 h)

theorem wellFounded_of_acyclic : WellFounded r :=
  Subrelation.wf (card_rowsBelow_lt hacyclic hrows)
    (InvImage.wf (fun x ↦ (rowsBelow r rows x).card) Nat.lt_wfRel.wf)

/-- A recursion that asks only for what is below does not run into a bound above the number of
rows. -/
theorem recursion_eq_of_card_lt {f : Nat → α → β}
    (hlocal : ∀ m n x, (∀ y, r y x → f m y = f n y) → f (m + 1) x = f (n + 1) x) {m n : Nat}
    (hm : rows.card < m) (hn : rows.card < n) (x : α) : f m x = f n x := by
  have hle := card_rowsBelow_le r rows x
  replace hm := hle.trans_lt hm
  replace hn := hle.trans_lt hn
  clear hle
  induction m generalizing n x with
  | zero => exact absurd hm (Nat.not_lt_zero _)
  | succ m ih =>
    obtain ⟨n, rfl⟩ := Nat.exists_eq_add_one_of_ne_zero (Nat.ne_zero_of_lt hn)
    refine hlocal m n x fun y hy ↦ ?_
    have hlt := card_rowsBelow_lt hacyclic hrows hy
    exact ih y (by omega) (by omega)

end Finite

theorem acyclic_of_wellFounded (h : WellFounded r) (x : α) : ¬Relation.TransGen r x x :=
  fun hx ↦ h.transGen.asymmetric x x hx hx

end Bounds

namespace Assembly

section Rows

variable {ρ β : Type} {table : Table} {rows : Array ρ} {parts : ρ → List Token}
  {token inner : Token} {row : ρ}

/-- The first token is a part of the row that the second finds. -/
def StandsIn (table : Table) (rows : Array ρ) (parts : ρ → List Token) (inner token : Token) :
    Prop :=
  ∃ row, rowOf? rows table token = some row ∧ inner ∈ parts row

/-- No row has itself among its parts, directly or through the rows of these. -/
def NoneInItself (table : Table) (rows : Array ρ) (parts : ρ → List Token) : Prop :=
  ∀ token, ¬Relation.TransGen (StandsIn table rows parts) token token

/-- A recursion with a bound that asks only for the parts of rows. -/
structure Follows (table : Table) (rows : Array ρ) (parts : ρ → List Token)
    (f : Nat → Token → β) : Prop where
  missing : ∀ {token}, rowOf? rows table token = none → ∀ m n, f (m + 1) token = f (n + 1) token
  found : ∀ {token row}, rowOf? rows table token = some row → ∀ m n,
    (∀ inner ∈ parts row, f m inner = f n inner) → f (m + 1) token = f (n + 1) token

def rowTokens (table : Table) (size : Nat) : Finset Token :=
  (Finset.range size).image fun i ↦ table.token (i + 1)

theorem card_rowTokens_le (table : Table) (size : Nat) : (rowTokens table size).card ≤ size := by
  have hle := Finset.card_image_le (s := Finset.range size) (f := fun i ↦ table.token (i + 1))
  rwa [Finset.card_range] at hle

theorem mem_rowTokens_of_standsIn (inner token : Token) (h : StandsIn table rows parts inner token) :
    token ∈ rowTokens table rows.size := by
  obtain ⟨_, hrow, _⟩ := h
  obtain ⟨place, hplace, hrow⟩ := Option.bind_eq_some_iff.1 hrow
  refine Finset.mem_image.2 ⟨place, ?_, (eq_token_of_place? hplace).symm⟩
  exact Finset.mem_range.2 (Array.getElem?_eq_some_iff.1 hrow).1

theorem NoneInItself.wellFounded (h : NoneInItself table rows parts) :
    WellFounded (StandsIn table rows parts) :=
  wellFounded_of_acyclic h mem_rowTokens_of_standsIn

theorem NoneInItself.eq_succ (h : NoneInItself table rows parts) {f : Nat → Token → β}
    (hf : Follows table rows parts f) (token : Token) :
    f (rows.size + 1) token = f (rows.size + 1 + 1) token := by
  have hcard := card_rowTokens_le table rows.size
  refine recursion_eq_of_card_lt h mem_rowTokens_of_standsIn (fun m n token hinner ↦ ?_)
    (by omega) (by omega) token
  cases hrow : rowOf? rows table token with
  | none => exact hf.missing hrow m n
  | some row => exact hf.found hrow m n fun inner hpart ↦ hinner inner ⟨row, hrow, hpart⟩

theorem acc_of_none (h : rowOf? rows table token = none) :
    Acc (StandsIn table rows parts) token := by
  refine ⟨_, fun inner ⟨row, hrow, _⟩ ↦ ?_⟩
  rw [h] at hrow
  cases hrow

theorem acc_of_row (hrow : rowOf? rows table token = some row)
    (h : ∀ inner ∈ parts row, Acc (StandsIn table rows parts) inner) :
    Acc (StandsIn table rows parts) token := by
  refine ⟨_, fun inner ⟨other, hother, hpart⟩ ↦ ?_⟩
  cases hrow.symm.trans hother
  exact h inner hpart

/-- Rows whose parts have lower numbers, as far as they are rows of the same table. -/
theorem Numbered.noneInItself {key : ρ → Token} (hnumbered : Numbered key table rows)
    (h : ∀ row ∈ rows, ∀ inner ∈ parts row, inner.isIn table = true → inner.row < (key row).row) :
    NoneInItself table rows parts := by
  let number (token : Token) : Nat := if token.isIn table then token.row else 0
  have hlt {inner token : Token} (hinner : StandsIn table rows parts inner token) :
      number inner < number token := by
    obtain ⟨row, hrow, hpart⟩ := hinner
    obtain ⟨place, hplace, _⟩ := Option.bind_eq_some_iff.1 hrow
    have hnumber := (place?_eq_some_iff.1 hplace).2
    have hkey := hnumbered.token_rowOf? hrow
    simp only [number, isIn_of_rowOf? hrow, if_true]
    split
    · next hin => exact hkey ▸ h row (mem_of_rowOf? hrow) inner hpart hin
    · omega
  exact acyclic_of_wellFounded (Subrelation.wf hlt (InvImage.wf number Nat.lt_wfRel.wf))

end Rows

variable (a : Assembly) {token : Token} {name : String}

/-- No type specification mentions itself, directly or through others. -/
def TypeSpecsEnd : Prop := NoneInItself .typeSpec a.typeSpecs fun spec ↦ spec.signature.tokens

/-- No method specification is one of itself, directly or through others. -/
def MethodSpecsEnd : Prop := NoneInItself .methodSpec a.methodSpecs fun spec ↦ [spec.method]

/-- No type is nested in itself, directly or through others. -/
def NestingEnds : Prop := NoneInItself .typeDef a.types TypeDef.nestedTypes

/-- The name of a type, put together from the names it mentions, however deep they stand in each
other. -/
inductive TypeNamed : Token → String → Prop
  | definition {token : Token} {t : TypeDef} : a.typeDef? token = some t →
      TypeNamed token t.fullName
  | reference {token : Token} {t : TypeRef} : a.typeRef? token = some t →
      TypeNamed token t.fullName
  | specification {token : Token} {spec : TypeSpec} {names : Token → String} :
      a.typeSpec? token = some spec →
      (∀ inner ∈ spec.signature.tokens, TypeNamed inner (names inner)) →
      TypeNamed token (spec.signature.render names)
  | unknown {token : Token} : a.typeDef? token = none → a.typeRef? token = none →
      a.typeSpec? token = none → TypeNamed token token.text

/-- What method specifications lead to, however many of them follow one another. -/
inductive Behind : Token → Token → Prop
  | here {token : Token} : a.methodSpec? token = none → Behind token token
  | through {token last : Token} {spec : MethodSpec} : a.methodSpec? token = some spec →
      Behind spec.method last → Behind token last

/-- The lines of a type, with those of the types nested in it, however deep they stand in each
other. -/
inductive TypeWritten : Token → List String → Prop
  | definition {token : Token} {t : TypeDef} {lines : Token → List String} :
      a.typeDef? token = some t → (∀ inner ∈ t.nestedTypes, TypeWritten inner (lines inner)) →
      TypeWritten token (Disassembly.block (Disassembly.typeHeader a t)
        (Disassembly.memberLines a t ++ t.nestedTypes.flatMap lines))
  | unknown {token : Token} : a.typeDef? token = none → TypeWritten token []

/-- All types have names, and these are the ones that are shown. -/
def TypesNamed : Prop := ∀ token name, a.TypeNamed token name ↔ a.typeName token = name

/-- All method specifications lead to something else, which they resolve and are named like. In
instructions they are shown with their arguments behind their methods. -/
structure SpecsFollowed : Prop where
  behind : ∀ token, ∃ last, a.Behind token last ∧ a.resolve? token = a.resolve? last ∧
    a.methodName token = a.methodName last ∧
    Usage.referenceName a token = Usage.referenceName a last
  shown : ∀ token spec, a.methodSpec? token = some spec →
    Listing.tokenText a token = Listing.tokenText a spec.method ++ "<"
      ++ String.intercalate ", " (spec.args.map a.renderType) ++ ">"

/-- All types have lines, and these are the ones that are shown. -/
def TypesWritten : Prop :=
  ∀ token lines, a.TypeWritten token lines ↔
    (a.typeDef? token).elim [] (Disassembly.typeLines a) = lines

variable {a}

section Types

variable {spec : TypeSpec}

theorem typeNameWithin_typeSpec (hspec : a.typeSpec? token = some spec) (depth : Nat) :
    a.typeNameWithin (depth + 1) token = spec.signature.render (a.typeNameWithin depth) := by
  have hdef : a.typeDef? token = none := rowOf?_eq_none hspec (by decide)
  have href : a.typeRef? token = none := rowOf?_eq_none hspec (by decide)
  rw [typeNameWithin, hdef, href, hspec]

theorem follows_typeNameWithin :
    Follows .typeSpec a.typeSpecs (fun spec ↦ spec.signature.tokens) a.typeNameWithin where
  missing hnone m n := by rw [typeNameWithin, typeNameWithin, typeSpec?, hnone]
  found hspec m n h := by
    rw [typeNameWithin_typeSpec hspec, typeNameWithin_typeSpec hspec, TypeSig.render_congr _ h]

/-- Where no specification mentions itself, the name of one is put together from names that are put
together in the same way. -/
theorem TypeSpecsEnd.typeName_typeSpec (h : a.TypeSpecsEnd)
    (hspec : a.typeSpec? token = some spec) :
    a.typeName token = spec.signature.render a.typeName := by
  rw [typeName, h.eq_succ follows_typeNameWithin, typeNameWithin_typeSpec hspec]
  rfl

theorem TypeSpecsEnd.typeNamed_typeName (h : a.TypeSpecsEnd) (token : Token) :
    a.TypeNamed token (a.typeName token) := by
  induction token using h.wellFounded.induction with
  | _ token ih =>
    cases hspec : a.typeSpec? token with
    | some spec =>
      rw [h.typeName_typeSpec hspec]
      exact .specification hspec fun inner hinner ↦ ih inner ⟨spec, hspec, hinner⟩
    | none =>
      rw [typeName, typeNameWithin]
      split
      · next t ht => exact .definition ht
      · next hdef =>
        split
        · next t ht => exact .reference ht
        · next href =>
          rw [hspec]
          exact .unknown hdef href hspec

theorem TypeSpecsEnd.typeName_eq (h : a.TypeSpecsEnd) (hname : a.TypeNamed token name) :
    a.typeName token = name := by
  induction hname with
  | definition ht => rw [typeName, typeNameWithin, ht]
  | reference ht =>
    have hdef : a.typeDef? _ = none := rowOf?_eq_none ht (by decide)
    rw [typeName, typeNameWithin, hdef, ht]
  | specification hspec _ ih => rw [h.typeName_typeSpec hspec, TypeSig.render_congr _ ih]
  | unknown hdef href hspec => rw [typeName, typeNameWithin, hdef, href, hspec]

theorem TypeNamed.acc (h : a.TypeNamed token name) :
    Acc (StandsIn .typeSpec a.typeSpecs fun spec ↦ spec.signature.tokens) token := by
  induction h with
  | definition ht => exact acc_of_none (rowOf?_eq_none ht (by decide))
  | reference ht => exact acc_of_none (rowOf?_eq_none ht (by decide))
  | specification hspec _ ih => exact acc_of_row hspec ih
  | unknown _ _ hspec => exact acc_of_none hspec

/-- The names of types can be put together exactly if no specification mentions itself. -/
theorem typeSpecsEnd_iff : a.TypeSpecsEnd ↔ a.TypesNamed := by
  constructor
  · intro h token name
    refine ⟨h.typeName_eq, ?_⟩
    rintro rfl
    exact h.typeNamed_typeName token
  · intro h
    exact acyclic_of_wellFounded ⟨fun token ↦ ((h token _).2 rfl).acc⟩

theorem RowsNumbered.typeSpecsEnd (hrows : a.RowsNumbered) (h : ∀ spec ∈ a.typeSpecs,
      ∀ inner ∈ spec.signature.tokens, inner.isIn .typeSpec = true →
        inner.row < spec.token.row) : a.TypeSpecsEnd :=
  Numbered.noneInItself hrows.typeSpecs h

theorem typeSpecsEnd_callingItself : callingItself.TypeSpecsEnd :=
  built_callingItself.rowsNumbered.typeSpecsEnd (by decide)

end Types

section Methods

variable {spec : MethodSpec} {β : Type} {f : Nat → Token → β}

/-- A recursion with a bound that goes on from a method specification to its method, and from
nothing else. -/
structure GoesThrough (a : Assembly) (f : Nat → Token → β) : Prop where
  missing : ∀ {token}, a.methodSpec? token = none → ∀ m n, f (m + 1) token = f (n + 1) token
  through : ∀ {token spec}, a.methodSpec? token = some spec →
    ∀ depth, f (depth + 1) token = f depth spec.method

theorem GoesThrough.follows (hf : a.GoesThrough f) :
    Follows .methodSpec a.methodSpecs (fun spec ↦ [spec.method]) f where
  missing := hf.missing
  found hspec m n hsame := by
    rw [hf.through hspec, hf.through hspec, hsame _ (List.mem_singleton_self _)]

theorem goesThrough_resolveWithin : a.GoesThrough a.resolveWithin where
  missing hnone m n := by
    rw [resolveWithin, resolveWithin, hnone, Option.bind_none, Option.bind_none]
  through hspec depth := by
    have hin := isIn_of_rowOf? hspec
    rw [resolveWithin, if_neg (not_isIn hin (by decide)), if_pos hin, hspec, Option.bind_some]

theorem goesThrough_methodNameWithin : a.GoesThrough a.methodNameWithin where
  missing hnone m n := by rw [methodNameWithin, methodNameWithin, hnone]
  through hspec depth := by
    have hmethod : a.method? _ = none := rowOf?_eq_none hspec (by decide)
    have hmember : a.memberRef? _ = none := rowOf?_eq_none hspec (by decide)
    rw [methodNameWithin, hmethod, hmember, hspec]

theorem goesThrough_referenceNameWithin : a.GoesThrough (Usage.referenceNameWithin a) where
  missing hnone m n := by rw [Usage.referenceNameWithin, Usage.referenceNameWithin, hnone]
  through hspec depth := by
    have hmember : a.memberRef? _ = none := rowOf?_eq_none hspec (by decide)
    rw [Usage.referenceNameWithin, hmember, hspec]

theorem MethodSpecsEnd.eq_of_methodSpec? (h : a.MethodSpecsEnd) (hf : a.GoesThrough f)
    (hspec : a.methodSpec? token = some spec) :
    f (a.methodSpecs.size + 1) token = f (a.methodSpecs.size + 1) spec.method := by
  rw [h.eq_succ hf.follows, hf.through hspec]

theorem tokenTextWithin_methodSpec (hspec : a.methodSpec? token = some spec) (depth : Nat) :
    Listing.tokenTextWithin a (depth + 1) token = Listing.tokenTextWithin a depth spec.method ++ "<"
      ++ String.intercalate ", " (spec.args.map a.renderType) ++ ">" := by
  have htable := table_of_rowOf? hspec
  have hliteral : ¬Table.methodSpec.number = literalTable := by decide
  conv_lhs => unfold Listing.tokenTextWithin
  rw [htable, if_neg hliteral, Table.ofNumber?_number, hspec]

theorem follows_tokenTextWithin : Follows .methodSpec a.methodSpecs (fun spec ↦ [spec.method])
    (Listing.tokenTextWithin a) where
  missing hnone m n := by
    have hspec : a.methodSpec? _ = none := hnone
    unfold Listing.tokenTextWithin
    rw [hspec]
  found hspec m n hsame := by
    rw [tokenTextWithin_methodSpec hspec, tokenTextWithin_methodSpec hspec,
      hsame _ (List.mem_singleton_self _)]

theorem MethodSpecsEnd.tokenText_methodSpec (h : a.MethodSpecsEnd)
    (hspec : a.methodSpec? token = some spec) :
    Listing.tokenText a token = Listing.tokenText a spec.method ++ "<"
      ++ String.intercalate ", " (spec.args.map a.renderType) ++ ">" := by
  rw [Listing.tokenText, h.eq_succ follows_tokenTextWithin, tokenTextWithin_methodSpec hspec]
  rfl

theorem MethodSpecsEnd.exists_behind (h : a.MethodSpecsEnd) (token : Token) :
    ∃ last, a.Behind token last ∧ a.resolve? token = a.resolve? last ∧
      a.methodName token = a.methodName last ∧
      Usage.referenceName a token = Usage.referenceName a last := by
  induction token using h.wellFounded.induction with
  | _ token ih =>
    cases hspec : a.methodSpec? token with
    | none => exact ⟨token, .here hspec, rfl, rfl, rfl⟩
    | some spec =>
      obtain ⟨last, hlast, hresolve, hname, hreference⟩ :=
        ih spec.method ⟨spec, hspec, List.mem_singleton_self _⟩
      exact ⟨last, .through hspec hlast,
        (h.eq_of_methodSpec? goesThrough_resolveWithin hspec).trans hresolve,
        (h.eq_of_methodSpec? goesThrough_methodNameWithin hspec).trans hname,
        (h.eq_of_methodSpec? goesThrough_referenceNameWithin hspec).trans hreference⟩

theorem Behind.acc {last : Token} (h : a.Behind token last) :
    Acc (StandsIn .methodSpec a.methodSpecs fun spec ↦ [spec.method]) token := by
  induction h with
  | here hnone => exact acc_of_none hnone
  | through hspec _ ih =>
    refine acc_of_row hspec fun inner hinner ↦ ?_
    rwa [List.mem_singleton.1 hinner]

/-- Method specifications can be followed to their ends exactly if none is one of itself. -/
theorem methodSpecsEnd_iff : a.MethodSpecsEnd ↔ a.SpecsFollowed := by
  constructor
  · exact fun h ↦ ⟨h.exists_behind, fun _ _ ↦ h.tokenText_methodSpec⟩
  · refine fun h ↦ acyclic_of_wellFounded ⟨fun token ↦ ?_⟩
    obtain ⟨_, hlast, _⟩ := h.behind token
    exact hlast.acc

theorem RowsNumbered.methodSpecsEnd (hrows : a.RowsNumbered) (h : ∀ spec ∈ a.methodSpecs,
      spec.method.isIn .methodSpec = true → spec.method.row < spec.token.row) :
    a.MethodSpecsEnd := by
  refine Numbered.noneInItself hrows.methodSpecs fun spec hspec inner hinner ↦ ?_
  rw [List.mem_singleton.1 hinner]
  exact h spec hspec

theorem methodSpecsEnd_callingItself : callingItself.MethodSpecsEnd :=
  built_callingItself.rowsNumbered.methodSpecsEnd (by decide)

end Methods

section Nesting

variable {t : TypeDef} {lines : List String}

theorem flatMap_filterMap_typeDef? (tokens : List Token) (f : TypeDef → List String) :
    (tokens.filterMap a.typeDef?).flatMap f
      = tokens.flatMap fun token ↦ (a.typeDef? token).elim [] f := by
  rw [List.filterMap_eq_flatMap_toList, List.flatMap_assoc]
  refine List.flatMap_congr fun token _ ↦ ?_
  cases a.typeDef? token with
  | none => rfl
  | some t => exact List.flatMap_singleton f t

variable (a) in
def linesWithin (depth : Nat) (token : Token) : List String :=
  (a.typeDef? token).elim [] (Disassembly.typeLinesWithin a depth)

theorem linesWithin_typeDef (ht : a.typeDef? token = some t) (depth : Nat) :
    a.linesWithin (depth + 1) token = Disassembly.block (Disassembly.typeHeader a t)
      (Disassembly.memberLines a t ++ t.nestedTypes.flatMap (a.linesWithin depth)) := by
  rw [linesWithin, ht, Option.elim_some, Disassembly.typeLinesWithin, flatMap_filterMap_typeDef?]
  rfl

theorem follows_linesWithin : Follows .typeDef a.types TypeDef.nestedTypes a.linesWithin where
  missing hnone m n := by
    rw [linesWithin, linesWithin, typeDef?, hnone, Option.elim_none, Option.elim_none]
  found ht m n h := by
    rw [linesWithin_typeDef ht, linesWithin_typeDef ht, List.flatMap_congr h]

theorem NestingEnds.linesWithin_eq (h : a.NestingEnds) (ht : a.typeDef? token = some t) :
    a.linesWithin (a.types.size + 1) token = Disassembly.block (Disassembly.typeHeader a t)
      (Disassembly.memberLines a t
        ++ t.nestedTypes.flatMap (a.linesWithin (a.types.size + 1))) := by
  rw [h.eq_succ follows_linesWithin, linesWithin_typeDef ht]

theorem NestingEnds.typeWritten (h : a.NestingEnds) (token : Token) :
    a.TypeWritten token (a.linesWithin (a.types.size + 1) token) := by
  induction token using h.wellFounded.induction with
  | _ token ih =>
    cases ht : a.typeDef? token with
    | none =>
      rw [linesWithin, ht, Option.elim_none]
      exact .unknown ht
    | some t =>
      rw [h.linesWithin_eq ht]
      exact .definition ht fun inner hmem ↦ ih inner ⟨t, ht, hmem⟩

theorem NestingEnds.lines_eq (h : a.NestingEnds) (hlines : a.TypeWritten token lines) :
    a.linesWithin (a.types.size + 1) token = lines := by
  induction hlines with
  | definition ht _ ih => rw [h.linesWithin_eq ht, List.flatMap_congr ih]
  | unknown hnone => rw [linesWithin, hnone, Option.elim_none]

theorem TypeWritten.acc (h : a.TypeWritten token lines) :
    Acc (StandsIn .typeDef a.types TypeDef.nestedTypes) token := by
  induction h with
  | definition ht _ ih => exact acc_of_row ht ih
  | unknown hnone => exact acc_of_none hnone

/-- The lines of types can be put together exactly if no type is nested in itself. -/
theorem nestingEnds_iff : a.NestingEnds ↔ a.TypesWritten := by
  constructor
  · intro h token lines
    refine ⟨h.lines_eq, ?_⟩
    rintro rfl
    exact h.typeWritten token
  · intro h
    exact acyclic_of_wellFounded ⟨fun token ↦ ((h token _).2 rfl).acc⟩

end Nesting

end Assembly

end CliMetadata
