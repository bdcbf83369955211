import CliMetadata.Proofs.Assembly.Building
import Mathlib.Data.List.TakeWhile

namespace CliMetadata

/-- The characters of a name without arities: the marks that digits follow, and these digits. The
flag says that an arity has begun. -/
def dropArities (begun : Bool) : List Char → List Char
  | [] => []
  | c :: cs =>
    if begun && c.isDigit then dropArities true cs
    else if c == '\x60' && cs.head?.any Char.isDigit then dropArities true cs
    else c :: dropArities false cs

/-- A name without arities, and nothing else changed. -/
def withoutArities (name : String) : String := String.ofList (dropArities false name.toList)

example : withoutArities "App.Outer\x601+Inner\x602+Plain" = "App.Outer+Inner+Plain" := by decide

theorem dropArities_append {start : List Char} (hstart : ∀ c ∈ start, c ≠ '\x60')
    (rest : List Char) : dropArities false (start ++ rest) = start ++ dropArities false rest := by
  induction start with
  | nil => rfl
  | cons c start ih =>
    have hc : (c == '\x60') = false := beq_false_of_ne (hstart c (.head _))
    rw [List.cons_append, dropArities, hc, Bool.false_and, Bool.false_and,
      ih fun d hd ↦ hstart d (.tail _ hd)]
    rfl

/-- Cutting a name at the first mark is right as long as nothing but arities comes from there on. -/
theorem beforeArity_eq_iff (name : String) : beforeArity name = withoutArities name ↔
    dropArities false (name.toList.dropWhile (· != '\x60')) = [] := by
  have hstart : ∀ c ∈ name.toList.takeWhile (· != '\x60'), c ≠ '\x60' := by
    intro c hc
    have hne := List.mem_takeWhile_imp hc
    exact bne_iff_ne.1 hne
  have hsplit := dropArities_append hstart (name.toList.dropWhile (· != '\x60'))
  rw [List.takeWhile_append_dropWhile] at hsplit
  rw [beforeArity, withoutArities, String.ofList_inj, hsplit, List.self_eq_append_right]

namespace TypeSig

def named (isValue : Bool) (token : Token) : TypeSig :=
  if isValue then .valueType token else .classType token

theorem render_named (names : Token → String) (isValue : Bool) (token : Token) :
    (named isValue token).render names = names token := by
  cases isValue <;> rfl

theorem render_generic (names : Token → String) (base : TypeSig) (args : List TypeSig) :
    (TypeSig.generic base args).render names = beforeArity (base.render names) ++ "<" ++
      String.intercalate "," (args.map (render names)) ++ ">" := by
  rw [render, renderAll_eq_map]

/-- The text of an instantiation is made from the name without arities only where nothing else
follows the first of them. The text tells two instantiations with the same arguments apart only if
the names differ before their first marks. -/
theorem render_instantiation_iff (names : Token → String) (isValue isValue' : Bool) (x y : Token)
    (args : List TypeSig) :
    ((TypeSig.generic (named isValue x) args).render names =
        withoutArities (names x) ++ "<" ++
          String.intercalate "," (args.map (render names)) ++ ">" ↔
      dropArities false ((names x).toList.dropWhile (· != '\x60')) = []) ∧
    ((TypeSig.generic (named isValue x) args).render names =
        (TypeSig.generic (named isValue' y) args).render names ↔
      (names x).toList.takeWhile (· != '\x60') = (names y).toList.takeWhile (· != '\x60')) := by
  simp only [render_generic, render_named, String.append_left_inj]
  exact ⟨beforeArity_eq_iff (names x), String.ofList_inj⟩

end TypeSig

namespace Assembly

def twoInGeneric : Assembly :=
  ([Draft.Edit.addType "App" "Outer\x601" 1 none, .addType "" "Inner" 2 none,
    .addType "" "Other" 2 none, .nest ⟨0x02000002⟩ ⟨0x02000001⟩,
    .nest ⟨0x02000003⟩ ⟨0x02000001⟩].foldl Draft.Edit.apply (.new "app")).build

/-- Instantiations of the two nested types have the text of an instantiation of the outer one. -/
theorem render_instantiation_twoInGeneric :
    let a := twoInGeneric
    a.Built ∧ a.typeName ⟨0x02000002⟩ = "App.Outer\x601+Inner" ∧
      a.typeName ⟨0x02000003⟩ = "App.Outer\x601+Other" ∧
      withoutArities (a.typeName ⟨0x02000002⟩) = "App.Outer+Inner" ∧
      withoutArities (a.typeName ⟨0x02000003⟩) = "App.Outer+Other" ∧
      a.renderType (.generic (.classType ⟨0x02000002⟩) [.primitive .int32]) =
        "App.Outer<System.Int32>" ∧
      a.renderType (.generic (.classType ⟨0x02000003⟩) [.primitive .int32]) =
        "App.Outer<System.Int32>" ∧
      a.renderType (.generic (.classType ⟨0x02000002⟩) [.primitive .int32]) ≠
        withoutArities (a.typeName ⟨0x02000002⟩) ++ "<System.Int32>" := by
  intro a
  refine ⟨⟨_, .edits (.new "app") _, rfl⟩, ?_⟩
  decide +kernel

end Assembly

end CliMetadata
