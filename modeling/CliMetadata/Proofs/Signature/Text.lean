import CliMetadata.Proofs.DocumentationId.ParameterList
import CliMetadata.Signature.Text
import Mathlib.Data.List.TakeWhile

namespace CliMetadata

open ParameterList

def isDisplayMark (c : Char) : Bool :=
  c.isAlphanum || ['_', '.', '+', '*', '&', '!', ' '].contains c

/-- A text that a list of parameter types, within so many brackets or more, leaves as it is but for
white space. -/
structure Displayable (least : Nat) (text : String) : Prop where
  onePiece : OnePiece least text.toList
  standard : ∀ c ∈ text.toList, standardMark c = c ∧ c ≠ '\x60'

theorem ordinary_of_isDisplayMark {c : Char} (h : isDisplayMark c = true) :
    (c ≠ ',' ∧ ∀ depth, depthAfter depth c = depth) ∧ standardMark c = c ∧ c ≠ '\x60' := by
  have hne : c ∉ [',', '<', '[', '(', '\x7b', '>', ']', ')', '\x7d', '@', '/', '\x60'] :=
    not_mem_of_all (by decide) h
  simp only [List.mem_cons, List.not_mem_nil, or_false, not_or] at hne
  simp [depthAfter, standardMark, hne]

namespace Displayable

variable {least : Nat} {s t : String} {texts : List String}

theorem of_marks (h : s.toList.all isDisplayMark = true) : Displayable least s where
  onePiece := .of_forall fun c hc ↦ (ordinary_of_isDisplayMark (List.all_eq_true.1 h c hc)).1
  standard c hc := (ordinary_of_isDisplayMark (List.all_eq_true.1 h c hc)).2

theorem mono {more : Nat} (h : Displayable least s) (hle : least ≤ more) : Displayable more s :=
  ⟨h.onePiece.mono hle, h.standard⟩

theorem append (hs : Displayable least s) (ht : Displayable least t) :
    Displayable least (s ++ t) where
  onePiece := by
    rw [String.toList_append]
    exact hs.onePiece.append ht.onePiece
  standard c hc := by
    rw [String.toList_append, List.mem_append] at hc
    exact hc.elim (hs.standard c) (ht.standard c)

theorem number (n : Nat) : Displayable least (toString n) := by
  refine of_marks (List.all_eq_true.2 fun c hc ↦ ?_)
  have hdigit : c.isDigit = true := by
    rw [Nat.toString_eq_ofList_toDigits, String.toList_ofList] at hc
    exact Nat.isDigit_of_mem_toDigits (by decide) (by decide) hc
  rw [isDisplayMark, Char.isAlphanum, hdigit, Bool.or_true, Bool.true_or]

theorem comma : Displayable 1 "," where
  onePiece := .comma
  standard c hc := by
    rw [List.mem_singleton.1 hc]
    decide

theorem intercalate (h : ∀ text ∈ texts, Displayable 1 text) :
    Displayable 1 (String.intercalate "," texts) := by
  induction texts with
  | nil => exact of_marks (by simp)
  | cons text texts ih =>
    have htext := h text List.mem_cons_self
    cases texts with
    | nil => rwa [String.intercalate_singleton]
    | cons next texts =>
      rw [String.intercalate_cons_cons]
      exact (htext.append comma).append (ih fun t ht ↦ h t (List.mem_cons_of_mem _ ht))

theorem commas (n : Nat) : Displayable 1 (String.ofList (List.replicate n ',')) := by
  induction n with
  | zero => exact of_marks (by simp)
  | succ n ih =>
    have hcons : String.ofList (List.replicate (n + 1) ',') =
        "," ++ String.ofList (List.replicate n ',') := by
      rw [← String.toList_inj, String.toList_append, String.toList_ofList, String.toList_ofList]
      simp [List.replicate_succ]
    rw [hcons]
    exact comma.append ih

/-- A text with another one in brackets behind it. -/
theorem bracketed {first last : String}
    (hbrackets : (first, last) ∈ [("<", ">"), ("[", "]"), ("(", ")")]) (hs : Displayable least s)
    (ht : Displayable 1 t) : Displayable least (s ++ first ++ t ++ last) := by
  have hpair {x y : Char} (hx : ∀ depth, depthAfter depth x = depth + 1)
      (hy : ∀ depth, depthAfter (depth + 1) y = depth)
      (hx' : standardMark x = x ∧ x ≠ '\x60') (hy' : standardMark y = y ∧ y ≠ '\x60') :
      Displayable least (s ++ String.ofList [x] ++ t ++ String.ofList [y]) := by
    constructor
    · simpa using hs.onePiece.append (OnePiece.bracketed hx hy ht.onePiece)
    · intro c hc
      simp only [String.toList_append, String.toList_ofList, List.mem_append] at hc
      rcases hc with ((hc | hc) | hc) | hc
      · exact hs.standard c hc
      · rwa [List.mem_singleton.1 hc]
      · exact ht.standard c hc
      · rwa [List.mem_singleton.1 hc]
  simp only [List.mem_cons, Prod.mk.injEq, List.not_mem_nil, or_false] at hbrackets
  rcases hbrackets with ⟨rfl, rfl⟩ | ⟨rfl, rfl⟩ | ⟨rfl, rfl⟩ <;>
    exact hpair (fun _ ↦ rfl) (fun _ ↦ rfl) (by decide) (by decide)

theorem beforeArity (h : Displayable least s) : beforeArity s = s := by
  rw [CliMetadata.beforeArity, List.takeWhile_eq_self_iff.2, String.ofList_toList]
  intro c hc
  simpa using (h.standard c hc).2

end Displayable

namespace TypeSig

variable {names : Token → String}

mutual

theorem displayable_render (hnames : ∀ token, Displayable 0 (names token)) :
    ∀ t : TypeSig, Displayable 0 (t.render names)
  | .primitive p => .of_marks (by cases p <;> rw [render] <;> decide)
  | .pointer base => (displayable_render hnames base).append (.of_marks (by decide))
  | .byRef base => (displayable_render hnames base).append (.of_marks (by decide))
  | .vector base => by
    have hempty : base.render names ++ "[]" = base.render names ++ "[" ++ "" ++ "]" := by
      rw [String.append_empty, String.append_assoc]
      rfl
    rw [render, hempty]
    exact (displayable_render hnames base).bracketed (by decide) (.of_marks (by decide))
  | .pinned base => displayable_render hnames base
  | .valueType token => hnames token
  | .classType token => hnames token
  | .typeVar index => (Displayable.of_marks (by decide)).append (.number index)
  | .methodVar index => (Displayable.of_marks (by decide)).append (.number index)
  | .array base rank =>
    (displayable_render hnames base).bracketed (by decide) (.commas _)
  | .generic base args => by
    have hbase := displayable_render hnames base
    rw [render, hbase.beforeArity]
    exact hbase.bracketed (by decide) (.intercalate fun text htext ↦
      (displayable_renderAll hnames args text htext).mono (Nat.zero_le 1))
  | .function ⟨_, _, _, _, result, params⟩ => by
    have hopen (front : String) : front ++ " *(" = front ++ " *" ++ "(" := by
      rw [String.append_assoc]
      rfl
    have hfront : Displayable 0 ("method " ++ renderParam names result ++ " *") :=
      ((Displayable.of_marks (by decide)).append (displayable_renderParam hnames result)).append
        (.of_marks (by decide))
    rw [render, hopen]
    exact hfront.bracketed (by decide) (.intercalate fun text htext ↦
      (displayable_renderParams hnames params text htext).mono (Nat.zero_le 1))

theorem displayable_renderAll (hnames : ∀ token, Displayable 0 (names token)) :
    ∀ ts : List TypeSig, ∀ text ∈ renderAll names ts, Displayable 0 text
  | [], _, h => absurd h List.not_mem_nil
  | t :: ts, text, h => by
    rw [renderAll, List.mem_cons] at h
    rcases h with rfl | h
    · exact displayable_render hnames t
    · exact displayable_renderAll hnames ts text h

theorem displayable_renderParam (hnames : ∀ token, Displayable 0 (names token)) :
    ∀ p : Parameter TypeSig, Displayable 0 (renderParam names p)
  | ⟨isRef, base⟩ => by
    rw [renderParam]
    split
    · exact (displayable_render hnames base).append (.of_marks (by decide))
    · exact displayable_render hnames base

theorem displayable_renderParams (hnames : ∀ token, Displayable 0 (names token)) :
    ∀ ps : List (Parameter TypeSig), ∀ text ∈ renderParams names ps, Displayable 0 text
  | [], _, h => absurd h List.not_mem_nil
  | p :: ps, text, h => by
    rw [renderParams, List.mem_cons] at h
    rcases h with rfl | h
    · exact displayable_renderParam hnames p
    · exact displayable_renderParams hnames ps text h

end

end TypeSig

end CliMetadata
