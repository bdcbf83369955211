import CliMetadata.Proofs.DocumentationId.ParameterList
import Mathlib.Data.List.Infix

namespace CliMetadata.ParameterList

def weight (c : Char) : Int :=
  if c ∈ ['<', '[', '(', '\x7b'] then 1
  else if c ∈ ['>', ']', ')', '\x7d'] then -1
  else 0

/-- How many more brackets a text opens than it closes. -/
def balance : List Char → Int
  | [] => 0
  | c :: text => weight c + balance text

@[simp]
theorem balance_nil : balance [] = 0 := rfl

@[simp]
theorem balance_cons (c : Char) (text : List Char) :
    balance (c :: text) = weight c + balance text := rfl

/-- Where so many brackets are open, a text never closes more than are open, and some are open at
each of its commas. -/
structure Nests (depth : Int) (text : List Char) : Prop where
  nonneg : ∀ front, front <+: text → 0 ≤ depth + balance front
  pos_of_comma : ∀ front, front ++ [','] <+: text → 0 < depth + balance front

instance (depth : Int) (text : List Char) : Decidable (Nests depth text) :=
  decidable_of_iff (∀ front ∈ text.inits, 0 ≤ depth + balance front ∧
      (front ++ [','] <+: text → 0 < depth + balance front)) <| by
    simp only [List.mem_inits]
    exact ⟨fun h ↦ ⟨fun front hfront ↦ (h front hfront).1, fun front hcomma ↦
        (h front ((List.prefix_append _ _).trans hcomma)).2 hcomma⟩,
      fun h front hfront ↦ ⟨h.nonneg front hfront, h.pos_of_comma front⟩⟩

/-- The counter of open brackets, which stops at none, follows the balance as long as that is not
negative. -/
theorem cast_depthAfter {depth : Nat} {c : Char} (h : 0 ≤ depth + weight c) :
    (depthAfter depth c : Int) = depth + weight c := by
  simp only [weight, List.mem_cons, List.not_mem_nil, or_false] at h ⊢
  unfold depthAfter
  split_ifs at h ⊢ <;> omega

namespace Nests

variable {depth : Nat} {c : Char} {text : List Char}

theorem mono {less more : Int} (h : Nests less text) (hle : less ≤ more) : Nests more text where
  nonneg front hfront := by
    have hless := h.nonneg front hfront
    omega
  pos_of_comma front hcomma := by
    have hless := h.pos_of_comma front hcomma
    omega

theorem cast_depthAfter_head (h : Nests depth (c :: text)) :
    (depthAfter depth c : Int) = depth + weight c := by
  have hhead := h.nonneg [c] (by simp)
  rw [balance_cons, balance_nil, Int.add_zero] at hhead
  exact cast_depthAfter hhead

/-- Behind its first character, a text nests in what is open then. -/
theorem tail (h : Nests depth (c :: text)) : Nests (depthAfter depth c) text where
  nonneg front hfront := by
    have hcons := h.nonneg (c :: front) (List.cons_prefix_cons.2 ⟨rfl, hfront⟩)
    rw [balance_cons] at hcons
    rw [h.cast_depthAfter_head]
    omega
  pos_of_comma front hcomma := by
    have hcons := h.pos_of_comma (c :: front) (List.cons_prefix_cons.2 ⟨rfl, hcomma⟩)
    rw [balance_cons] at hcons
    rw [h.cast_depthAfter_head]
    omega

theorem cast_foldl_depthAfter (h : Nests depth text) :
    ((text.foldl depthAfter depth : Nat) : Int) = depth + balance text := by
  induction text generalizing depth with
  | nil => simp
  | cons c text ih =>
    rw [List.foldl_cons, ih h.tail, h.cast_depthAfter_head, balance_cons]
    omega

/-- No comma of the text separates. -/
theorem pieces_append (h : Nests depth text) (rest : List Char) :
    pieces depth (text ++ rest) =
      (pieces (text.foldl depthAfter depth) rest).modifyHead (text ++ ·) := by
  induction text generalizing depth with
  | nil => exact OnePiece.nil depth (Nat.zero_le depth) rest
  | cons c text ih =>
    have hinside : ¬(c = ',' ∧ depth = 0) := by
      rintro ⟨rfl, rfl⟩
      exact absurd (h.pos_of_comma [] (by simp)) (by decide)
    rw [List.cons_append, pieces_cons hinside, ih h.tail, List.modifyHead_modifyHead]
    rfl

end Nests

/-- A text that can stand as one parameter: it is not blank, its commas stand in brackets, and all
its brackets are closed. -/
structure IsParameter (text : List Char) : Prop where
  not_blank : text.all isBlank = false
  nests : Nests 0 text
  balanced : balance text = 0

instance (text : List Char) : Decidable (IsParameter text) :=
  decidable_of_iff (text.all isBlank = false ∧ Nests 0 text ∧ balance text = 0)
    ⟨fun h ↦ ⟨h.1, h.2.1, h.2.2⟩, fun h ↦ ⟨h.not_blank, h.nests, h.balanced⟩⟩

theorem IsParameter.onePiece {text : List Char} (h : IsParameter text) : OnePiece 0 text := by
  intro depth _ rest
  have hnests : Nests depth text := h.nests.mono (Int.natCast_nonneg depth)
  have hend : text.foldl depthAfter depth = depth := by
    have hcast := hnests.cast_foldl_depthAfter
    rw [h.balanced] at hcast
    omega
  rw [hnests.pieces_append, hend]

/-- Parameters that are joined by commas, with white space around them, come apart into all of them,
in the usual spelling. -/
theorem split_joined (ps : List Padded) (h : ∀ p ∈ ps, IsParameter p.text) :
    split ([','].intercalate (ps.map Padded.chars)) = ps.map fun p ↦ standardize p.text := by
  have hkept : withoutBlankEnd (ps.map Padded.text) = ps.map Padded.text := by
    refine withoutBlankEnd_eq_self fun last hlast ↦ ?_
    obtain ⟨p, hp, rfl⟩ := List.mem_map.1 (List.mem_of_getLast? hlast)
    exact (h p hp).not_blank
  rw [split_padded fun p hp ↦ (h p hp).onePiece, hkept, List.map_map]
  rfl

theorem split_joined_brackets :
    (∀ p ∈ [Padded.mk ['\t'] "Map\x7bK, (A,B)[,]\x7d".toList [' ', '\n'] rfl rfl,
        .mk ['\u00A0'] "Cart/Line@".toList [] rfl rfl], IsParameter p.text) ∧
      split "\tMap\x7bK, (A,B)[,]\x7d \n,\u00A0Cart/Line@".toList =
        ["Map<K,(A,B)[,]>".toList, "Cart+Line&".toList] := by
  have hparameters : ∀ p ∈ [Padded.mk ['\t'] "Map\x7bK, (A,B)[,]\x7d".toList [' ', '\n'] rfl rfl,
      .mk ['\u00A0'] "Cart/Line@".toList [] rfl rfl], IsParameter p.text := by decide
  exact ⟨hparameters, split_joined _ hparameters⟩

end CliMetadata.ParameterList
