import CliMetadata.Text.Blank
import Mathlib.Data.List.TakeWhile

namespace CliMetadata

theorem isBlank_of_toNat {c : Char} (hlower : 0x20 < c.toNat) (hupper : c.toNat < 0x85) :
    isBlank c = false := by
  simp only [isBlank, Bool.or_eq_false_iff, Bool.and_eq_false_iff, decide_eq_false_iff_not,
    beq_eq_false_iff_ne]
  omega

variable {cs : List Char}

theorem getLast?_trimBlank {c : Char} (h : (trimBlank cs).getLast? = some c) :
    isBlank c = false := by
  have hlast := List.head?_dropWhile_not isBlank (cs.dropWhile isBlank).reverse
  rw [trimBlank, List.getLast?_reverse] at h
  rwa [h] at hlast

theorem trimBlank_eq_self (hfirst : ∀ c, cs.head? = some c → isBlank c = false)
    (hlast : ∀ c, cs.getLast? = some c → isBlank c = false) : trimBlank cs = cs := by
  have hkeep {cs : List Char} (h : ∀ c, cs.head? = some c → isBlank c = false) :
      cs.dropWhile isBlank = cs := by
    cases cs with
    | nil => rfl
    | cons c cs => exact List.dropWhile_cons_of_neg (by simp [h c rfl])
  rw [trimBlank, hkeep hfirst, hkeep (by rwa [List.head?_reverse]), List.reverse_reverse]

theorem trimBlank_of_ends {first last : Char} (hfirst : isBlank first = false)
    (hlast : isBlank last = false) :
    trimBlank (first :: (cs ++ [last])) = first :: (cs ++ [last]) := by
  apply trimBlank_eq_self
  · intro c hc
    rw [List.head?_cons, Option.some_inj] at hc
    rwa [← hc]
  · intro c hc
    rw [← List.cons_append, List.getLast?_concat, Option.some_inj] at hc
    rwa [← hc]

theorem trimmed_eq_self {text : String} (hfirst : ∀ c, text.toList.head? = some c →
    isBlank c = false) (hlast : ∀ c, text.toList.getLast? = some c → isBlank c = false) :
    trimmed text = text := by
  rw [trimmed, trimBlank_eq_self hfirst hlast, String.ofList_toList]

theorem isBlank_of_trimBlank_eq_nil (h : trimBlank cs = []) : ∀ c ∈ cs, isBlank c = true := by
  rw [trimBlank, List.reverse_eq_nil_iff, List.dropWhile_eq_nil_iff] at h
  rw [← List.dropWhile_eq_nil_iff]
  have hfirst := List.head?_dropWhile_not isBlank cs
  cases hkept : cs.dropWhile isBlank with
  | nil => rfl
  | cons c rest =>
    rw [hkept, List.head?_cons] at hfirst
    have hblank := h c (by simp [hkept])
    rw [hfirst] at hblank
    cases hblank

end CliMetadata
