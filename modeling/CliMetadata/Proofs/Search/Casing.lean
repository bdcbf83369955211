import CliMetadata.Matcher
import Mathlib.Data.List.Infix

namespace CliMetadata

theorem occursIn_iff {needle text : List Char} :
    occursIn needle text = true ↔ needle <:+: text := by
  induction text with
  | nil => rw [occursIn, List.isEmpty_iff, List.infix_nil]
  | cons c text ih =>
    rw [occursIn, Bool.or_eq_true, List.isPrefixOf_iff_prefix, ih, List.infix_cons_iff]

theorem eq_or_head?_of_infix_cons {α : Type} {l r : List α} {x : α} (h : l <:+: x :: r)
    (hlength : l.length = r.length) : l = r ∨ l.head? = some x := by
  obtain hprefix | hwithin := List.infix_cons_iff.1 h
  · obtain rfl | ⟨rest, rfl, _⟩ := List.prefix_cons_iff.1 hprefix
    · exact .inl (List.length_eq_zero_iff.1 hlength.symm).symm
    · exact .inr rfl
  · exact .inl (hwithin.eq_of_length hlength)

theorem eq_or_getLast?_of_infix_concat {α : Type} {l r : List α} {x : α} (h : l <:+: r ++ [x])
    (hlength : l.length = r.length) : l = r ∨ l.getLast? = some x := by
  have hreverse : l.reverse <:+: x :: r.reverse := by
    rw [← List.reverse_concat, List.reverse_infix]
    exact h
  simpa using eq_or_head?_of_infix_cons hreverse (by simpa using hlength)

namespace Casing

variable {l : List Char}

def Decides (l : List Char) : Prop := ∃ c ∈ l, isIgnorable c = false

theorem decides_cons {c : Char} : Decides (c :: l) ↔ isIgnorable c = false ∨ Decides l := by
  simp [Decides]

theorem decides_reverse : Decides l.reverse ↔ Decides l := by
  simp [Decides]

theorem meetsCased_cons (c : Char) (l : List Char) :
    meetsCased (c :: l) = if isIgnorable c then meetsCased l else isCased c := by
  rw [meetsCased, List.dropWhile_cons]
  split_ifs <;> rfl

theorem meetsCased_append_of_decides (h : Decides l) (r : List Char) :
    meetsCased (l ++ r) = meetsCased l := by
  induction l with
  | nil => simp [Decides] at h
  | cons c l ih =>
    rw [List.cons_append, meetsCased_cons, meetsCased_cons]
    obtain hc | hl := decides_cons.1 h
    · rw [if_neg (by simp [hc]), if_neg (by simp [hc])]
    · rw [ih hl]

theorem meetsCased_append_of_not_decides (h : ¬Decides l) (r : List Char) :
    meetsCased (l ++ r) = meetsCased r := by
  induction l with
  | nil => rfl
  | cons c l ih =>
    rw [decides_cons, not_or, Bool.not_eq_false] at h
    rw [List.cons_append, meetsCased_cons, if_pos h.1, ih h.2]

theorem decides_of_meetsCased (h : meetsCased l = true) : Decides l := by
  by_contra hl
  have hnil := meetsCased_append_of_not_decides hl []
  rw [List.append_nil, h] at hnil
  cases hnil

/-- The lowercase of a piece of a text, between what stands before it, nearest first, and what
follows. -/
def lowerBetween (before after : List Char) : List Char → List Char
  | [] => []
  | c :: cs => lowerAt before c (cs ++ after) ++ lowerBetween (c :: before) after cs

theorem lowerFrom_eq (before l : List Char) : lowerFrom before l = lowerBetween before [] l := by
  induction l generalizing before with
  | nil => rfl
  | cons c l ih => rw [lowerFrom, lowerBetween, ih, List.append_nil]

theorem lowerBetween_append (before after l r : List Char) :
    lowerBetween before after (l ++ r)
      = lowerBetween before (r ++ after) l ++ lowerBetween (l.reverse ++ before) after r := by
  induction l generalizing before with
  | nil => rfl
  | cons c l ih => simp [lowerBetween, ih]

theorem length_lowerAt (before before' after after' : List Char) (c : Char) :
    (lowerAt before c after).length = (lowerAt before' c after').length := by
  unfold lowerAt
  split_ifs <;> rfl

theorem length_lowerBetween (before before' after after' l : List Char) :
    (lowerBetween before after l).length = (lowerBetween before' after' l).length := by
  induction l generalizing before before' with
  | nil => rfl
  | cons c l ih =>
    rw [lowerBetween, lowerBetween, List.length_append, List.length_append,
      length_lowerAt before before' _ (l ++ after') c, ih]

theorem lowerAt_sigma (before after : List Char) : lowerAt before 'Σ' after =
    [if meetsCased before && !meetsCased after then 'ς' else 'σ'] := rfl

theorem lowerAt_eq_of_lowerBetween_eq {before before' after after' front behind : List Char}
    {c : Char} (h : lowerBetween before after (front ++ c :: behind)
      = lowerBetween before' after' (front ++ c :: behind)) :
    lowerAt (front.reverse ++ before) c (behind ++ after)
      = lowerAt (front.reverse ++ before') c (behind ++ after') := by
  rw [lowerBetween_append, lowerBetween_append] at h
  have hrest := List.append_inj_right h (length_lowerBetween ..)
  exact List.append_inj_left hrest (length_lowerAt ..)

/-- The form of a capital sigma in the middle is the same wherever the piece stands. -/
def SettlesSigma (front behind : List Char) : Prop :=
  meetsCased behind = true ∨
    Decides front ∧ (meetsCased front.reverse = true → Decides behind)

/-- All capital sigmas of a piece have the same form wherever it stands. -/
def IsSettled (l : List Char) : Prop :=
  ∀ front behind, l = front ++ 'Σ' :: behind → SettlesSigma front behind

theorem SettlesSigma.lowerAt_append {front behind : List Char} (h : SettlesSigma front behind)
    (before after : List Char) :
    lowerAt (front.reverse ++ before) 'Σ' (behind ++ after) = lowerAt front.reverse 'Σ' behind := by
  obtain hbehind | ⟨hfront, hcased⟩ := h
  · have hafter := meetsCased_append_of_decides (decides_of_meetsCased hbehind) after
    simp [lowerAt_sigma, hafter, hbehind]
  · have hbefore := meetsCased_append_of_decides (decides_reverse.2 hfront) before
    cases hmeets : meetsCased front.reverse with
    | false => simp [lowerAt_sigma, hbefore, hmeets]
    | true =>
      have hafter := meetsCased_append_of_decides (hcased hmeets) after
      simp [lowerAt_sigma, hbefore, hmeets, hafter]

theorem lowerAt_of_ne {c : Char} (hc : c ≠ 'Σ') (before before' after after' : List Char) :
    lowerAt before c after = lowerAt before' c after' := by
  rw [lowerAt, lowerAt, if_neg hc, if_neg hc]

/-- Where the sigmas are settled, the lowercase of a piece is the same wherever it stands. -/
theorem IsSettled.lowerBetween_eq (h : IsSettled l) (before after : List Char) :
    lowerBetween before after l = lowerBetween [] [] l := by
  suffices hleft : ∀ seen rest, l = seen.reverse ++ rest →
      lowerBetween (seen ++ before) after rest = lowerBetween seen [] rest from
    hleft [] l rfl
  intro seen rest hl
  induction rest generalizing seen with
  | nil => rfl
  | cons c rest ih =>
    have hrest := ih (c :: seen) (by simpa using hl)
    rw [lowerBetween, lowerBetween, List.append_nil, ← List.cons_append, hrest]
    congr 1
    by_cases hc : c = 'Σ'
    · subst hc
      have hsigma := (h _ _ hl).lowerAt_append before after
      rwa [List.reverse_reverse] at hsigma
    · exact lowerAt_of_ne hc ..

structure IsLetter (x y : Char) : Prop where
  not_isIgnorable : isIgnorable x = false
  isCased : isCased x = true
  lowerAt_eq : ∀ before after, lowerAt before x after = [y]

theorem IsLetter.meetsCased {x y : Char} (h : IsLetter x y) : meetsCased [x] = true := by
  rw [meetsCased_cons, h.not_isIgnorable, h.isCased]
  rfl

theorem inRanges_eq (ranges : Array (Nat × Nat)) (n : Nat) :
    inRanges ranges n = ranges.toList.any fun r ↦ decide (r.1 ≤ n) && decide (n ≤ r.2) := by
  rw [inRanges, Array.any_toList]

theorem isLetter_a : IsLetter 'a' 'a' where
  not_isIgnorable := by
    rw [isIgnorable, inRanges_eq]
    decide +kernel
  isCased := by
    rw [Casing.isCased, inRanges_eq]
    decide +kernel
  lowerAt_eq _ _ := rfl

theorem isLetter_alpha : IsLetter 'Α' 'α' where
  not_isIgnorable := by
    rw [isIgnorable, inRanges_eq]
    decide +kernel
  isCased := by
    rw [Casing.isCased, inRanges_eq]
    decide +kernel
  lowerAt_eq before after := by
    have hsimple : lowerSimple 'Α' = 'α' := by decide +kernel
    rw [lowerAt, if_neg (by decide), if_neg (by decide), hsimple]

theorem exists_isLetter_ne (o : Option Char) : ∃ x y, IsLetter x y ∧ o ≠ some y := by
  by_cases ho : o = some 'a'
  · exact ⟨'Α', 'α', isLetter_alpha, by rw [ho]; decide⟩
  · exact ⟨'a', 'a', isLetter_a, ho⟩

theorem lowerAt_sigma_eq_iff (before after : List Char) : lowerAt before 'Σ' after = ['ς'] ↔
    meetsCased before = true ∧ meetsCased after = false := by
  cases hbefore : meetsCased before <;> cases hafter : meetsCased after <;>
    simp [lowerAt_sigma, hbefore, hafter]

/-- A sigma that is not settled has another form next to a letter, in front or behind. -/
theorem lowerAt_ne_of_not_settlesSigma {front behind : List Char}
    (h : ¬SettlesSigma front behind) :
    (∀ x y, IsLetter x y →
      lowerAt front.reverse 'Σ' behind ≠ lowerAt (front.reverse ++ [x]) 'Σ' behind) ∨
    (∀ x y, IsLetter x y →
      lowerAt front.reverse 'Σ' behind ≠ lowerAt front.reverse 'Σ' (behind ++ [x])) := by
  rw [SettlesSigma, not_or, Bool.not_eq_true, not_and, Classical.not_imp] at h
  obtain ⟨hbehind, hrest⟩ := h
  by_cases hfront : Decides front
  · obtain ⟨hcased, hopen⟩ := hrest hfront
    refine .inr fun x y hx heq ↦ ?_
    have hfinal := (lowerAt_sigma_eq_iff _ _).2 ⟨hcased, hbehind⟩
    have hmeets := ((lowerAt_sigma_eq_iff _ _).1 (heq ▸ hfinal)).2
    rw [meetsCased_append_of_not_decides hopen, hx.meetsCased] at hmeets
    cases hmeets
  · refine .inl fun x y hx heq ↦ ?_
    have hopen : ¬Decides front.reverse := fun hdecides ↦ hfront (decides_reverse.1 hdecides)
    have hcased : meetsCased (front.reverse ++ [x]) = true := by
      rw [meetsCased_append_of_not_decides hopen, hx.meetsCased]
    have hfinal := (lowerAt_sigma_eq_iff _ _).2 ⟨hcased, hbehind⟩
    exact hopen (decides_of_meetsCased ((lowerAt_sigma_eq_iff _ _).1 (heq ▸ hfinal)).1)

theorem lowerFrom_of_isSettled (h : IsSettled l) {text : List Char} (hl : l <:+: text) :
    lowerFrom [] l <:+: lowerFrom [] text := by
  obtain ⟨start, rest, rfl⟩ := hl
  rw [lowerFrom_eq, lowerFrom_eq, lowerBetween_append, lowerBetween_append,
    h.lowerBetween_eq (start.reverse ++ [])]
  exact List.infix_append ..

theorem exists_lowerFrom_apart (h : ¬IsSettled l) :
    ∃ text, l <:+: text ∧ ¬lowerFrom [] l <:+: lowerFrom [] text := by
  simp only [lowerFrom_eq]
  simp only [IsSettled, not_forall] at h
  obtain ⟨front, behind, hl, hsigma⟩ := h
  obtain hfront | hbehind := lowerAt_ne_of_not_settlesSigma hsigma
  · obtain ⟨x, y, hx, hne⟩ := exists_isLetter_ne (lowerBetween [] [] l).head?
    refine ⟨x :: l, List.infix_cons (List.infix_refl l), fun hwithin ↦ ?_⟩
    rw [lowerBetween.eq_2 [], hx.lowerAt_eq, List.singleton_append] at hwithin
    obtain heq | hhead := eq_or_head?_of_infix_cons hwithin (length_lowerBetween ..)
    · rw [hl] at heq
      exact hfront x y hx (by simpa using lowerAt_eq_of_lowerBetween_eq heq)
    · exact hne hhead
  · obtain ⟨x, y, hx, hne⟩ := exists_isLetter_ne (lowerBetween [] [] l).getLast?
    refine ⟨l ++ [x], (List.prefix_append l [x]).isInfix, fun hwithin ↦ ?_⟩
    rw [lowerBetween_append, lowerBetween, hx.lowerAt_eq] at hwithin
    obtain heq | hlast := eq_or_getLast?_of_infix_concat hwithin (length_lowerBetween ..)
    · rw [hl] at heq
      exact hbehind x y hx (by simpa using lowerAt_eq_of_lowerBetween_eq heq)
    · exact hne hlast

end Casing

namespace Matcher

theorem holds_ofQuery (engine : PatternEngine) (query text : String) (limit : Nat) :
    (ofQuery engine query false limit).holds text = true ↔
      Casing.lowercase query <:+: Casing.lowercase text := by
  by_cases hempty : query = ""
  · subst hempty
    exact iff_of_true rfl (List.nil_infix ..)
  · rw [ofQuery, if_neg hempty]
    exact occursIn_iff

/-- A plain query matches every text that contains it if and only if it decides the forms of its
capital sigmas itself. -/
theorem holds_of_infix_iff (engine : PatternEngine) (query : String) (limit : Nat) :
    (∀ text : String, query.toList <:+: text.toList →
        (ofQuery engine query false limit).holds text = true) ↔
      Casing.IsSettled query.toList := by
  simp only [holds_ofQuery]
  refine ⟨fun hall ↦ ?_, fun hsettled _ ↦ Casing.lowerFrom_of_isSettled hsettled⟩
  by_contra hopen
  obtain ⟨text, hwithin, hnot⟩ := Casing.exists_lowerFrom_apart hopen
  refine hnot ?_
  have hholds := hall (String.ofList text) (by rwa [String.toList_ofList])
  rwa [Casing.lowercase, Casing.lowercase, String.toList_ofList] at hholds

/-- A sigma at the end of a query has the form for the end of a word, and inside a text it may have
the other one. The letters around it are capital alphas. -/
theorem not_holds_of_infix_alphaSigma :
    ¬∀ (engine : PatternEngine) (query text : String) (limit : Nat),
      query.toList <:+: text.toList → (ofQuery engine query false limit).holds text = true := by
  intro hall
  have hmeets := Casing.isLetter_alpha.meetsCased
  have hquery : Casing.lowercase "ΑΣ" = ['α', 'ς'] := by
    change Casing.lowerFrom [] ['Α', 'Σ'] = _
    simp only [Casing.lowerFrom, Casing.isLetter_alpha.lowerAt_eq, Casing.lowerAt_sigma, hmeets]
    rfl
  have htext : Casing.lowercase "ΑΣΑ" = ['α', 'σ', 'α'] := by
    change Casing.lowerFrom [] ['Α', 'Σ', 'Α'] = _
    simp only [Casing.lowerFrom, Casing.isLetter_alpha.lowerAt_eq, Casing.lowerAt_sigma, hmeets]
    rfl
  have hwithin := hall (fun _ _ ↦ none) "ΑΣ" "ΑΣΑ" 0 ⟨[], ['Α'], rfl⟩
  rw [holds_ofQuery, hquery, htext] at hwithin
  exact absurd hwithin (by decide)

end Matcher

end CliMetadata
