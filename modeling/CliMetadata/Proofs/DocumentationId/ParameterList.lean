import CliMetadata.Resolver.ParameterList

namespace CliMetadata.ParameterList

/-- A text that is not taken apart within so many brackets or more, and leaves as many open. -/
def OnePiece (least : Nat) (text : List Char) : Prop :=
  ∀ depth, least ≤ depth → ∀ rest,
    pieces depth (text ++ rest) = (pieces depth rest).modifyHead (text ++ ·)

variable {least depth : Nat} {c : Char} {s t text : List Char}

theorem pieces_ne_nil (depth : Nat) (text : List Char) : pieces depth text ≠ [] := by
  cases text with
  | nil => simp [pieces]
  | cons c rest =>
    rw [pieces]
    split
    · simp
    · split <;> simp

theorem pieces_cons (h : ¬(c = ',' ∧ depth = 0)) (rest : List Char) :
    pieces depth (c :: rest) = (pieces (depthAfter depth c) rest).modifyHead (c :: ·) := by
  rw [pieces, if_neg h]
  cases hrest : pieces (depthAfter depth c) rest with
  | nil => exact absurd hrest (pieces_ne_nil _ _)
  | cons piece others => rfl

theorem not_mem_of_all {p : Char → Bool} {marks : List Char} (hmarks : marks.all (!p ·) = true)
    (hc : p c = true) : c ∉ marks := by
  intro hmem
  have hother := List.all_eq_true.1 hmarks c hmem
  rw [hc] at hother
  cases hother

namespace OnePiece

theorem nil : OnePiece least [] := by
  intro depth _ rest
  cases hrest : pieces depth rest with
  | nil => exact absurd hrest (pieces_ne_nil _ _)
  | cons piece others => simp [hrest]

theorem append (hs : OnePiece least s) (ht : OnePiece least t) : OnePiece least (s ++ t) := by
  intro depth hdepth rest
  rw [List.append_assoc, hs depth hdepth, ht depth hdepth, List.modifyHead_modifyHead]
  simp only [Function.comp_def, List.append_assoc]

theorem mono {more : Nat} (h : OnePiece least s) (hle : least ≤ more) : OnePiece more s :=
  fun depth hdepth ↦ h depth (Nat.le_trans hle hdepth)

theorem singleton (hcomma : c ≠ ',') (hdepth : ∀ depth, depthAfter depth c = depth) :
    OnePiece least [c] := by
  intro depth _ rest
  rw [List.singleton_append, pieces_cons (fun h ↦ hcomma h.1), hdepth]
  rfl

theorem comma : OnePiece 1 [','] := by
  intro depth hdepth rest
  rw [List.singleton_append, pieces_cons (fun h ↦ by omega)]
  rfl

theorem bracketed {first last : Char} (hfirst : ∀ depth, depthAfter depth first = depth + 1)
    (hlast : ∀ depth, depthAfter (depth + 1) last = depth) (hs : OnePiece 1 s) :
    OnePiece least (first :: s ++ [last]) := by
  have hopen : first ≠ ',' := by
    rintro rfl
    exact absurd (hfirst 0) (by decide)
  have hclose : last ≠ ',' := by
    rintro rfl
    exact absurd (hlast 0) (by decide)
  intro depth _ rest
  rw [List.append_assoc, List.cons_append, pieces_cons (fun h ↦ hopen h.1), hfirst,
    hs (depth + 1) (by omega), List.singleton_append, pieces_cons (fun h ↦ hclose h.1), hlast,
    List.modifyHead_modifyHead, List.modifyHead_modifyHead]
  simp [Function.comp_def]

theorem of_forall (h : ∀ c ∈ s, c ≠ ',' ∧ ∀ depth, depthAfter depth c = depth) :
    OnePiece least s := by
  induction s with
  | nil => exact nil
  | cons c s ih =>
    obtain ⟨hcomma, hdepth⟩ := h c List.mem_cons_self
    exact append (singleton hcomma hdepth) (ih fun d hd ↦ h d (List.mem_cons_of_mem _ hd))

theorem of_blank (h : s.all isBlank = true) : OnePiece least s := by
  refine of_forall fun c hc ↦ ?_
  have hne : c ∉ [',', '<', '[', '(', '\x7b', '>', ']', ')', '\x7d'] :=
    not_mem_of_all (by decide) (List.all_eq_true.1 h c hc)
  simp only [List.mem_cons, List.not_mem_nil, or_false, not_or] at hne
  simp [depthAfter, hne]

end OnePiece

theorem pieces_of_onePiece (h : OnePiece 0 text) : pieces 0 text = [text] := by
  have hsplit := h 0 (Nat.le_refl 0) []
  rwa [List.append_nil, pieces, List.modifyHead_cons, List.append_nil] at hsplit

theorem pieces_append (h : OnePiece 0 text) (rest : List Char) :
    pieces 0 (text ++ ',' :: rest) = text :: pieces 0 rest := by
  rw [h 0 (Nat.le_refl 0), pieces, if_pos ⟨rfl, rfl⟩, List.modifyHead_cons, List.append_nil]

/-- Texts that were joined come apart. -/
theorem pieces_intercalate {texts : List (List Char)} (h : ∀ t ∈ text :: texts, OnePiece 0 t) :
    pieces 0 ([','].intercalate (text :: texts)) = text :: texts := by
  induction texts generalizing text with
  | nil => simpa using pieces_of_onePiece (h text List.mem_cons_self)
  | cons next texts ih =>
    rw [List.intercalate_cons_cons, List.append_assoc, List.singleton_append,
      pieces_append (h text List.mem_cons_self), ih fun t ht ↦ h t (List.mem_cons_of_mem _ ht)]

theorem withoutBlankEnd_cons_cons (next : List Char) (texts : List (List Char)) :
    withoutBlankEnd (text :: next :: texts) = text :: withoutBlankEnd (next :: texts) := rfl

structure Padded where
  before : List Char
  text : List Char
  behind : List Char
  blank_before : before.all isBlank = true
  blank_behind : behind.all isBlank = true

namespace Padded

def chars (p : Padded) : List Char := p.before ++ p.text ++ p.behind

variable (p : Padded)

theorem all_isBlank_chars : p.chars.all isBlank = p.text.all isBlank := by
  rw [chars, List.all_append, List.all_append, p.blank_before, p.blank_behind, Bool.true_and,
    Bool.and_true]

theorem standardize_chars : standardize p.chars = standardize p.text := by
  have hnone {cs : List Char} (h : cs.all isBlank = true) : cs.filter (!isBlank ·) = [] := by
    simpa [List.filter_eq_nil_iff] using h
  rw [standardize, standardize, chars, List.filter_append, List.filter_append,
    hnone p.blank_before, hnone p.blank_behind, List.nil_append, List.append_nil]

theorem onePiece_chars (h : OnePiece least p.text) : OnePiece least p.chars :=
  ((OnePiece.of_blank p.blank_before).append h).append (.of_blank p.blank_behind)

theorem standardize_withoutBlankEnd (ps : List Padded) :
    (withoutBlankEnd (ps.map chars)).map standardize =
      (withoutBlankEnd (ps.map Padded.text)).map standardize := by
  induction ps with
  | nil => rfl
  | cons p ps ih =>
    cases ps with
    | nil =>
      simp only [List.map_cons, List.map_nil, withoutBlankEnd, p.all_isBlank_chars]
      split <;> simp [p.standardize_chars]
    | cons next ps =>
      simp only [List.map_cons] at ih ⊢
      rw [withoutBlankEnd_cons_cons, withoutBlankEnd_cons_cons, List.map_cons, List.map_cons,
        p.standardize_chars, ih]

end Padded

/-- Texts that are joined by commas, with white space around them, come apart in the usual spelling,
the last one only if it is not blank. -/
theorem split_padded {ps : List Padded} (h : ∀ p ∈ ps, OnePiece 0 p.text) :
    split ([','].intercalate (ps.map Padded.chars)) =
      (withoutBlankEnd (ps.map Padded.text)).map standardize := by
  cases ps with
  | nil => rfl
  | cons p ps =>
    have hpieces : ∀ t ∈ (p :: ps).map Padded.chars, OnePiece 0 t :=
      List.forall_mem_map.2 fun q hq ↦ q.onePiece_chars (h q hq)
    rw [split, List.map_cons, pieces_intercalate hpieces]
    exact Padded.standardize_withoutBlankEnd (p :: ps)

theorem intercalate_comma_space (text : List Char) (texts : List (List Char)) :
    [',', ' '].intercalate (text :: texts) = [','].intercalate (text :: texts.map (' ' :: ·)) := by
  have hspace (next : List Char) (texts : List (List Char)) :
      [','].intercalate ((' ' :: next) :: texts) = ' ' :: [','].intercalate (next :: texts) := by
    cases texts <;> simp
  induction texts generalizing text with
  | nil => rfl
  | cons next texts ih =>
    rw [List.intercalate_cons_cons, ih, List.map_cons, List.intercalate_cons_cons, hspace]
    simp

theorem split_intercalate {texts : List (List Char)} (h : ∀ t ∈ texts, OnePiece 0 t) :
    split ([',', ' '].intercalate texts) = (withoutBlankEnd texts).map standardize := by
  cases texts with
  | nil => rfl
  | cons text texts =>
    have hpadded : ∀ p ∈ Padded.mk [] text [] rfl rfl ::
        texts.map fun t ↦ Padded.mk [' '] t [] rfl rfl, OnePiece 0 p.text := by
      simpa using h
    simpa [Padded.chars, Function.comp_def, intercalate_comma_space] using split_padded hpadded

section Ends

variable {texts : List (List Char)}

theorem withoutBlankEnd_eq_self
    (h : ∀ last, texts.getLast? = some last → last.all isBlank = false) :
    withoutBlankEnd texts = texts := by
  induction texts with
  | nil => rfl
  | cons text texts ih =>
    cases texts with
    | nil => rw [withoutBlankEnd, h text rfl, if_neg Bool.false_ne_true]
    | cons next texts =>
      rw [withoutBlankEnd_cons_cons, ih (by simpa using h)]

theorem length_withoutBlankEnd {last : List Char} (h : texts.getLast? = some last)
    (hlast : last.all isBlank = true) : (withoutBlankEnd texts).length + 1 = texts.length := by
  induction texts with
  | nil => cases h
  | cons text texts ih =>
    cases texts with
    | nil =>
      rw [List.getLast?_singleton, Option.some_inj] at h
      rw [withoutBlankEnd, h, hlast]
      rfl
    | cons next texts =>
      rw [withoutBlankEnd_cons_cons, List.length_cons, ih (by simpa using h)]
      rfl

end Ends

end CliMetadata.ParameterList
