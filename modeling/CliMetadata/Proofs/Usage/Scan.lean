import CliMetadata.Usage.Scan

namespace CliMetadata.Scan

variable {α : Type} {look : Token → List α} {order : List Token} {s : Scan α}

/-- A scan on its way through an order of methods. -/
def Progress (look : Token → List α) (order : List Token) (s : Scan α) : Prop :=
  ∃ seen, order = seen ++ s.pending ∧ s.found = seen.flatMap look

theorem progress_start (look : Token → List α) (order : List Token) :
    Progress look order { pending := order } := ⟨[], rfl, rfl⟩

theorem Progress.batch (h : s.Progress look order) (size : Nat) :
    (s.batch look size).Progress look order := by
  obtain ⟨seen, horder, hfound⟩ := h
  refine ⟨seen ++ s.pending.take size, ?_, ?_⟩
  · rw [Scan.batch, List.append_assoc, List.take_append_drop, horder]
  · rw [Scan.batch, hfound, List.flatMap_append]

theorem Progress.found_of_complete (h : s.Progress look order) (hs : s.isComplete = true) :
    s.found = order.flatMap look := by
  obtain ⟨seen, horder, hfound⟩ := h
  rw [isComplete, List.isEmpty_iff] at hs
  rw [hs, List.append_nil] at horder
  rw [hfound, horder]

/-- What is found on the way comes first in the end. -/
theorem Progress.found_prefix (h : s.Progress look order) :
    ∃ later, order.flatMap look = s.found ++ later := by
  obtain ⟨seen, horder, hfound⟩ := h
  exact ⟨s.pending.flatMap look, by rw [horder, hfound, List.flatMap_append]⟩

theorem Progress.pending_length_le (h : s.Progress look order) :
    s.pending.length ≤ order.length := by
  obtain ⟨seen, horder, _⟩ := h
  rw [horder, List.length_append]
  omega

variable (config : Config) (timeUp : Nat → Bool) (look : Token → List α) (wanted : Nat)

theorem pending_length_batch_lt (size : Nat) (h : s.pending ≠ []) :
    (s.batch look (max 1 size)).pending.length < s.pending.length := by
  have hpos := List.length_pos_iff.2 h
  rw [batch, List.length_drop]
  omega

theorem Progress.advanceFrom (scanned : Nat) (h : s.Progress look order) :
    (advanceFrom config timeUp look wanted scanned s).Progress look order := by
  fun_induction Scan.advanceFrom config timeUp look wanted scanned s with
  | case1 scanned s hpending => exact h
  | case2 scanned s hpending hwanted => exact h
  | case3 scanned s hpending hwanted hspent => exact h
  | case4 scanned s hpending hwanted hspent size ih => exact ih (h.batch size)

theorem pending_length_advanceFrom_le (scanned : Nat) (s : Scan α) :
    (advanceFrom config timeUp look wanted scanned s).pending.length ≤ s.pending.length := by
  fun_induction advanceFrom config timeUp look wanted scanned s with
  | case1 scanned s hpending => exact Nat.le_refl _
  | case2 scanned s hpending hwanted => exact Nat.le_refl _
  | case3 scanned s hpending hwanted hspent => exact Nat.le_refl _
  | case4 scanned s hpending hwanted hspent size ih =>
    have hbatch := pending_length_batch_lt look config.scanBatchSize hpending
    exact Nat.le_trans ih (Nat.le_of_lt hbatch)

theorem Progress.advance (h : s.Progress look order) :
    (s.advance config timeUp look wanted).Progress look order :=
  h.advanceFrom config timeUp look wanted 0

theorem pending_length_advance_le (s : Scan α) :
    (s.advance config timeUp look wanted).pending.length ≤ s.pending.length :=
  pending_length_advanceFrom_le config timeUp look wanted 0 s

/-- A call completes the scan, has more than is wanted, or looks at another method at least: the
first batch is free. -/
theorem advance_gets_on (s : Scan α) :
    (s.advance config timeUp look wanted).isComplete = true ∨
      wanted < (s.advance config timeUp look wanted).found.length ∨
      (s.advance config timeUp look wanted).pending.length < s.pending.length := by
  rw [advance, advanceFrom]
  split
  · next hpending => exact .inl (List.isEmpty_iff.2 hpending)
  · next hpending =>
    split
    · next hwanted => exact .inr (.inl hwanted)
    · rw [if_neg fun h ↦ Nat.lt_irrefl 0 h.1]
      have hbatch := pending_length_batch_lt look config.scanBatchSize hpending
      exact .inr (.inr (Nat.lt_of_le_of_lt
        (pending_length_advanceFrom_le config timeUp look wanted _ _) hbatch))

end CliMetadata.Scan
