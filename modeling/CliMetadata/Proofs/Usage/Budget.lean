import CliMetadata.Proofs.Usage.Scan

namespace CliMetadata

/-- The budget of a call, rounded up to whole batches. -/
def Config.wholeBudget (c : Config) : Nat :=
  (c.scanMethodBudget + c.scanBatchSize - 1) / c.scanBatchSize * c.scanBatchSize

namespace Config

variable {c : Config} {n : Nat}

theorem dvd_wholeBudget (c : Config) : c.scanBatchSize ∣ c.wholeBudget := Nat.dvd_mul_left _ _

theorem add_le_wholeBudget (hn : c.scanBatchSize ∣ n) (hlt : n < c.wholeBudget) :
    n + c.scanBatchSize ≤ c.wholeBudget := by
  have hapart := Nat.dvd_sub (dvd_wholeBudget c) hn
  have hle := Nat.le_of_dvd (by omega) hapart
  omega

variable (hbatch : 0 < c.scanBatchSize)

include hbatch

theorem le_wholeBudget : c.scanMethodBudget ≤ c.wholeBudget := by
  have hdiv := Nat.div_add_mod' (c.scanMethodBudget + c.scanBatchSize - 1) c.scanBatchSize
  have hmod := Nat.mod_lt (c.scanMethodBudget + c.scanBatchSize - 1) hbatch
  rw [wholeBudget]
  omega

theorem wholeBudget_lt : c.wholeBudget < c.scanMethodBudget + c.scanBatchSize := by
  have hle := Nat.div_mul_le_self (c.scanMethodBudget + c.scanBatchSize - 1) c.scanBatchSize
  rw [wholeBudget]
  omega

theorem wholeBudget_le (hn : c.scanBatchSize ∣ n) (hle : c.scanMethodBudget ≤ n) :
    c.wholeBudget ≤ n := by
  refine Nat.le_of_not_lt fun hlt ↦ ?_
  have hadd := add_le_wholeBudget hn hlt
  have hless := wholeBudget_lt hbatch
  omega

theorem wholeBudget_le_iff :
    c.wholeBudget ≤ c.scanMethodBudget ↔ c.scanBatchSize ∣ c.scanMethodBudget := by
  constructor
  · intro hle
    rw [Nat.le_antisymm (le_wholeBudget hbatch) hle]
    exact dvd_wholeBudget c
  · intro hdvd
    exact wholeBudget_le hbatch hdvd (Nat.le_refl _)

end Config

namespace Scan

variable {α : Type} (config : Config) (timeUp : Nat → Bool) (look : Token → List α) (wanted : Nat)

def lookedAt (s : Scan α) : Nat :=
  s.pending.length - (s.advance config timeUp look wanted).pending.length

def results (s : Scan α) : List α := s.found ++ s.pending.flatMap look

theorem results_batch (size : Nat) (s : Scan α) :
    (s.batch look size).results look = s.results look := by
  rw [results, batch, List.append_assoc, ← List.flatMap_append, List.take_append_drop, results]

theorem pending_length_batch (size : Nat) (s : Scan α) :
    (s.batch look size).pending.length = s.pending.length - size := List.length_drop

variable {config} (hbudget : 0 < config.scanMethodBudget) (hbatch : 0 < config.scanBatchSize)
  {scanned : Nat}

include hbudget hbatch

section Rounds

variable (hscanned : config.scanBatchSize ∣ scanned)

include hscanned

/-- A call that has looked at whole batches so far stays within the whole budget. -/
theorem le_pending_length_advanceFrom (s : Scan α) :
    s.pending.length - (config.wholeBudget - scanned)
      ≤ (advanceFrom config timeUp look wanted scanned s).pending.length := by
  have hwhole := Config.le_wholeBudget hbatch
  fun_induction advanceFrom config timeUp look wanted scanned s with
  | case1 scanned s hpending => exact Nat.sub_le _ _
  | case2 scanned s hpending hwanted => exact Nat.sub_le _ _
  | case3 scanned s hpending hwanted hspent => exact Nat.sub_le _ _
  | case4 scanned s hpending hwanted hspent size ih =>
    have hsize : size = config.scanBatchSize := Nat.max_eq_right hbatch
    have hroom := Config.add_le_wholeBudget hscanned (by omega)
    rw [hsize] at ih ⊢
    obtain hlast | hfull := Nat.lt_or_ge s.pending.length config.scanBatchSize
    · omega
    · rw [Nat.min_eq_left hfull, pending_length_batch] at ih
      have hrest := ih (Nat.dvd_add hscanned (Nat.dvd_refl _))
      rw [Nat.min_eq_left hfull]
      omega

/-- A call that neither the time nor its results stop goes on to the end of the whole budget. -/
theorem pending_length_advanceFrom_of_quiet (s : Scan α)
    (hwanted : (s.results look).length ≤ wanted) :
    (advanceFrom config (fun _ ↦ false) look wanted scanned s).pending.length
      = s.pending.length - (config.wholeBudget - scanned) := by
  have hwhole := Config.le_wholeBudget hbatch
  fun_induction advanceFrom config (fun _ ↦ false) look wanted scanned s with
  | case1 scanned s hpending => rw [hpending, List.length_nil, Nat.zero_sub]
  | case2 scanned s hpending hfound =>
    rw [results, List.length_append] at hwanted
    omega
  | case3 scanned s hpending hfound hspent =>
    have hover : config.scanMethodBudget ≤ scanned := hspent.2.resolve_right Bool.false_ne_true
    have hle := Config.wholeBudget_le hbatch hscanned hover
    omega
  | case4 scanned s hpending hfound hspent size ih =>
    have hsize : size = config.scanBatchSize := Nat.max_eq_right hbatch
    have hroom := Config.add_le_wholeBudget hscanned (by omega)
    rw [hsize, results_batch, pending_length_batch] at ih
    rw [hsize]
    obtain hlast | hfull := Nat.lt_or_ge s.pending.length config.scanBatchSize
    · have hrest := pending_length_advanceFrom_le config (fun _ ↦ false) look wanted
        (scanned + min config.scanBatchSize s.pending.length) (s.batch look config.scanBatchSize)
      rw [pending_length_batch] at hrest
      omega
    · rw [Nat.min_eq_left hfull] at ih ⊢
      rw [ih (Nat.dvd_add hscanned (Nat.dvd_refl _)) hwanted]
      omega

end Rounds

theorem lookedAt_le (s : Scan α) :
    lookedAt config timeUp look wanted s ≤ min s.pending.length config.wholeBudget := by
  have hle := le_pending_length_advanceFrom timeUp look wanted hbudget hbatch (Nat.dvd_zero _) s
  rw [lookedAt, advance]
  omega

theorem lookedAt_of_quiet (s : Scan α) (hwanted : (s.results look).length ≤ wanted) :
    lookedAt config (fun _ ↦ false) look wanted s = min s.pending.length config.wholeBudget := by
  have heq := pending_length_advanceFrom_of_quiet look wanted hbudget hbatch (Nat.dvd_zero _) s
    hwanted
  rw [lookedAt, advance, heq]
  omega

/-- A call looks at no more methods than the budget has, rounded up to whole batches, and at as many
if nothing else stops it. So the budget bounds every call exactly if it consists of whole batches;
else calls go beyond it, by less than a batch. -/
theorem lookedAt_within_budget_iff :
    (∀ timeUp look wanted (s : Scan α),
        lookedAt config timeUp look wanted s ≤ min s.pending.length config.wholeBudget) ∧
      (∀ look wanted (s : Scan α), (s.results look).length ≤ wanted →
        lookedAt config (fun _ ↦ false) look wanted s
          = min s.pending.length config.wholeBudget) ∧
      config.wholeBudget < config.scanMethodBudget + config.scanBatchSize ∧
      ((∀ timeUp look wanted (s : Scan α),
          lookedAt config timeUp look wanted s ≤ config.scanMethodBudget) ↔
        config.scanBatchSize ∣ config.scanMethodBudget) := by
  refine ⟨fun timeUp look wanted s ↦ lookedAt_le timeUp look wanted hbudget hbatch s,
    fun look wanted s hwanted ↦ lookedAt_of_quiet look wanted hbudget hbatch s hwanted,
    Config.wholeBudget_lt hbatch, ?_⟩
  rw [← Config.wholeBudget_le_iff hbatch]
  constructor
  · intro hall
    let s : Scan α := { pending := List.replicate config.wholeBudget ⟨0⟩ }
    have hlength : s.pending.length = config.wholeBudget := List.length_replicate
    have hnone : (s.results fun _ ↦ ([] : List α)).length ≤ 0 := by
      rw [results, List.flatMap_eq_nil_iff.2 fun _ _ ↦ rfl]
      exact Nat.le_refl 0
    have hused := lookedAt_of_quiet (fun _ ↦ []) 0 hbudget hbatch s hnone
    rw [hlength, Nat.min_self] at hused
    rw [← hused]
    exact hall (fun _ ↦ false) (fun _ ↦ []) 0 s
  · intro hwhole timeUp look wanted s
    have hle := lookedAt_le timeUp look wanted hbudget hbatch s
    omega

omit hbudget hbatch

theorem lookedAt_within_budget_three :
    let config : Config := { scanMethodBudget := 3, scanBatchSize := 2 }
    let s : Scan Token := { pending := List.replicate 5 ⟨0x06000001⟩ }
    0 < config.scanMethodBudget ∧ 0 < config.scanBatchSize ∧ (s.results fun _ ↦ []).length ≤ 0 ∧
      lookedAt config (fun _ ↦ false) (fun _ ↦ []) 0 s = 4 := by
  intro config s
  have hbudget : 0 < config.scanMethodBudget := by decide
  have hbatch : 0 < config.scanBatchSize := by decide
  have hnone : (s.results fun _ ↦ []).length ≤ 0 := by decide
  obtain ⟨_, hquiet, _, _⟩ := lookedAt_within_budget_iff (α := Token) hbudget hbatch
  exact ⟨hbudget, hbatch, hnone, (hquiet (fun _ ↦ []) 0 s hnone).trans (by decide)⟩

/-- With the budget of one method, a call looks at both methods of a scan in batches of two. -/
theorem not_lookedAt_le_budget :
    ¬∀ (config : Config), 0 < config.scanBatchSize → 0 < config.scanMethodBudget →
      ∀ timeUp look wanted (s : Scan Token),
        lookedAt config timeUp look wanted s ≤ config.scanMethodBudget := by
  intro hall
  let config : Config := { scanMethodBudget := 1, scanBatchSize := 2 }
  let s : Scan Token := { pending := [⟨0x06000001⟩, ⟨0x06000002⟩] }
  have hbudget : 0 < config.scanMethodBudget := by decide
  have hbatch : 0 < config.scanBatchSize := by decide
  have hused := lookedAt_of_quiet (fun m ↦ [m]) 2 hbudget hbatch s (by decide)
  have hle := hall config hbatch hbudget (fun _ ↦ false) (fun m ↦ [m]) 2 s
  rw [hused] at hle
  exact absurd hle (by decide)

end Scan

end CliMetadata
