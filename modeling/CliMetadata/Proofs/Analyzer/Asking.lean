import CliMetadata.Analyzer.Identity
import CliMetadata.Proofs.Analyzer.World

namespace CliMetadata.Analyzer

variable {α β κ : Type} {w : Era} {q : Query α} {x : Except Error α} {y z : Analyzer}

section Scans

variable [DecidableEq κ] {generation : Nat} {b c d : Cache κ (Scan α)}

theorem ScansGoOn.refl (generation : Nat) (c : Cache κ (Scan α)) : ScansGoOn generation c c := by
  intro key scan h
  exact ⟨scan, h, Nat.le_refl _⟩

theorem ScansGoOn.trans (h₁ : ScansGoOn generation b c) (h₂ : ScansGoOn generation c d) :
    ScansGoOn generation b d := by
  intro key scan h
  obtain ⟨next, hnext, hle⟩ := h₁ key scan h
  obtain ⟨later, hlater, hle'⟩ := h₂ key next hnext
  exact ⟨later, hlater, Nat.le_trans hle' hle⟩

end Scans

theorem After.refl (h : z.Shows w) : After w z z := ⟨h, .refl _ _, .refl _ _⟩

theorem After.trans {x : Analyzer} (h₁ : After w x y) (h₂ : After w y z) : After w x z :=
  ⟨h₂.shows, h₁.edgeScans.trans h₂.edgeScans, h₁.literalScans.trans h₂.literalScans⟩

theorem Meets.keeps {condition : Except Error α → Prop} (h : Meets w q condition) : Keeps w q :=
  fun z hz ↦ ⟨trivial, (h z hz).2⟩

theorem Answers.meets {condition : Except Error α → Prop} (h : Answers w q x) (hx : condition x) :
    Meets w q condition := by
  intro z hz
  obtain ⟨hanswer, hafter⟩ := h z hz
  exact ⟨hanswer ▸ hx, hafter⟩

theorem answers_of_eq (h : ∀ z, z.Shows w → q z = (x, z)) : Answers w q x := by
  intro z hz
  rw [h z hz]
  exact ⟨rfl, .refl hz⟩

theorem answers_pure (a : α) : Answers w (pure a) (.ok a) := answers_of_eq fun _ _ ↦ rfl

theorem answers_throw (e : Error) : Answers w (throw e : Query α) (.error e) :=
  answers_of_eq fun _ _ ↦ rfl

section Steps

variable {f : α → Query β} {condition : Except Error β → Prop} {answer : Except Error β}

theorem Meets.bind {before : Except Error α → Prop} (hq : Meets w q before)
    (hok : ∀ a, before (.ok a) → Meets w (f a) condition)
    (herror : ∀ e, before (.error e) → condition (.error e)) : Meets w (q >>= f) condition := by
  intro z hz
  obtain ⟨hbefore, hafter⟩ := hq z hz
  rw [Attempt.bind_apply]
  rcases hqz : q z with ⟨e | a, t⟩
  · rw [hqz] at hbefore hafter
    exact ⟨herror e hbefore, hafter⟩
  · rw [hqz] at hbefore hafter
    obtain ⟨hcondition, hlater⟩ := hok a hbefore t hafter.shows
    exact ⟨hcondition, hafter.trans hlater⟩

theorem Answers.bind_meets (hq : Answers w q x) (hok : ∀ a, x = .ok a → Meets w (f a) condition)
    (herror : ∀ e, x = .error e → condition (.error e)) : Meets w (q >>= f) condition :=
  Meets.bind hq (fun a ha ↦ hok a ha.symm) fun e he ↦ herror e he.symm

theorem Answers.bind {g : α → Except Error β} (hq : Answers w q x)
    (hf : ∀ a, x = .ok a → Answers w (f a) (g a)) : Answers w (q >>= f) (x >>= g) := by
  cases x with
  | error e =>
    refine hq.bind_meets (fun a ha ↦ by cases ha) fun _ he ↦ ?_
    cases he
    rfl
  | ok a =>
    refine hq.bind_meets (fun b hb ↦ ?_) fun _ he ↦ (by cases he)
    cases hb
    exact hf a rfl

theorem Answers.ok_bind {a : α} (hq : Answers w q (.ok a)) (hf : Meets w (f a) condition) :
    Meets w (q >>= f) condition := by
  refine hq.bind_meets (fun b hb ↦ ?_) fun _ he ↦ (by cases he)
  cases hb
  exact hf

theorem Answers.bind_keeps (hq : Answers w q x) (hf : ∀ a, x = .ok a → Keeps w (f a)) :
    Keeps w (q >>= f) :=
  hq.bind_meets hf fun _ _ ↦ trivial

theorem meets_change {change : Analyzer → β × Analyzer}
    (h : ∀ z, z.Shows w → condition (.ok (change z).1) ∧ After w z (change z).2) :
    Meets w (Attempt.update change) condition := h

theorem meets_update {change : Analyzer → α × Analyzer}
    (h : ∀ z, z.Shows w → After w z (change z).2 ∧ Meets w (f (change z).1) condition) :
    Meets w (Attempt.update change >>= f) condition := by
  intro z hz
  obtain ⟨hafter, hf⟩ := h z hz
  obtain ⟨hcondition, hlater⟩ := hf _ hafter.shows
  exact ⟨hcondition, hafter.trans hlater⟩

/-- A query on the loaded snapshot. -/
theorem meets_loaded {f : Snapshot → Query β}
    (hf : ∀ s, s.Shows w.assembly w.generation → Meets w (f s) condition) :
    Meets w (loaded >>= f) condition := by
  intro z hz
  obtain ⟨s, hs, hshows⟩ := hz.snapshot
  have hloaded : loaded z = (.ok s, z) := by rw [loaded, hs]
  rw [Attempt.bind_of_ok hloaded]
  exact hf s hshows z hz

end Steps

theorem assembly_answers (w : Era) : Answers w assembly (.ok w.assembly) := by
  refine meets_loaded fun s hs ↦ ?_
  rw [hs.assembly_eq]
  exact answers_pure _

theorem config?_answers (w : Era) : Answers w config? (.ok w.config) :=
  answers_of_eq fun z hz ↦ by rw [config?, hz.config_eq]

theorem window_answers (w : Era) (request : PageRequest) :
    Answers w (window request) (w.window request) :=
  answers_of_eq fun z hz ↦ by rw [window, hz.config_eq, World.window]

theorem answers_of_window_error {f : Snapshot → Window → Query α} {request : PageRequest}
    {e : Error} (he : w.window request = .error e) :
    Answers w (loaded >>= fun s ↦ window request >>= f s) (.error e) := by
  have hw := window_answers w request
  rw [he] at hw
  refine meets_loaded fun _ _ ↦ hw.bind_meets (fun v hv ↦ by cases hv) fun _ h ↦ ?_
  cases h
  rfl

theorem matcher_answers (w : Era) (query : String) (isPattern : Bool) :
    Answers w (matcher query isPattern) (.ok (w.matcher query isPattern)) :=
  answers_of_eq fun z hz ↦ by rw [matcher, hz.config_eq, hz.engine_eq, World.matcher]

theorem withSnapshot_answers {use : Snapshot → α × Snapshot} {a : α}
    (huse : Snapshot.Gives w.assembly use a) : Answers w (withSnapshot use) (.ok a) := by
  intro z hz
  obtain ⟨s, hs, hshows⟩ := hz.snapshot
  obtain ⟨ha, hshows⟩ := huse w.generation s hshows
  have hused : withSnapshot use z = (.ok (use s).1, { z with snapshot := some (use s).2 }) := by
    rw [withSnapshot, hs]
  rw [hused, ha]
  exact ⟨rfl, { hz with snapshot := ⟨_, rfl, hshows⟩ }, .refl _ _, .refl _ _⟩

def ResolverGives (w : Era) (use : Resolver → Snapshot → α × Resolver × Snapshot) (a : α) :
    Prop :=
  ∀ r s, r.Right w.assembly w.generation → s.Shows w.assembly w.generation →
    (use r s).1 = a ∧ (use r s).2.1.Right w.assembly w.generation ∧
      (use r s).2.2.Shows w.assembly w.generation

theorem withResolver_answers {use : Resolver → Snapshot → α × Resolver × Snapshot} {a : α}
    (huse : ResolverGives w use a) : Answers w (withResolver use) (.ok a) := by
  intro z hz
  obtain ⟨s, hs, hshows⟩ := hz.snapshot
  obtain ⟨ha, hr, hshows⟩ := huse z.resolver s hz.resolver hshows
  have hused : withResolver use z = (.ok (use z.resolver s).1,
      { z with resolver := (use z.resolver s).2.1, snapshot := some (use z.resolver s).2.2 }) := by
    rw [withResolver, hs]
  rw [hused, ha]
  exact ⟨rfl, { hz with resolver := hr, snapshot := ⟨_, rfl, hshows⟩ }, .refl _ _, .refl _ _⟩

theorem withAttached_answers {use : Resolver → Snapshot → α × Resolver × Snapshot} {a : α}
    (place : Nat) (huse : ResolverGives w use a) : Answers w (withAttached place use) (.ok a) := by
  intro z hz
  obtain ⟨s, hs, hshows⟩ := hz.snapshot
  have hright : (z.attached[place]?.getD {}).Right w.assembly w.generation := by
    cases hr : z.attached[place]? with
    | none => exact Resolver.right_empty _ _
    | some r => exact hz.attached r (List.mem_of_getElem? hr)
  obtain ⟨ha, hr, hshows⟩ := huse _ s hright hshows
  have hused : withAttached place use z = (.ok (use (z.attached[place]?.getD {}) s).1,
      { z with
        attached := z.attached.set place (use (z.attached[place]?.getD {}) s).2.1
        snapshot := some (use (z.attached[place]?.getD {}) s).2.2 }) := by
    rw [withAttached, hs]
  rw [hused, ha]
  refine ⟨rfl, { hz with attached := ?_, snapshot := ⟨_, rfl, hshows⟩ }, .refl _ _, .refl _ _⟩
  intro r hmem
  obtain hmem | rfl := List.mem_or_eq_of_mem_set hmem
  · exact hz.attached r hmem
  · exact hr

theorem resolve?_answers (w : Era) (input : String) :
    Answers w (resolve? input) (.ok (w.resolve? input)) :=
  withResolver_answers fun _ _ hr hs ↦ Resolver.resolve_gives input hr hs

theorem resolveType?_answers (w : Era) (input : String) :
    Answers w (resolveType? input) (.ok (w.assembly.searchType? input)) :=
  withResolver_answers fun _ _ hr hs ↦ Resolver.resolveType_gives input hr hs

theorem require_answers (w : Era) (input : String) :
    Answers w (require input) (w.require input) := by
  have h := resolve?_answers w input
  rw [World.require]
  cases hs : w.resolve? input with
  | none =>
    rw [hs] at h
    exact h.ok_bind (answers_throw _)
  | some s =>
    rw [hs] at h
    exact h.ok_bind (answers_pure s)

theorem requireType_answers (w : Era) (input : String) :
    Answers w (requireType input) (w.requireType input) := by
  have h := resolveType?_answers w input
  rw [World.requireType]
  cases ht : w.assembly.searchType? input with
  | none =>
    rw [ht] at h
    exact h.ok_bind (answers_throw _)
  | some t =>
    rw [ht] at h
    exact h.ok_bind (answers_pure t)

theorem requireMethod_answers (w : Era) (input : String) :
    Answers w (requireMethod input) (w.requireMethod input) := by
  refine (require_answers w input).bind fun s _ ↦ ?_
  cases s with
  | method m => exact answers_pure m
  | _ => exact answers_throw _

end CliMetadata.Analyzer
