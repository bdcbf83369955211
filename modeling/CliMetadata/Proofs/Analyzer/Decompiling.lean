import CliMetadata.Analyzer.Lifecycle
import CliMetadata.Analyzer.Source
import CliMetadata.Proofs.Resolution

namespace CliMetadata

namespace Decompiler

variable {decompilers : List Decompiler} {format : SourceFormat} {d : Decompiler}

/-- The newest of some decompilers that supports a format. The newer ones stand in front. -/
def IsNewest (d : Decompiler) (decompilers : List Decompiler) (format : SourceFormat) : Prop :=
  ∃ newer older, decompilers = newer ++ d :: older ∧ d.supports format = true ∧
    ∀ e ∈ newer, e.supports format = false

def Makes (d : Decompiler) (a : Assembly) (s : Symbol) (format : SourceFormat)
    (source : SourceText) : Prop :=
  source.decompiler = d.name ∧ d.decompile a s format = .ok source.text

theorem choose_eq_ok_iff : choose decompilers format = .ok d ↔ d.IsNewest decompilers format := by
  have hfind : choose decompilers format = .ok d ↔
      decompilers.find? (·.supports format) = some d := by
    rw [choose]
    cases decompilers.find? (·.supports format) <;> simp
  rw [hfind, List.find?_eq_some_iff_append, IsNewest]
  simp only [Bool.not_eq_true']
  constructor
  · rintro ⟨hd, newer, older, heq, hnewer⟩
    exact ⟨newer, older, heq, hd, hnewer⟩
  · rintro ⟨newer, older, heq, hd, hnewer⟩
    exact ⟨hd, newer, older, heq, hnewer⟩

theorem IsNewest.cons (h : d.IsNewest decompilers format) {e : Decompiler}
    (he : e.supports format = false) : d.IsNewest (e :: decompilers) format := by
  obtain ⟨newer, older, heq, hd, hnewer⟩ := h
  refine ⟨e :: newer, older, by rw [heq, List.cons_append], hd, ?_⟩
  rintro x hx
  obtain rfl | hx := List.mem_cons.1 hx
  · exact he
  · exact hnewer x hx

end Decompiler

namespace Analyzer

inductive SourceCall where
  | register (d : Decompiler)
  | ask (target : String) (format : SourceFormat)

namespace SourceCall

def after (z : Analyzer) : SourceCall → Analyzer
  | register d => z.register d
  | ask target format => (decompile target format z).2

def registered (decompilers : List Decompiler) : List SourceCall → List Decompiler
  | [] => decompilers
  | register d :: calls => registered (d :: decompilers) calls
  | ask _ _ :: calls => registered decompilers calls

variable {decompilers : List Decompiler}

theorem registered_append (front behind : List SourceCall) :
    registered decompilers (front ++ behind)
      = registered (registered decompilers front) behind := by
  induction front generalizing decompilers with
  | nil => rfl
  | cons c front ih => cases c <;> exact ih

theorem isNewest_registered {format : SourceFormat} {d : Decompiler} {calls : List SourceCall}
    (h : d.IsNewest decompilers format)
    (hcalls : ∀ e, register e ∈ calls → e.supports format = false) :
    d.IsNewest (registered decompilers calls) format := by
  induction calls generalizing decompilers with
  | nil => exact h
  | cons c calls ih =>
    have hlater (e : Decompiler) (he : register e ∈ calls) : e.supports format = false :=
      hcalls e (List.mem_cons_of_mem _ he)
    cases c with
    | register e => exact ih (h.cons (hcalls e List.mem_cons_self)) hlater
    | ask target format => exact ih h hlater

end SourceCall

def consult (z : Analyzer) (calls : List SourceCall) : Analyzer := calls.foldl SourceCall.after z

/-- An analyzer that finds in an assembly what texts name. -/
structure Finds (a : Assembly) (generation : Nat) (z : Analyzer) : Prop where
  snapshot : ∃ s, z.snapshot = some s ∧ s.Shows a generation
  resolver : z.resolver.Right a generation

/-- What can come of a request for a source text, with the texts that are kept then. -/
inductive Decompiled (a : Assembly) (generation : Nat) (z : Analyzer) (target : String)
    (format : SourceFormat) : Except Error SourceAnswer × Analyzer → Prop
  | refused (e : Error) (y : Analyzer)
      (hkept : ∀ key, y.sources.kept? generation key = z.sources.kept? generation key) :
      Decompiled a generation z target format (.error e, y)
  | kept (s : Symbol) (source : SourceText) (y : Analyzer)
      (hs : a.search? (trimmed target) = some s)
      (hsource : z.sources.kept? generation ⟨s.token, format⟩ = some source)
      (hkept : ∀ key, y.sources.kept? generation key = z.sources.kept? generation key) :
      Decompiled a generation z target format (.ok ⟨s.id a.mvid, format, source, true⟩, y)
  | made (s : Symbol) (source : SourceText) (d : Decompiler) (y : Analyzer)
      (hs : a.search? (trimmed target) = some s)
      (hnone : z.sources.kept? generation ⟨s.token, format⟩ = none)
      (hd : d.IsNewest z.decompilers format) (hmakes : d.Makes a s format source)
      (hkept : ∀ key, y.sources.kept? generation key
        = if key = ⟨s.token, format⟩ then some source else z.sources.kept? generation key) :
      Decompiled a generation z target format (.ok ⟨s.id a.mvid, format, source, false⟩, y)

structure Made (a : Assembly) (z : Analyzer) (target : String) (key : SourceKey)
    (source : SourceText) (s : Symbol) (d : Decompiler) : Prop where
  answer : (decompile target key.format z).1 = .ok ⟨s.id a.mvid, key.format, source, false⟩
  found : a.search? (trimmed target) = some s
  token_eq : s.token = key.token
  newest : d.IsNewest z.decompilers key.format
  makes : d.Makes a s key.format source

section Steps

variable {a : Assembly} {generation : Nat} {z : Analyzer}

theorem Finds.resolve (hz : z.Finds a generation) (target : String) :
    ∃ resolver snapshot, resolve? target z
        = (.ok (a.search? (trimmed target)), { z with resolver, snapshot }) ∧
      Finds a generation { z with resolver, snapshot } := by
  obtain ⟨s, hs, hshows⟩ := hz.snapshot
  obtain ⟨hfound, hright, hshows⟩ := Resolver.resolve_gives target hz.resolver hshows
  refine ⟨(z.resolver.resolve target s).2.1, some (z.resolver.resolve target s).2.2, ?_,
    ⟨_, rfl, hshows⟩, hright⟩
  rw [resolve?, withResolver, hs, ← hfound]

theorem Finds.require (hz : z.Finds a generation) (target : String) :
    ∃ resolver snapshot, require target z
        = ((a.search? (trimmed target)).elim (.error (.notFound (.symbol target))) .ok,
          { z with resolver, snapshot }) ∧
      Finds a generation { z with resolver, snapshot } := by
  obtain ⟨resolver, snapshot, hresolve, hfinds⟩ := hz.resolve target
  refine ⟨resolver, snapshot, ?_, hfinds⟩
  cases hs : a.search? (trimmed target) <;> rw [hs] at hresolve <;>
    exact Attempt.bind_of_ok hresolve

/-- The text that is made now comes from the newest decompiler for the format. -/
theorem render_cases (a : Assembly) (s : Symbol) (format : SourceFormat) (z : Analyzer) :
    (∃ e, render a s format z = (.error e, z)) ∨
      ∃ (d : Decompiler) (source : SourceText), render a s format z = (.ok source, z) ∧
        d.IsNewest z.decompilers format ∧
        d.Makes a s format source := by
  rw [render]
  cases hd : Decompiler.choose z.decompilers format with
  | error e => exact .inl ⟨e, rfl⟩
  | ok d =>
    cases htext : d.decompile a s format with
    | error e =>
      refine .inl ⟨e, ?_⟩
      simp [bind, Except.bind, htext]
    | ok text =>
      refine .inr ⟨d, ⟨d.name, text⟩, ?_, Decompiler.choose_eq_ok_iff.1 hd, rfl, htext⟩
      simp [bind, Except.bind, pure, Except.pure, htext]

theorem decompile_cases (hz : z.Finds a generation) (target : String) (format : SourceFormat) :
    (decompile target format z).2.Finds a generation ∧
      (decompile target format z).2.decompilers = z.decompilers ∧
      Decompiled a generation z target format (decompile target format z) := by
  obtain ⟨s, hs, hshows⟩ := hz.snapshot
  have hloaded : loaded z = (.ok s, z) := by rw [loaded, hs]
  obtain ⟨resolver, snapshot, hrequire, hfinds⟩ := hz.require target
  rw [decompile, Attempt.bind_of_ok hloaded, hshows.assembly_eq, hshows.generation_eq]
  cases hx : a.search? (trimmed target) with
  | none =>
    rw [hx, Option.elim_none] at hrequire
    rw [Attempt.bind_of_error hrequire]
    exact ⟨hfinds, rfl, .refused _ _ fun _ ↦ rfl⟩
  | some x =>
    rw [hx, Option.elim_some] at hrequire
    rw [Attempt.bind_of_ok hrequire]
    have hvalue := z.sources.get_fst generation ⟨x.token, format⟩
    have hkept := z.sources.kept?_get generation ⟨x.token, format⟩
    rw [Attempt.bind_apply]
    dsimp only [Attempt.update]
    generalize z.sources.get ⟨x.token, format⟩ generation = lookup at hvalue hkept ⊢
    obtain ⟨source?, sources⟩ := lookup
    cases source? with
    | some source =>
      exact ⟨⟨hfinds.snapshot, hfinds.resolver⟩, rfl, .kept x source _ hx hvalue.symm hkept⟩
    | none =>
      let y : Analyzer := { z with resolver, snapshot, sources }
      obtain ⟨e, he⟩ | ⟨d, source, hsource, hnewest, hmakes⟩ := render_cases a x format y
      · dsimp only
        rw [Attempt.bind_of_error he]
        exact ⟨⟨hfinds.snapshot, hfinds.resolver⟩, rfl, .refused e _ hkept⟩
      · dsimp only
        rw [Attempt.bind_of_ok hsource]
        refine ⟨⟨hfinds.snapshot, hfinds.resolver⟩, rfl,
          .made x source d _ hx hvalue.symm hnewest hmakes fun key ↦ ?_⟩
        rw [Cache.kept?_insert, hkept]

theorem Finds.after (hz : z.Finds a generation) (c : SourceCall) :
    (c.after z).Finds a generation ∧
      (c.after z).decompilers = SourceCall.registered z.decompilers [c] := by
  cases c with
  | register d => exact ⟨⟨hz.snapshot, hz.resolver⟩, rfl⟩
  | ask target format =>
    obtain ⟨hfinds, hdecompilers, _⟩ := decompile_cases hz target format
    exact ⟨hfinds, hdecompilers⟩

/-- A text that is kept stays. -/
theorem kept?_after (hz : z.Finds a generation) (c : SourceCall) {key : SourceKey}
    {source : SourceText} (h : z.sources.kept? generation key = some source) :
    (c.after z).sources.kept? generation key = some source := by
  cases c with
  | register d => exact h
  | ask target format =>
    obtain ⟨_, _, hcases⟩ := decompile_cases hz target format
    rw [SourceCall.after]
    generalize decompile target format z = result at hcases ⊢
    cases hcases with
    | refused e y hkept => exact (hkept key).trans h
    | kept s old y hs hold hkept => exact (hkept key).trans h
    | made s new d y hs hnone hd hmakes hkept =>
      refine (hkept key).trans ?_
      split
      · next hkey =>
        rw [hkey, hnone] at h
        cases h
      · exact h

theorem exists_made_of_kept?_after (hz : z.Finds a generation) (c : SourceCall) {key : SourceKey}
    {source : SourceText} (hnone : z.sources.kept? generation key = none)
    (h : (c.after z).sources.kept? generation key = some source) :
    ∃ (target : String) (s : Symbol) (d : Decompiler), c = .ask target key.format ∧
      Made a z target key source s d := by
  cases c with
  | register d =>
    rw [SourceCall.after, register, hnone] at h
    cases h
  | ask target format =>
    obtain ⟨_, _, hcases⟩ := decompile_cases hz target format
    rw [SourceCall.after] at h
    generalize hresult : decompile target format z = result at hcases h
    cases hcases with
    | refused e y hkept =>
      rw [hkept, hnone] at h
      cases h
    | kept s old y hs hold hkept =>
      rw [hkept, hnone] at h
      cases h
    | made s new d y hs hnew hd hmakes hkept =>
      rw [hkept] at h
      split at h
      · next hkey =>
        cases h
        subst hkey
        exact ⟨target, s, d, rfl, by rw [hresult], hs, rfl, hd, hmakes⟩
      · rw [hnone] at h
        cases h

end Steps

section Runs

variable {a : Assembly} {generation : Nat} {z : Analyzer} {calls : List SourceCall}
  {key : SourceKey} {source : SourceText}

theorem Finds.consult (hz : z.Finds a generation) (calls : List SourceCall) :
    (z.consult calls).Finds a generation ∧
      (z.consult calls).decompilers = SourceCall.registered z.decompilers calls := by
  induction calls generalizing z with
  | nil => exact ⟨hz, rfl⟩
  | cons c calls ih =>
    obtain ⟨hfinds, hdecompilers⟩ := hz.after c
    obtain ⟨hend, hregistered⟩ := ih hfinds
    refine ⟨hend, hregistered.trans ?_⟩
    rw [hdecompilers]
    exact (SourceCall.registered_append [c] calls).symm

theorem consult_append (z : Analyzer) (front behind : List SourceCall) :
    z.consult (front ++ behind) = (z.consult front).consult behind := List.foldl_append

theorem kept?_consult (hz : z.Finds a generation) (calls : List SourceCall)
    (h : z.sources.kept? generation key = some source) :
    (z.consult calls).sources.kept? generation key = some source := by
  induction calls generalizing z with
  | nil => exact h
  | cons c calls ih => exact ih (hz.after c).1 (kept?_after hz c h)

theorem exists_first_of_kept?_consult (hz : z.Finds a generation)
    (hnone : z.sources.kept? generation key = none)
    (h : (z.consult calls).sources.kept? generation key = some source) :
    ∃ (front later : List SourceCall) (target : String) (s : Symbol) (d : Decompiler),
      calls = front ++ .ask target key.format :: later ∧
      (z.consult front).sources.kept? generation key = none ∧
      Made a (z.consult front) target key source s d := by
  induction calls generalizing z with
  | nil =>
    rw [consult, List.foldl_nil, hnone] at h
    cases h
  | cons c calls ih =>
    have hfinds := (hz.after c).1
    cases hnext : (c.after z).sources.kept? generation key with
    | some next =>
      have hsame := kept?_consult hfinds calls hnext
      obtain rfl := Option.some.inj (hsame.symm.trans h)
      obtain ⟨target, s, d, rfl, hmade⟩ := exists_made_of_kept?_after hz c hnone hnext
      exact ⟨[], calls, target, s, d, rfl, hnone, hmade⟩
    | none =>
      obtain ⟨front, later, target, s, d, rfl, hnothing, hmade⟩ := ih hfinds hnext h
      exact ⟨c :: front, later, target, s, d, rfl, hnothing, hmade⟩

theorem kept?_of_decompile (hz : z.Finds a generation) {target : String} {format : SourceFormat}
    {x : SourceAnswer} (h : (decompile target format z).1 = .ok x) :
    (decompile target format z).2.sources.kept? generation ⟨x.id.token, format⟩
      = some x.source := by
  obtain ⟨_, _, hcases⟩ := decompile_cases hz target format
  generalize decompile target format z = result at hcases h ⊢
  cases hcases with
  | refused e y hkept => cases h
  | kept s old y hs hold hkept =>
    cases h
    exact (hkept _).trans hold
  | made s new d y hs hnone hd hmakes hkept =>
    cases h
    exact (hkept _).trans (if_pos rfl)

end Runs

/-- How the source text of an answer came about: `d`, which was the newest decompiler for the format
behind the calls `front`, made it of `s` when a text for the token was first asked for with success.
Either that is the answer, or it was the first of the calls `behind` and its text was kept. -/
structure MadeFirst (start : Analyzer) (a : Assembly) (calls : List SourceCall) (x : SourceAnswer)
    (s : Symbol) (d : Decompiler) (front behind : List SourceCall) : Prop where
  calls_eq : calls = front ++ behind
  token_eq : s.token = x.id.token
  newest : d.IsNewest (SourceCall.registered start.decompilers front) x.format
  makes : d.Makes a s x.format x.source
  unmade : ∀ earlier target later y, front = earlier ++ .ask target x.format :: later →
    (decompile target x.format (start.consult earlier)).1 = .ok y → y.id.token ≠ x.id.token
  new : x.wasKept = false → behind = []
  kept : x.wasKept = true → ∃ target later, behind = .ask target x.format :: later ∧
    (decompile target x.format (start.consult front)).1
      = .ok ⟨s.id a.mvid, x.format, x.source, false⟩

section Answers

variable {a : Assembly} {generation : Nat} {start : Analyzer} (hstart : start.Finds a generation)
  (hempty : ∀ key, start.sources.kept? generation key = none) {calls : List SourceCall}

include hstart

theorem ne_of_kept?_none {front : List SourceCall} {key : SourceKey}
    (hnone : (start.consult front).sources.kept? generation key = none)
    {earlier later : List SourceCall} {target : String} {y : SourceAnswer}
    (hfront : front = earlier ++ .ask target key.format :: later)
    (hy : (decompile target key.format (start.consult earlier)).1 = .ok y) :
    y.id.token ≠ key.token := by
  rintro htoken
  obtain ⟨hearlier, _⟩ := hstart.consult earlier
  have hkept := kept?_of_decompile hearlier hy
  rw [htoken] at hkept
  have hlater := kept?_consult (hearlier.after (.ask target key.format)).1 later hkept
  rw [hfront, consult_append] at hnone
  exact absurd (hlater.symm.trans hnone) (by simp)

include hempty

/-- Every source text has such an origin. Where rows are numbered, it was made of the symbol that is
asked for. -/
theorem exists_madeFirst {target : String} {format : SourceFormat} {x : SourceAnswer}
    (h : (decompile target format (start.consult calls)).1 = .ok x) :
    ∃ s d front behind, MadeFirst start a calls x s d front behind ∧ x.format = format ∧
      (a.RowsNumbered → a.search? (trimmed target) = some s) := by
  obtain ⟨hfinds, hdecompilers⟩ := hstart.consult calls
  obtain ⟨_, _, hcases⟩ := decompile_cases hfinds target format
  generalize decompile target format (start.consult calls) = result at hcases h
  cases hcases with
  | refused e y hkept => cases h
  | kept s source y hs hsource hkept =>
    cases h
    obtain ⟨front, later, other, first, d, rfl, hnone, hmade⟩ :=
      exists_first_of_kept?_consult hstart (hempty _) hsource
    refine ⟨first, d, front, .ask other format :: later, ?_, rfl, fun hrows ↦ ?_⟩
    · exact {
        calls_eq := rfl
        token_eq := hmade.token_eq
        newest := (hstart.consult front).2 ▸ hmade.newest
        makes := hmade.makes
        unmade := fun _ _ _ _ hfront hy ↦ ne_of_kept?_none hstart hnone hfront hy
        new := fun hfalse ↦ by cases hfalse
        kept := fun _ ↦ ⟨other, later, rfl, hmade.answer⟩ }
    · have hsame : first.token = s.token := hmade.token_eq
      have hnamed := hrows.named?_of_search? hs
      rw [← hsame, hrows.named?_of_search? hmade.found] at hnamed
      rw [hs, hnamed]
  | made s source d y hs hnone hd hmakes hkept =>
    cases h
    rw [hdecompilers] at hd
    refine ⟨s, d, calls, [], ?_, rfl, fun _ ↦ hs⟩
    exact {
      calls_eq := (List.append_nil calls).symm
      token_eq := rfl
      newest := hd
      makes := hmakes
      unmade := fun _ _ _ _ hfront hy ↦ ne_of_kept?_none hstart hnone hfront hy
      new := fun _ ↦ rfl
      kept := fun htrue ↦ by cases htrue }

end Answers

theorem finds_install (z : Analyzer) (now : Nat) (files : Files) (a : Assembly)
    (source : Option LoadSource) : (z.install now files a source).2.Finds a (z.generation + 1) :=
  ⟨⟨_, rfl, rfl, rfl, Indexes.right_empty a⟩, fun _ _ h ↦ by cases h⟩

/-- Behind any requests and registrations, a source text is from the decompiler that was the newest
for its format when a text for the token was first made. That is still the newest one if none for
the format was registered since. -/
theorem consult_madeFirst (z : Analyzer) (now : Nat) (files : Files) (a : Assembly)
    (source : Option LoadSource) (calls : List SourceCall) {target : String}
    {format : SourceFormat} {x : SourceAnswer}
    (h : (decompile target format ((z.install now files a source).2.consult calls)).1 = .ok x) :
    let start := (z.install now files a source).2
    ∃ s d front behind, MadeFirst start a calls x s d front behind ∧ x.format = format ∧
      (a.RowsNumbered → (resolve? target (start.consult calls)).1 = .ok (some s)) ∧
      ((∀ e, .register e ∈ behind → e.supports format = false) →
        d.IsNewest (SourceCall.registered start.decompilers calls) format) := by
  intro start
  have hstart := finds_install z now files a source
  obtain ⟨s, d, front, behind, hmade, hformat, hs⟩ :=
    exists_madeFirst hstart (fun _ ↦ rfl) h
  refine ⟨s, d, front, behind, hmade, hformat, fun hrows ↦ ?_, fun hbehind ↦ ?_⟩
  · obtain ⟨resolver, snapshot, hresolve, _⟩ := (hstart.consult calls).1.resolve target
    rw [hresolve, hs hrows]
  · have hnewest := hmade.newest
    rw [hformat] at hnewest
    rw [hmade.calls_eq, SourceCall.registered_append]
    exact SourceCall.isNewest_registered hnewest hbehind

def naming (name : String) : Decompiler where
  name := name
  supports := fun _ ↦ true
  decompile := fun _ s _ ↦ .ok s.name

theorem consult_madeFirst_naming :
    let new : Analyzer := { config := {}, engine := fun _ _ ↦ none }
    let start := (new.install 0 {} .callingItself none).2
    let calls : List SourceCall := [.register (naming "old"), .ask "0x06000001" .il,
      .register (naming "new")]
    ∃ x, (decompile "0x06000001" .il (start.consult calls)).1 = .ok x ∧ x.wasKept = true ∧
      ∃ s d front behind, MadeFirst start .callingItself calls x s d front behind := by
  intro new start calls
  obtain ⟨x, hx, hkept⟩ : ∃ x, (decompile "0x06000001" .il (start.consult calls)).1 = .ok x ∧
      x.wasKept = true := ⟨_, rfl, rfl⟩
  obtain ⟨s, d, front, behind, hmade, _⟩ := consult_madeFirst new 0 {} .callingItself none calls hx
  exact ⟨x, hx, hkept, s, d, front, behind, hmade⟩

/-- A text that is kept is given again although a newer decompiler for the format is there. -/
theorem not_newest_naming :
    let new : Analyzer := { config := {}, engine := fun _ _ ↦ none }
    let start := (new.install 0 {} .callingItself none).2
    let calls : List SourceCall := [.ask "0x06000001" .il, .register (naming "new")]
    ∃ x, (decompile "0x06000001" .il (start.consult calls)).1 = .ok x ∧
      (naming "new").IsNewest (SourceCall.registered start.decompilers calls) .il ∧
      x.source.decompiler ≠ (naming "new").name := by
  intro new start calls
  refine ⟨_, rfl, ⟨[], _, rfl, rfl, fun e he ↦ by cases he⟩, ?_⟩
  decide

end Analyzer

end CliMetadata
