import CliMetadata.Proofs.Analyzer.Run
import CliMetadata.Proofs.Assembly.Ending
import CliMetadata.Proofs.Assembly.Loaded

namespace CliMetadata

namespace Usage

/-- The uses of a symbol in all methods, in the order of the types that list them. -/
def everyUse (a : Assembly) (s : Symbol) (wanted : UsageKind → Bool) : List UsageEdge :=
  (Scan.methodOrder a).flatMap (lookIn a (edgesIn a s (rolesOf a s) wanted))

def everyLiteral (a : Assembly) (m : Matcher) : List StringLiteral :=
  (Scan.methodOrder a).flatMap (lookIn a (literalsIn a m))

end Usage

namespace Analyzer

/-- A query for pages, given when the time of the call is over. -/
abbrev PageQuery (α : Type) := (Nat → Bool) → PageRequest → Query (Page α)

/-- A page that is asked for, and what comes in front of it. -/
structure Pull where
  before : List Interlude
  limit : Nat
  limit_pos : 0 < limit
  timeUp : Nat → Bool

namespace Pull

variable {w : Era} {z : Analyzer}

def start (pull : Pull) (z : Analyzer) : Analyzer := pull.before.foldl Interlude.after z

def Quiet (pull : Pull) : Prop := ∀ kind, Interlude.clearCaches kind ∉ pull.before

/-- Source texts are asked for in front of the page only where no type is nested in itself. -/
def Returns (a : Assembly) (pull : Pull) : Prop :=
  (∃ target format, .ask (.source target format) ∈ pull.before) → a.NestingEnds

theorem start_shows (pull : Pull) (hz : z.Shows w) : (pull.start z).Shows w := by
  rw [start]
  generalize pull.before = before
  induction before generalizing z with
  | nil => exact hz
  | cons i before ih => exact ih (i.after_shows hz)

theorem start_after {pull : Pull} (hquiet : pull.Quiet) (hz : z.Shows w) :
    After w z (pull.start z) := by
  rw [Quiet] at hquiet
  rw [start]
  generalize pull.before = before at hquiet ⊢
  induction before generalizing z with
  | nil => exact .refl hz
  | cons i before ih =>
    have hrest (kind : Option CacheKind) : Interlude.clearCaches kind ∉ before :=
      fun h ↦ hquiet kind (List.mem_cons_of_mem _ h)
    cases i with
    | ask r =>
      have hafter := r.after_shows hz
      exact hafter.trans (ih hafter.shows hrest)
    | clearCaches kind => exact absurd List.mem_cons_self (hquiet kind)

end Pull

section Walks

variable {α : Type}

def walk (ask : PageQuery α) : List Pull → Option String → Analyzer → Except Error (List (Page α))
  | [], _, _ => .ok []
  | pull :: pulls, cursor, z =>
    match ask pull.timeUp ⟨some pull.limit, cursor⟩ (pull.start z) with
    | (.error e, _) => .error e
    | (.ok page, later) =>
      if page.hasMore then (walk ask pulls page.nextCursor later).map (page :: ·) else .ok [page]

/-- A query that gives the same results page by page, however it is walked through: no walk misses
some of them or has some twice, and a walk without emptied caches ends. -/
structure Conserves (a : Assembly) (ask : PageQuery α) (results : List α) (z : Analyzer) :
    Prop where
  answers : results.length < 0x10000000000000000 →
    ∀ pulls, (∀ pull ∈ pulls, pull.Returns a) → ∃ pages, walk ask pulls none z = .ok pages
  covers : ∀ pulls pages, walk ask pulls none z = .ok pages → Page.Covers results pages
  ends : ∀ pulls pages, walk ask pulls none z = .ok pages → (∀ pull ∈ pulls, pull.Quiet) →
    (Scan.methodOrder a).length + results.length < pulls.length → Page.Finished pages

/-- A query that turns pages in a world, with a measure of what is left to do. -/
structure Pageable (w : Era) (ask : PageQuery α) (results : List α) (left : Analyzer → Nat) :
    Prop where
  turns : ∀ timeUp request v, w.window request = .ok v → 0 < v.limit →
    Turns w (ask timeUp request) results v.offset left
  refuses : ∀ timeUp request e, w.window request = .error e →
    Answers w (ask timeUp request) (.error e)
  left_antitone : ∀ y z, After w y z → left z ≤ left y
  left_le : ∀ z, left z ≤ (Scan.methodOrder w.assembly).length

variable {w : Era} {ask : PageQuery α} {results : List α} {left : Analyzer → Nat} {pull : Pull}
  {pulls : List Pull} {cursor : Option String} {offset : Nat} {z : Analyzer} {pages : List (Page α)}

/-- A page that is asked for behind the first `offset` results, or a refused cursor. -/
theorem Pageable.page_or_refused (h : Pageable w ask results left) (timeUp : Nat → Bool)
    {limit : Nat} (hlimit : 0 < limit) (hcursor : Window.StartsAt cursor offset) (hz : z.Shows w) :
    (∃ page later, ask timeUp ⟨some limit, cursor⟩ z = (.ok page, later) ∧ After w z later ∧
        page.Continues results offset ∧
        (page.hasMore = true → 0 < page.items.length ∨ left later < left z)) ∨
      0x10000000000000000 ≤ offset ∧
        ∃ e later, ask timeUp ⟨some limit, cursor⟩ z = (.error e, later) := by
  obtain ⟨v, hv, rfl, hroom⟩ | ⟨hoffset, e, he⟩ :=
    Window.ofRequest_startsAt w.config hlimit hcursor
  · obtain ⟨hafter, page, hpage, hcontinues, hmore⟩ := h.turns timeUp _ v hv hroom z hz
    exact .inl ⟨page, _, Prod.ext hpage rfl, hafter, hcontinues, hmore⟩
  · exact .inr ⟨hoffset, e, _, Prod.ext (h.refuses timeUp _ e he z hz).1 rfl⟩

theorem Pageable.walk_cons (h : Pageable w ask results left)
    (hcursor : Window.StartsAt cursor offset) (hz : z.Shows w)
    (hwalk : walk ask (pull :: pulls) cursor z = .ok pages) :
    ∃ page later, After w (pull.start z) later ∧ page.Continues results offset ∧
      (page.hasMore = true → 0 < page.items.length ∨ left later < left (pull.start z)) ∧
      (page.hasMore = false ∧ pages = [page] ∨
        page.hasMore = true ∧ ∃ rest, walk ask pulls page.nextCursor later = .ok rest ∧
          pages = page :: rest) := by
  obtain ⟨page, later, hpage, hafter, hcontinues, hprogress⟩ | ⟨_, e, later, he⟩ :=
    h.page_or_refused pull.timeUp pull.limit_pos hcursor (pull.start_shows hz)
  · refine ⟨page, later, hafter, hcontinues, hprogress, ?_⟩
    rw [walk, hpage] at hwalk
    cases hmore : page.hasMore with
    | false =>
      simp only [hmore] at hwalk
      cases hwalk
      exact .inl ⟨rfl, rfl⟩
    | true =>
      simp only [hmore] at hwalk
      cases hrest : walk ask pulls page.nextCursor later with
      | error e =>
        rw [hrest] at hwalk
        cases hwalk
      | ok rest =>
        rw [hrest] at hwalk
        cases hwalk
        exact .inr ⟨rfl, rest, rfl, rfl⟩
  · rw [walk, he] at hwalk
    cases hwalk

theorem Pageable.walk_covers (h : Pageable w ask results left)
    (hcursor : Window.StartsAt cursor offset) (hz : z.Shows w)
    (hwalk : walk ask pulls cursor z = .ok pages) : Page.Covers (results.drop offset) pages := by
  induction pulls generalizing cursor offset z pages with
  | nil =>
    cases hwalk
    exact Page.covers_nil _
  | cons pull pulls ih =>
    obtain ⟨page, later, hafter, hcontinues, _, ⟨hmore, rfl⟩ | ⟨hmore, rest, hrest, rfl⟩⟩ :=
      h.walk_cons hcursor hz hwalk
    · exact hcontinues.covers hmore
    · exact hcontinues.covers_cons hmore (ih (hcontinues.startsAt_next hmore) hafter.shows hrest)

theorem Pageable.walk_finished (h : Pageable w ask results left)
    (hcursor : Window.StartsAt cursor offset) (hz : z.Shows w)
    (hwalk : walk ask pulls cursor z = .ok pages) (hquiet : ∀ pull ∈ pulls, pull.Quiet)
    (hsteps : left z + (results.length - offset) < pulls.length) : Page.Finished pages := by
  induction pulls generalizing cursor offset z pages with
  | nil => cases hsteps
  | cons pull pulls ih =>
    obtain ⟨page, later, hafter, hcontinues, hprogress, hnext⟩ := h.walk_cons hcursor hz hwalk
    obtain ⟨hmore, rfl⟩ | ⟨hmore, rest, hrest, rfl⟩ := hnext
    · exact ⟨page, List.mem_cons_self, hmore⟩
    · rw [Page.finished_cons hmore]
      have hstart := h.left_antitone _ _
        (Pull.start_after (hquiet pull List.mem_cons_self) hz)
      have hlater := h.left_antitone _ _ hafter
      have hitems := hcontinues.length_le
      have hprogress := hprogress hmore
      rw [List.length_cons] at hsteps
      refine ih (hcontinues.startsAt_next hmore) hafter.shows hrest
        (fun p hp ↦ hquiet p (List.mem_cons_of_mem _ hp)) ?_
      omega

/-- Cursors within the results can be read if there are not too many of them. -/
theorem Pageable.walk_answers (h : Pageable w ask results left)
    (hlength : results.length < 0x10000000000000000) (hcursor : Window.StartsAt cursor offset)
    (hoffset : offset ≤ results.length) (hz : z.Shows w) (pulls : List Pull) :
    ∃ pages, walk ask pulls cursor z = .ok pages := by
  induction pulls generalizing cursor offset z with
  | nil => exact ⟨[], rfl⟩
  | cons pull pulls ih =>
    obtain ⟨page, later, hpage, hafter, hcontinues, _⟩ | ⟨hlarge, _⟩ :=
      h.page_or_refused pull.timeUp pull.limit_pos hcursor (pull.start_shows hz)
    · rw [walk, hpage]
      cases hmore : page.hasMore with
      | false => exact ⟨[page], by simp only [hmore]; rfl⟩
      | true =>
        have hitems := hcontinues.length_le
        obtain ⟨rest, hrest⟩ := ih (hcontinues.startsAt_next hmore) (by omega) hafter.shows
        exact ⟨page :: rest, by simp only [hmore, hrest]; rfl⟩
    · omega

theorem Pageable.conserves (h : Pageable w ask results left) (hz : z.Shows w) :
    Conserves w.assembly ask results z where
  answers hlength pulls _ := h.walk_answers hlength (.inl ⟨rfl, rfl⟩) (Nat.zero_le _) hz pulls
  covers _ _ := h.walk_covers (.inl ⟨rfl, rfl⟩) hz
  ends pulls pages hwalk hquiet hsteps := by
    have hleft := h.left_le z
    exact h.walk_finished (.inl ⟨rfl, rfl⟩) hz hwalk hquiet (by omega)

end Walks

section Queries

variable {w : Era}

theorem usages_pageable (hrows : w.assembly.RowsNumbered) {target : String} {s : Symbol}
    (hs : w.resolve? target = some s) :
    Pageable w (usages · target) (Usage.everyUse w.assembly s fun _ ↦ true)
      fun z ↦ methodsLeft w.assembly w.generation z.edgeScans (.usages s.token) where
  turns timeUp _ _ hwindow hv :=
    usages_turns timeUp hwindow hv hrows (by rw [World.require, hs])
  refuses _ _ _ he := answers_of_window_error he
  left_antitone _ _ h := h.edgeScans.methodsLeft_le _
  left_le _ := Nat.min_le_right _ _

theorem callers_pageable (hrows : w.assembly.RowsNumbered) {target : String} {m : MethodDef}
    (hm : w.resolve? target = some (.method m)) :
    Pageable w (callers · target) (Usage.everyUse w.assembly (.method m) Usage.isCall)
      fun z ↦ methodsLeft w.assembly w.generation z.edgeScans (.callers m.token) where
  turns timeUp _ _ hwindow hv :=
    callers_turns timeUp hwindow hv hrows (by rw [World.requireMethod, World.require, hm]; rfl)
  refuses _ _ _ he := answers_of_window_error he
  left_antitone _ _ h := h.edgeScans.methodsLeft_le _
  left_le _ := Nat.min_le_right _ _

theorem literals_pageable (w : Era) (pattern : String) (isPattern : Bool) :
    Pageable w (literals · pattern isPattern)
      (Usage.everyLiteral w.assembly (w.matcher pattern isPattern))
      fun z ↦ methodsLeft w.assembly w.generation z.literalScans ⟨pattern, isPattern⟩ where
  turns timeUp _ _ hwindow hv := literals_turns timeUp hwindow hv ⟨pattern, isPattern⟩
  refuses _ _ _ he := answers_of_window_error he
  left_antitone _ _ h := h.literalScans.methodsLeft_le _
  left_le _ := Nat.min_le_right _ _

end Queries

/-- At every point of a run the pages of a scan hold, in the end, what a single scan of all methods
finds, whatever is asked or emptied between them. A symbol's token tells its scan where rows are
numbered, as they are in all assemblies that come about. Specifications must not lead to themselves:
a scan names all types and follows all generic methods. Nor must types be nested in themselves where
source texts are asked for in between. -/
theorem run_conserves (config : Config) (engine : PatternEngine) (calls : List Call) {s : Snapshot}
    (hs : (run { config, engine } calls).snapshot = some s) (htypes : s.assembly.TypeSpecsEnd)
    (hspecs : s.assembly.MethodSpecsEnd) :
    let z := run { config, engine } calls
    let a := s.assembly
    a.TypesNamed ∧ a.SpecsFollowed ∧ (a.NestingEnds → a.TypesWritten) ∧
      (a.RowsNumbered → ∀ target x, (resolve? target z).1 = .ok (some x) →
        Conserves a (usages · target) (Usage.everyUse a x fun _ ↦ true) z ∧
          ∀ m, x = .method m →
            Conserves a (callers · target) (Usage.everyUse a x Usage.isCall) z) ∧
      (∀ pattern isPattern, Conserves a (literals · pattern isPattern)
        (Usage.everyLiteral a (.ofQuery engine pattern isPattern config.patternSizeLimit)) z) ∧
      ∀ b : Assembly, b.Produced → b.RowsNumbered := by
  intro z a
  have hsound : Sound config engine z := (sound_start config engine).run calls
  have hz : z.Shows ⟨⟨config, engine, a⟩, s.generation⟩ := hsound.shows s hs
  refine ⟨Assembly.typeSpecsEnd_iff.1 htypes, Assembly.methodSpecsEnd_iff.1 hspecs,
    Assembly.nestingEnds_iff.1, fun hrows target x hx ↦ ?_, fun pattern isPattern ↦ ?_, fun _ h ↦ h.rowsNumbered⟩
  · have hanswer := (resolve?_answers _ target z hz).1.symm.trans hx
    have hresolve := Except.ok.inj hanswer
    refine ⟨(usages_pageable hrows hresolve).conserves hz, ?_⟩
    rintro m rfl
    exact (callers_pageable hrows hresolve).conserves hz
  · exact (literals_pageable _ pattern isPattern).conserves hz

theorem run_conserves_callingItself :
    let z := run { config := {}, engine := fun _ _ ↦ none } [.install 0 .callingItself]
    Assembly.callingItself.TypeSpecsEnd ∧ Assembly.callingItself.MethodSpecsEnd ∧
      ∃ m, Assembly.callingItself.method? ⟨0x06000001⟩ = some m ∧
        (Usage.everyUse .callingItself (.method m) Usage.isCall).length = 1 ∧
        Conserves .callingItself (callers · "0x06000001")
          (Usage.everyUse .callingItself (.method m) Usage.isCall) z := by
  have hrows := Assembly.built_callingItself.rowsNumbered
  have htypes := Assembly.typeSpecsEnd_callingItself
  have hspecs := Assembly.methodSpecsEnd_callingItself
  obtain ⟨_, _, _, hedges, _⟩ :=
    run_conserves {} (fun _ _ ↦ none) [.install 0 .callingItself] rfl htypes hspecs
  exact ⟨htypes, hspecs, _, rfl, rfl, (hedges hrows "0x06000001" _ rfl).2 _ rfl⟩

end Analyzer

end CliMetadata
