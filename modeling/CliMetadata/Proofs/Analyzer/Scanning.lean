import CliMetadata.Proofs.Analyzer.Answers
import CliMetadata.Proofs.Page

namespace CliMetadata.Analyzer

section Cached

variable {κ α : Type} [DecidableEq κ] {generation : Nat} {a : Assembly} {s : Snapshot}

def scanFor (a : Assembly) (generation : Nat) (c : Cache κ (Scan α)) (key : κ) : Scan α :=
  (c.kept? generation key).getD (.ofAssembly a)

def methodsLeft (a : Assembly) (generation : Nat) (c : Cache κ (Scan α)) (key : κ) : Nat :=
  min (scanFor a generation c key).pending.length (Scan.methodOrder a).length

theorem ScansGoOn.methodsLeft_le {b c : Cache κ (Scan α)} (h : ScansGoOn generation b c) (key : κ) :
    methodsLeft a generation c key ≤ methodsLeft a generation b key := by
  rw [methodsLeft, methodsLeft, scanFor, scanFor]
  cases hb : b.kept? generation key with
  | none => exact Nat.le_trans (Nat.min_le_right _ _) (Nat.le_of_eq (Nat.min_self _).symm)
  | some scan =>
    obtain ⟨later, hlater, hle⟩ := h key scan hb
    rw [hlater, Option.getD_some, Option.getD_some]
    omega

variable (config : Config) (timeUp : Nat → Bool) (key : κ) (look : MethodDef → List α) (v : Window)
  (c : Cache κ (Scan α))

def scanAfter (s : Snapshot) : Scan α :=
  (scanFor s.assembly s.generation c key).advance config timeUp (Usage.lookIn s.assembly look)
    v.stop

theorem scanned_fst (s : Snapshot) : (scanned c s config timeUp key look v).1
    = if (scanAfter config timeUp key look v c s).isComplete
      then .complete (scanAfter config timeUp key look v c s).found v
      else .partway (scanAfter config timeUp key look v c s).found v := by
  have hscan := c.getOrInsert_fst s.generation key fun _ ↦ .ofAssembly s.assembly
  rw [scanAfter, scanFor, ← hscan]
  rfl

theorem kept?_scanned (s : Snapshot) (other : κ) :
    (scanned c s config timeUp key look v).2.kept? s.generation other
      = if other = key then some (scanAfter config timeUp key look v c s)
        else c.kept? s.generation other := by
  have hscan := c.getOrInsert_fst s.generation key fun _ ↦ .ofAssembly s.assembly
  have hother := c.kept?_getOrInsert_of_ne s.generation key other fun _ ↦ .ofAssembly s.assembly
  rw [scanAfter, scanFor, ← hscan]
  refine (Cache.kept?_insert ..).trans ?_
  split
  · rfl
  · next hne => exact hother hne

theorem scanned_goesOn (s : Snapshot) :
    ScansGoOn s.generation c (scanned c s config timeUp key look v).2 := by
  intro other scan hscan
  rw [kept?_scanned]
  split
  · next hother =>
    refine ⟨_, rfl, ?_⟩
    rw [hother] at hscan
    rw [scanAfter, scanFor, hscan]
    exact Scan.pending_length_advance_le ..
  · exact ⟨scan, hscan, Nat.le_refl _⟩

variable {key look c}

theorem progress_scanAfter
    (hc : ∀ scan, c.kept? s.generation key = some scan →
      scan.Progress (Usage.lookIn s.assembly look) (Scan.methodOrder s.assembly)) :
    (scanAfter config timeUp key look v c s).Progress (Usage.lookIn s.assembly look)
      (Scan.methodOrder s.assembly) := by
  rw [scanAfter, scanFor]
  refine Scan.Progress.advance _ _ _ _ ?_
  cases hscan : c.kept? s.generation key with
  | none => exact Scan.progress_start _ _
  | some scan => exact hc scan hscan

/-- A call gives a page that goes on with the results of all methods, and unless the page is the
last, it has items or fewer methods are left. -/
theorem scanned_page
    (hc : ∀ scan, c.kept? s.generation key = some scan →
      scan.Progress (Usage.lookIn s.assembly look) (Scan.methodOrder s.assembly)) :
    (scanned c s config timeUp key look v).1.Continues
        ((Scan.methodOrder s.assembly).flatMap (Usage.lookIn s.assembly look)) v.offset ∧
      (0 < v.limit → (scanned c s config timeUp key look v).1.hasMore = true →
        0 < (scanned c s config timeUp key look v).1.items.length ∨
          methodsLeft s.assembly s.generation (scanned c s config timeUp key look v).2 key
            < methodsLeft s.assembly s.generation c key) := by
  have hprogress := progress_scanAfter config timeUp v hc
  rw [scanned_fst]
  by_cases hcomplete : (scanAfter config timeUp key look v c s).isComplete = true
  · rw [if_pos hcomplete, ← hprogress.found_of_complete hcomplete]
    exact ⟨Page.complete_continues _ v, fun hv hmore ↦ .inl (Page.items_complete_ne_nil hv hmore)⟩
  · rw [if_neg hcomplete]
    refine ⟨Page.partway_continues hprogress.found_prefix v, fun hv _ ↦ ?_⟩
    obtain h | hwanted | hfewer := Scan.advance_gets_on config timeUp
      (Usage.lookIn s.assembly look) v.stop (scanFor s.assembly s.generation c key)
    · exact absurd h hcomplete
    · refine .inl (Page.items_partway_ne_nil hv (Nat.lt_of_le_of_lt ?_ hwanted))
      exact Nat.le_add_right v.offset v.limit
    · right
      have hleft : scanFor s.assembly s.generation (scanned c s config timeUp key look v).2 key
          = scanAfter config timeUp key look v c s := by
        rw [scanFor, kept?_scanned, if_pos rfl, Option.getD_some]
      have hle : (scanFor s.assembly s.generation c key).pending.length
          ≤ (Scan.methodOrder s.assembly).length := by
        rw [scanFor]
        cases hscan : c.kept? s.generation key with
        | none => exact Nat.le_refl _
        | some scan => exact (hc scan hscan).pending_length_le
      rw [methodsLeft, methodsLeft, hleft, scanAfter]
      omega

end Cached

section Queries

variable {w : Era}

variable {snapshot : Snapshot} {key : EdgeQuery} {s : Symbol} {pattern : LiteralQuery}
  {z : Analyzer}

abbrev edgeLook (snapshot : Snapshot) (key : EdgeQuery) (s : Symbol) : MethodDef → List UsageEdge :=
  Usage.edgesIn snapshot.assembly s (Usage.rolesOf snapshot.assembly s) key.wants

theorem lookIn_edgeLook (hs : snapshot.Shows w.assembly w.generation) (key : EdgeQuery)
    (s : Symbol) : Usage.lookIn snapshot.assembly (edgeLook snapshot key s) = w.edgesIn key s := by
  rw [World.edgesIn, edgeLook, hs.assembly_eq]

theorem edgeScans_progress (hs : snapshot.Shows w.assembly w.generation) (hz : z.Shows w)
    (hrows : w.assembly.RowsNumbered) (hnamed : w.assembly.named? key.target = some s)
    (scan : Scan UsageEdge) (hscan : z.edgeScans.kept? snapshot.generation key = some scan) :
    scan.Progress (Usage.lookIn snapshot.assembly (edgeLook snapshot key s))
      (Scan.methodOrder snapshot.assembly) := by
  rw [lookIn_edgeLook hs, hs.assembly_eq]
  rw [hs.generation_eq] at hscan
  exact hz.edgeScans hrows key scan hscan s hnamed

theorem scanned_edges_after (hs : snapshot.Shows w.assembly w.generation) (timeUp : Nat → Bool)
    (v : Window) (hnamed : w.assembly.RowsNumbered → w.assembly.named? key.target = some s)
    (hz : z.Shows w) :
    After w z { z with
      edgeScans := (scanned z.edgeScans snapshot z.config timeUp key (edgeLook snapshot key s) v).2
      } := by
  refine ⟨{ hz with edgeScans := ?_ }, ?_, .refl _ _⟩
  · intro hrows other scan hscan x hx
    rw [← hs.generation_eq, kept?_scanned, hs.generation_eq] at hscan
    split at hscan
    · next hother =>
      cases hscan
      rw [hother, hnamed hrows] at hx
      cases hx
      rw [hother, ← lookIn_edgeLook hs, ← hs.assembly_eq]
      exact progress_scanAfter z.config timeUp v (edgeScans_progress hs hz hrows (hnamed hrows))
    · exact hz.edgeScans hrows other scan hscan x hx
  · rw [← hs.generation_eq]
    exact scanned_goesOn z.config timeUp key (edgeLook snapshot key s) v z.edgeScans snapshot

abbrev literalLook (w : Era) (snapshot : Snapshot) (pattern : LiteralQuery) :
    MethodDef → List StringLiteral :=
  Usage.literalsIn snapshot.assembly (w.matcher pattern.pattern pattern.isPattern)

theorem lookIn_literalLook (hs : snapshot.Shows w.assembly w.generation) (pattern : LiteralQuery) :
    Usage.lookIn snapshot.assembly (literalLook w snapshot pattern) = w.literalsIn pattern := by
  rw [World.literalsIn, literalLook, hs.assembly_eq]

theorem literalScans_progress (hs : snapshot.Shows w.assembly w.generation) (hz : z.Shows w)
    (pattern : LiteralQuery) (scan : Scan StringLiteral)
    (hscan : z.literalScans.kept? snapshot.generation pattern = some scan) :
    scan.Progress (Usage.lookIn snapshot.assembly (literalLook w snapshot pattern))
      (Scan.methodOrder snapshot.assembly) := by
  rw [lookIn_literalLook hs, hs.assembly_eq]
  rw [hs.generation_eq] at hscan
  exact hz.literalScans pattern scan hscan

theorem scanned_literals_after (hs : snapshot.Shows w.assembly w.generation)
    (timeUp : Nat → Bool) (pattern : LiteralQuery) (v : Window) (hz : z.Shows w) :
    After w z { z with
      literalScans := (scanned z.literalScans snapshot z.config timeUp pattern
        (literalLook w snapshot pattern) v).2 } := by
  refine ⟨{ hz with literalScans := ?_ }, .refl _ _, ?_⟩
  · intro other scan hscan
    rw [← hs.generation_eq, kept?_scanned, hs.generation_eq] at hscan
    split at hscan
    · next hother =>
      cases hscan
      rw [hother, ← lookIn_literalLook hs, ← hs.assembly_eq]
      exact progress_scanAfter z.config timeUp v (literalScans_progress hs hz pattern)
    · exact hz.literalScans other scan hscan
  · rw [← hs.generation_eq]
    exact scanned_goesOn z.config timeUp pattern _ v z.literalScans snapshot

theorem scanEdges_keeps (timeUp : Nat → Bool) (key : EdgeQuery) (v : Window)
    (hnamed : w.assembly.RowsNumbered → w.assembly.named? key.target = some s) :
    Keeps w (scanEdges timeUp key s key.wants v) :=
  meets_loaded fun _ hs ↦ meets_change fun _ hz ↦
    ⟨trivial, scanned_edges_after hs timeUp v hnamed hz⟩

theorem usages_keeps (timeUp : Nat → Bool) (target : String) (request : PageRequest) :
    Keeps w (usages timeUp target request) := by
  refine meets_loaded fun _ _ ↦ (window_answers w request).bind_keeps fun v _ ↦ ?_
  refine (require_answers w target).bind_keeps fun s hs ↦ ?_
  exact scanEdges_keeps timeUp (.usages s.token) v fun hrows ↦ w.named?_of_require hrows hs

theorem callers_keeps (timeUp : Nat → Bool) (target : String) (request : PageRequest) :
    Keeps w (callers timeUp target request) := by
  refine meets_loaded fun _ _ ↦ (window_answers w request).bind_keeps fun v _ ↦ ?_
  refine (requireMethod_answers w target).bind_keeps fun m hm ↦ ?_
  refine scanEdges_keeps timeUp (.callers m.token) v fun hrows ↦ ?_
  exact w.named?_of_require hrows (World.require_of_requireMethod hm)

theorem literals_keeps (timeUp : Nat → Bool) (pattern : String) (isPattern : Bool)
    (request : PageRequest) : Keeps w (literals timeUp pattern isPattern request) := by
  refine meets_loaded fun _ hs ↦ (window_answers w request).bind_keeps fun v _ ↦ ?_
  refine (matcher_answers w pattern isPattern).ok_bind ?_
  exact meets_change fun _ hz ↦
    ⟨trivial, scanned_literals_after hs timeUp ⟨pattern, isPattern⟩ v hz⟩

end Queries

/-- A query for pages of results. From an analyzer of the world it gives a page that goes on behind
the first `offset` results, and unless that is the last page, it has items or takes something off
what is left to do. -/
def Turns {α : Type} (w : Era) (q : Query (Page α)) (results : List α) (offset : Nat)
    (left : Analyzer → Nat) : Prop :=
  ∀ z, z.Shows w → After w z (q z).2 ∧ ∃ page, (q z).1 = .ok page ∧ page.Continues results offset ∧
    (page.hasMore = true → 0 < page.items.length ∨ left (q z).2 < left z)

section Turns

variable {α β : Type} {w : Era} {results : List β} {offset : Nat} {left : Analyzer → Nat}

theorem Answers.ok_turns {q : Query α} {a : α} {f : α → Query (Page β)}
    (hq : Answers w q (.ok a)) (hf : Turns w (f a) results offset left)
    (hleft : ∀ y z, After w y z → left z ≤ left y) : Turns w (q >>= f) results offset left := by
  intro z hz
  obtain ⟨ha, hafter⟩ := hq z hz
  have hqz : q z = (.ok a, (q z).2) := Prod.ext ha rfl
  rw [Attempt.bind_of_ok hqz]
  obtain ⟨hlater, page, hpage, hcontinues, hmore⟩ := hf _ hafter.shows
  refine ⟨hafter.trans hlater, page, hpage, hcontinues, fun h ↦ ?_⟩
  obtain hitems | hless := hmore h
  · exact .inl hitems
  · exact .inr (Nat.lt_of_lt_of_le hless (hleft _ _ hafter))

theorem turns_loaded {f : Snapshot → Query (Page β)}
    (hf : ∀ s, s.Shows w.assembly w.generation → Turns w (f s) results offset left) :
    Turns w (loaded >>= f) results offset left := by
  intro z hz
  obtain ⟨s, hs, hshows⟩ := hz.snapshot
  have hloaded : loaded z = (.ok s, z) := by rw [loaded, hs]
  rw [Attempt.bind_of_ok hloaded]
  exact hf s hshows z hz

end Turns

section Walks

variable {w : Era} {timeUp : Nat → Bool} {request : PageRequest} {v : Window}

theorem scanEdges_turns (key : EdgeQuery) {s : Symbol} (hrows : w.assembly.RowsNumbered)
    (hnamed : w.assembly.named? key.target = some s) (timeUp : Nat → Bool) (hv : 0 < v.limit) :
    Turns w (scanEdges timeUp key s key.wants v)
      ((Scan.methodOrder w.assembly).flatMap (w.edgesIn key s)) v.offset
      fun z ↦ methodsLeft w.assembly w.generation z.edgeScans key := by
  refine turns_loaded fun snapshot hs z hz ↦ ?_
  obtain ⟨hcontinues, hmore⟩ := scanned_page z.config timeUp v
    (edgeScans_progress hs hz hrows hnamed)
  rw [lookIn_edgeLook hs, hs.assembly_eq] at hcontinues
  rw [hs.generation_eq, hs.assembly_eq] at hmore
  exact ⟨scanned_edges_after hs timeUp v (fun _ ↦ hnamed) hz, _, rfl, hcontinues, hmore hv⟩

variable (timeUp : Nat → Bool) (hwindow : w.window request = .ok v) (hv : 0 < v.limit)

include hwindow hv

theorem scanFound_turns {β : Type} (symbol : β → Symbol) (key : β → EdgeQuery)
    (hrows : w.assembly.RowsNumbered) {find : Query β} {b : β} (hfind : Answers w find (.ok b))
    (hnamed : w.assembly.named? (key b).target = some (symbol b)) :
    Turns w (loaded >>= fun _ ↦ window request >>= fun v ↦ find >>= fun b ↦
        scanEdges timeUp (key b) (symbol b) (key b).wants v)
      ((Scan.methodOrder w.assembly).flatMap (w.edgesIn (key b) (symbol b))) v.offset
      fun z ↦ methodsLeft w.assembly w.generation z.edgeScans (key b) := by
  have hw := window_answers w request
  rw [hwindow] at hw
  have hleft (y z : Analyzer) (h : After w y z) :=
    h.edgeScans.methodsLeft_le (a := w.assembly) (key b)
  refine turns_loaded fun _ _ ↦ hw.ok_turns (hfind.ok_turns ?_ hleft) hleft
  exact scanEdges_turns (key b) hrows hnamed timeUp hv

theorem usages_turns (hrows : w.assembly.RowsNumbered) {target : String} {s : Symbol}
    (hs : w.require target = .ok s) :
    Turns w (usages timeUp target request)
      ((Scan.methodOrder w.assembly).flatMap (w.edgesIn (.usages s.token) s)) v.offset
      fun z ↦ methodsLeft w.assembly w.generation z.edgeScans (.usages s.token) := by
  have hfind := require_answers w target
  rw [hs] at hfind
  exact scanFound_turns timeUp hwindow hv (fun s ↦ s) (fun s ↦ .usages s.token) hrows hfind
    (w.named?_of_require hrows hs)

theorem callers_turns (hrows : w.assembly.RowsNumbered) {target : String} {m : MethodDef}
    (hm : w.requireMethod target = .ok m) :
    Turns w (callers timeUp target request)
      ((Scan.methodOrder w.assembly).flatMap (w.edgesIn (.callers m.token) (.method m))) v.offset
      fun z ↦ methodsLeft w.assembly w.generation z.edgeScans (.callers m.token) := by
  have hfind := requireMethod_answers w target
  rw [hm] at hfind
  exact scanFound_turns timeUp hwindow hv .method (fun m ↦ .callers m.token) hrows hfind
    (w.named?_of_require hrows (World.require_of_requireMethod hm))

theorem literals_turns (pattern : LiteralQuery) :
    Turns w (literals timeUp pattern.pattern pattern.isPattern request)
      ((Scan.methodOrder w.assembly).flatMap (w.literalsIn pattern)) v.offset
      fun z ↦ methodsLeft w.assembly w.generation z.literalScans pattern := by
  have hw := window_answers w request
  rw [hwindow] at hw
  have hleft (y z : Analyzer) (h : After w y z) := h.literalScans.methodsLeft_le (a := w.assembly)
    pattern
  refine turns_loaded fun snapshot hs ↦ hw.ok_turns ?_ hleft
  refine (matcher_answers w _ _).ok_turns (fun z hz ↦ ?_) hleft
  obtain ⟨hcontinues, hmore⟩ := scanned_page z.config timeUp v (literalScans_progress hs hz pattern)
  rw [lookIn_literalLook hs, hs.assembly_eq] at hcontinues
  rw [hs.generation_eq, hs.assembly_eq] at hmore
  exact ⟨scanned_literals_after hs timeUp pattern v hz, _, rfl, hcontinues, hmore hv⟩

end Walks

end CliMetadata.Analyzer
