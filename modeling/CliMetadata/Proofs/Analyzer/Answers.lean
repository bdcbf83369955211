import CliMetadata.Proofs.Analyzer.Asking

namespace CliMetadata

theorem World.page_of_window {w : World} (key : SearchKey) {v : Window}
    (h : w.window key.request = .ok v) :
    w.page key = .ok (Search.pageOf w.assembly (w.hits key) v) := by
  rw [page, h]
  rfl

theorem World.page_of_window_error {w : World} {key : SearchKey} {e : Error}
    (h : w.window key.request = .error e) : w.page key = .error e := by
  rw [page, h]
  rfl

/-- The symbol that a text names is the only one with its token, where rows are numbered. -/
theorem World.named?_of_require (w : World) (hrows : w.assembly.RowsNumbered) {input : String}
    {s : Symbol} (h : w.require input = .ok s) : w.assembly.named? s.token = some s := by
  rw [require] at h
  split at h
  · next found hfound =>
    cases h
    exact hrows.named?_of_search? hfound
  · cases h

theorem World.require_of_requireMethod {w : World} {input : String} {m : MethodDef}
    (h : w.requireMethod input = .ok m) : w.require input = .ok (.method m) := by
  obtain ⟨s, hs, h⟩ := Attempt.except_bind_eq_ok_iff.1 h
  cases s with
  | method row =>
    cases h
    exact hs
  | _ => cases h

def SourceAnswer.content (x : SourceAnswer) : MemberId × SourceFormat × SourceText :=
  (x.id, x.format, x.source)

namespace Analyzer

variable (w : Era)

theorem summary?_answers (input : String) :
    Answers w (summary? input) (.ok (w.summary? input)) :=
  (assembly_answers w).ok_bind ((resolve?_answers w input).ok_bind (answers_pure _))

theorem namespaceOf?_answers (input : String) :
    Answers w (namespaceOf? input) (.ok (w.namespaceOf? input)) :=
  (withSnapshot_answers (Snapshot.useNamespaceTypes_gives w.assembly)).ok_bind (answers_pure _)

theorem identifierBy_answers {resolve : String → Query (Option Symbol)} (input : String)
    (h : Answers w (resolve input) (.ok (w.resolve? input))) :
    Answers w (identifierBy resolve input) (.ok (w.normalize input)) := by
  rw [identifierBy, World.normalize]
  split
  · exact (namespaceOf?_answers w input).ok_bind (answers_pure _)
  · exact (assembly_answers w).ok_bind (h.ok_bind (answers_pure _))

theorem normalize_answers (input : String) :
    Answers w (normalize input) (.ok (w.normalize input)) :=
  identifierBy_answers w input (resolve?_answers w input)

theorem storePage_answers {key : SearchKey} {page : Page Symbol.Summary}
    (h : w.page key = .ok page) :
    Answers w (Attempt.update fun z ↦
      (page, { z with pages := z.pages.insert key w.generation page })) (.ok page) := by
  refine meets_change fun z hz ↦ ⟨rfl, { hz with pages := ?_ }, .refl _ _, .refl _ _⟩
  intro other stored hstored
  rw [Cache.kept?_insert] at hstored
  split at hstored
  · next hother =>
    cases hstored
    rw [hother, h]
  · exact hz.pages other stored hstored

theorem keptPage_answers {key : SearchKey} {make : Query (Page Symbol.Summary)}
    (hmake : Answers w make (w.page key)) : Answers w (keptPage key make) (w.page key) := by
  refine meets_loaded fun s hs ↦ meets_update fun z hz ↦ ?_
  rw [hs.generation_eq]
  have hvalue := z.pages.get_fst w.generation key
  have hkept := z.pages.kept?_get w.generation key
  generalize z.pages.get key w.generation = lookup at hvalue hkept ⊢
  obtain ⟨page?, pages⟩ := lookup
  refine ⟨⟨{ hz with pages := ?_ }, .refl _ _, .refl _ _⟩, ?_⟩
  · exact fun other page h ↦ hz.pages other page ((hkept other).symm.trans h)
  · cases page? with
    | some page =>
      rw [hz.pages key page hvalue.symm]
      exact answers_pure page
    | none =>
      refine hmake.bind_meets (fun page hpage ↦ ?_) fun e he ↦ he.symm
      rw [hpage]
      exact storePage_answers w hpage

theorem typesAmong_answers (namespaceName : Option String) :
    Answers w (typesAmong namespaceName) (.ok (w.typesAmong namespaceName)) := by
  refine (assembly_answers w).ok_bind ?_
  cases namespaceName with
  | none => exact answers_pure _
  | some input =>
    exact (withSnapshot_answers (Snapshot.useNamespaceTypes_gives w.assembly)).ok_bind
      (answers_pure _)

theorem onlyType_answers (input : Option String) (types : List TypeDef) :
    Answers w (onlyType input types) (.ok (w.onlyType input types)) := by
  cases input with
  | none => exact answers_pure types
  | some input => exact (resolveType?_answers w input).ok_bind (answers_pure _)

theorem search_answers (key : SearchKey) {f : Window → Query (Page Symbol.Summary)}
    (hf : ∀ v, Answers w (f v) (.ok (Search.pageOf w.assembly (w.hits key) v))) :
    Answers w (do let v ← window key.request
                  keptPage key (f v)) (w.page key) :=
  (window_answers w key.request).bind_meets
    (fun v hv ↦ keptPage_answers w ((World.page_of_window key hv).symm ▸ hf v))
    fun _ he ↦ (World.page_of_window_error he).symm

theorem searchTypes_answers (search : TypeSearch) :
    Answers w (searchTypes search) (w.page (.types search)) :=
  (assembly_answers w).ok_bind <| search_answers w (.types search) fun _ ↦
    (matcher_answers w _ _).ok_bind ((typesAmong_answers w _).ok_bind (answers_pure _))

theorem searchMembers_answers (search : MemberSearch) :
    Answers w (searchMembers search) (w.page (.members search)) :=
  (assembly_answers w).ok_bind <| search_answers w (.members search) fun _ ↦
    (matcher_answers w _ _).ok_bind ((typesAmong_answers w _).ok_bind
      ((onlyType_answers w _ _).ok_bind (answers_pure _)))

theorem typesInNamespace_answers (input : String) (request : PageRequest) :
    Answers w (typesInNamespace input request)
      (w.page (.namespaceTypes (NamespaceId.nameOf input) request)) :=
  (assembly_answers w).ok_bind <|
    search_answers w (.namespaceTypes (NamespaceId.nameOf input) request) fun _ ↦
      (typesAmong_answers w _).ok_bind (answers_pure _)

theorem membersOfType_answers (input : String) (kinds : List MemberKind) (request : PageRequest) :
    Answers w (membersOfType input kinds request) (w.membersOfType input kinds request) := by
  refine (assembly_answers w).ok_bind ((window_answers w request).bind fun v hv ↦ ?_)
  refine (requireType_answers w input).bind fun owner _ ↦ keptPage_answers w ?_
  rw [World.page_of_window (.typeMembers owner.token kinds request) hv]
  exact answers_pure _

theorem namespaces_answers (request : PageRequest) :
    Answers w (namespaces request) (w.namespaces request) :=
  (assembly_answers w).ok_bind <| (window_answers w request).bind fun _ _ ↦
    (withSnapshot_answers (Snapshot.useNamespaces_gives w.assembly)).ok_bind (answers_pure _)

theorem typesNamed_answers (name : String) :
    Answers w (typesNamed name) (.ok (w.typesNamed name)) :=
  (assembly_answers w).ok_bind <|
    (withSnapshot_answers (Snapshot.useTypeNames_gives w.assembly)).ok_bind (answers_pure _)

theorem render_answers (s : Symbol) (format : SourceFormat) :
    Answers w (render w.assembly s format) (w.source s format) :=
  answers_of_eq fun z hz ↦ by rw [render, hz.decompilers_eq, World.source]

theorem storeSource_after {s : Symbol} {format : SourceFormat} {source : SourceText}
    (hnamed : w.assembly.RowsNumbered → w.assembly.named? s.token = some s)
    (h : w.source s format = .ok source) {z : Analyzer} (hz : z.Shows w) :
    After w z { z with sources := z.sources.insert ⟨s.token, format⟩ w.generation source } := by
  refine ⟨{ hz with sources := ?_ }, .refl _ _, .refl _ _⟩
  intro hrows key stored hstored x hx
  rw [Cache.kept?_insert] at hstored
  split at hstored
  · next hkey =>
    cases hstored
    rw [hkey, hnamed hrows] at hx
    cases hx
    rw [hkey, h]
  · exact hz.sources hrows key stored hstored x hx

/-- A symbol's text is the text that would be made now, where rows are numbered. -/
theorem decompile_meets (target : String) (format : SourceFormat) :
    Meets w (decompile target format) fun answer ↦ w.assembly.RowsNumbered →
      answer.map SourceAnswer.content = w.decompile target format := by
  refine meets_loaded fun snapshot hs ↦ ?_
  refine (require_answers w target).bind_meets (fun s hrequire ↦ ?_) ?_
  · have hnamed (hrows : w.assembly.RowsNumbered) := w.named?_of_require hrows hrequire
    have hdecompile : w.decompile target format
        = (w.source s format).map fun source ↦ (s.id w.assembly.mvid, format, source) := by
      rw [World.decompile, hrequire]
      rfl
    rw [hs.assembly_eq, hs.generation_eq]
    refine meets_update fun z hz ↦ ?_
    have hvalue := z.sources.get_fst w.generation ⟨s.token, format⟩
    have hkept := z.sources.kept?_get w.generation ⟨s.token, format⟩
    generalize z.sources.get ⟨s.token, format⟩ w.generation = lookup at hvalue hkept ⊢
    obtain ⟨source?, sources⟩ := lookup
    refine ⟨⟨{ hz with sources := ?_ }, .refl _ _, .refl _ _⟩, ?_⟩
    · exact fun hrows key text h ↦ hz.sources hrows key text ((hkept key).symm.trans h)
    · cases source? with
      | some source =>
        refine (answers_pure _).meets fun hrows ↦ ?_
        rw [hdecompile, hz.sources hrows _ source hvalue.symm s (hnamed hrows)]
        rfl
      | none =>
        rw [hdecompile]
        refine (render_answers w s format).bind_meets (fun source hsource ↦ ?_) fun e he _ ↦ ?_
        · rw [hsource]
          exact meets_change fun y hy ↦ ⟨fun _ ↦ rfl, storeSource_after w hnamed hsource hy⟩
        · rw [he]
          rfl
  · intro e he _
    rw [World.decompile, he]
    rfl

end Analyzer

end CliMetadata
