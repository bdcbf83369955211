import CliMetadata.Proofs.Analyzer.Run
import CliMetadata.Proofs.Assembly.Loaded

namespace CliMetadata

namespace Analyzer

/-- Analyzers with one answer to each query about names and to each search. -/
structure SameAnswers (x y : Analyzer) : Prop where
  symbol : ∀ input, (resolve? input x).1 = (resolve? input y).1
  summary : ∀ input, (summary? input x).1 = (summary? input y).1
  identifier : ∀ input, (normalize input x).1 = (normalize input y).1
  searchTypes : ∀ search, (searchTypes search x).1 = (searchTypes search y).1
  searchMembers : ∀ search, (searchMembers search x).1 = (searchMembers search y).1
  typesInNamespace : ∀ input page,
    (typesInNamespace input page x).1 = (typesInNamespace input page y).1
  membersOfType : ∀ input kinds page,
    (membersOfType input kinds page x).1 = (membersOfType input kinds page y).1
  namespaces : ∀ page, (namespaces page x).1 = (namespaces page y).1
  typesNamed : ∀ name, (typesNamed name x).1 = (typesNamed name y).1

/-- A new analyzer that did nothing but load an assembly, if there is one. -/
def fresh (config : Config) (engine : PatternEngine) (now : Nat) (a? : Option Assembly) :
    Analyzer :=
  run { config, engine } (a?.toList.map (.install now))

section Sound

variable {config : Config} {engine : PatternEngine} {x y : Analyzer}
  (hx : Sound config engine x) (hy : Sound config engine y)
  (hassembly : x.snapshot.map (·.assembly) = y.snapshot.map (·.assembly))

include hx hy hassembly

theorem Sound.same_answer {α : Type} (q : Query α) (answer : World → Except Error α)
    (hrefused : Refused q) (hanswer : ∀ w : Era, Answers w q (answer w.toWorld)) :
    (q x).1 = (q y).1 := by
  cases hs : x.snapshot with
  | none =>
    rw [hs, Option.map_none, eq_comm, Option.map_eq_none_iff] at hassembly
    rw [hrefused x hs, hrefused y hassembly]
  | some s =>
    rw [hs, Option.map_some, eq_comm, Option.map_eq_some_iff] at hassembly
    obtain ⟨t, ht, hassembly⟩ := hassembly
    have hyt := hy.shows t ht
    rw [hassembly] at hyt
    exact (hanswer _ x (hx.shows s hs)).1.trans (hanswer _ y hyt).1.symm

theorem Sound.sameAnswers : SameAnswers x y where
  symbol input := hx.same_answer hy hassembly (resolve? input) (fun w ↦ .ok (w.resolve? input))
    (refused_withResolver _) fun w ↦ resolve?_answers w input
  summary input := hx.same_answer hy hassembly (summary? input) (fun w ↦ .ok (w.summary? input))
    (refused_assembly.bind _) fun w ↦ summary?_answers w input
  identifier input := hx.same_answer hy hassembly (normalize input)
    (fun w ↦ .ok (w.normalize input)) (refused_identifierBy _ input)
    fun w ↦ normalize_answers w input
  searchTypes search := hx.same_answer hy hassembly (Analyzer.searchTypes search)
    (·.page (.types search)) (refused_assembly.bind _) fun w ↦ searchTypes_answers w search
  searchMembers search := hx.same_answer hy hassembly (Analyzer.searchMembers search)
    (·.page (.members search)) (refused_assembly.bind _) fun w ↦ searchMembers_answers w search
  typesInNamespace input page := hx.same_answer hy hassembly (Analyzer.typesInNamespace input page)
    (·.page (.namespaceTypes (NamespaceId.nameOf input) page)) (refused_assembly.bind _)
    fun w ↦ typesInNamespace_answers w input page
  membersOfType input kinds page := hx.same_answer hy hassembly
    (Analyzer.membersOfType input kinds page) (·.membersOfType input kinds page)
    (refused_assembly.bind _) fun w ↦ membersOfType_answers w input kinds page
  namespaces page := hx.same_answer hy hassembly (Analyzer.namespaces page) (·.namespaces page)
    (refused_assembly.bind _) fun w ↦ namespaces_answers w page
  typesNamed name := hx.same_answer hy hassembly (Analyzer.typesNamed name)
    (fun w ↦ .ok (w.typesNamed name)) (refused_assembly.bind _) fun w ↦ typesNamed_answers w name

theorem Sound.same_source (hrows : ∀ s, x.snapshot = some s → s.assembly.RowsNumbered)
    (target : String) (format : SourceFormat) :
    (decompile target format x).1.map SourceAnswer.content
      = (decompile target format y).1.map SourceAnswer.content := by
  cases hs : x.snapshot with
  | none =>
    rw [hs, Option.map_none, eq_comm, Option.map_eq_none_iff] at hassembly
    rw [decompile, refused_loaded.bind _ x hs, refused_loaded.bind _ y hassembly]
  | some s =>
    rw [hs, Option.map_some, eq_comm, Option.map_eq_some_iff] at hassembly
    obtain ⟨t, ht, hassembly⟩ := hassembly
    have hyt := hy.shows t ht
    rw [hassembly] at hyt
    have hrows := hrows s hs
    exact ((decompile_meets _ target format x (hx.shows s hs)).1 hrows).trans
      ((decompile_meets _ target format y hyt).1 hrows).symm

end Sound

theorem fresh_assembly (config : Config) (engine : PatternEngine) (now : Nat)
    (a? : Option Assembly) : (fresh config engine now a?).snapshot.map (·.assembly) = a? := by
  cases a? <;> rfl

/-- At every point of a run an analyzer answers like a new one that only loaded the assembly loaded
there: it does not matter what was asked, loaded and emptied before. Source texts are the same where
the rows of the assembly are numbered, as they are in all assemblies that come about. -/
theorem run_sameAnswers (config : Config) (engine : PatternEngine) (calls : List Call) (now : Nat) :
    let z := run { config, engine } calls
    let new := fresh config engine now (z.snapshot.map (·.assembly))
    SameAnswers z new ∧
      ((∀ s, z.snapshot = some s → s.assembly.RowsNumbered) → ∀ target format,
        (decompile target format z).1.map SourceAnswer.content
          = (decompile target format new).1.map SourceAnswer.content) ∧
      ∀ a : Assembly, a.Produced → a.RowsNumbered := by
  intro z new
  have hz : Sound config engine z := (sound_start config engine).run calls
  have hnew : Sound config engine new := (sound_start config engine).run _
  have hassembly := (fresh_assembly config engine now (z.snapshot.map (·.assembly))).symm
  exact ⟨hz.sameAnswers hnew hassembly, hz.same_source hnew hassembly, fun _ h ↦ h.rowsNumbered⟩

theorem run_sameAnswers_callingItself :
    let engine : PatternEngine := fun _ _ ↦ none
    let z := run { config := {}, engine } [.install 0 .callingItself, .unload,
      .install 1 .callingItself, .stay (.ask (.source "0x06000001" .il))]
    ∀ target format, (decompile target format z).1.map SourceAnswer.content
      = (decompile target format (fresh {} engine 0 (some .callingItself))).1.map
          SourceAnswer.content := by
  intro engine z
  obtain ⟨_, hsource, _⟩ := run_sameAnswers {} engine [.install 0 .callingItself, .unload,
    .install 1 .callingItself, .stay (.ask (.source "0x06000001" .il))] 0
  refine hsource fun s hs ↦ ?_
  cases hs
  exact Assembly.built_callingItself.rowsNumbered

end Analyzer

end CliMetadata
