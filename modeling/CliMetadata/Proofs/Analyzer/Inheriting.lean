import CliMetadata.Analyzer.Inheritance
import CliMetadata.Proofs.Analyzer.Identifying
import CliMetadata.Proofs.Analyzer.Searching
import CliMetadata.Proofs.Inheritance.Overriding

namespace CliMetadata

def Assembly.circleOfTypes : Assembly :=
  ([Draft.Edit.addType "App" "Hen" 1 (some ⟨0x02000002⟩),
    .addType "App" "Egg" 1 (some ⟨0x02000001⟩),
    .addType "App" "Chick" 1 (some ⟨0x02000001⟩)].foldl Draft.Edit.apply (.new "App")).build

def Assembly.overridingOnce : Assembly :=
  ([Draft.Edit.addType "App" "Bird" 1 none, .addType "App" "Hen" 1 (some ⟨0x02000001⟩),
    .addMethod ⟨0x02000001⟩ "Fly" 0x146 { result := { base := .void } },
    .addMethod ⟨0x02000002⟩ "Fly" 0x46 { result := { base := .void } }].foldl
      Draft.Edit.apply (.new "App")).build

namespace Analyzer

section Queries

variable {w : Era} {input : String}

theorem resolveType?_iff {z : Analyzer} (hz : z.Shows w) {t? : Option TypeDef} :
    (resolveType? input z).1 = .ok t? ↔ w.assembly.searchType? input = t? := by
  rw [(resolveType?_answers w input z hz).1, Except.ok.injEq]

theorem requireType_answers_ok {t : TypeDef} (ht : w.assembly.searchType? input = some t) :
    Answers w (requireType input) (.ok t) := by
  have hrequire := requireType_answers w input
  rwa [World.requireType, ht] at hrequire

theorem baseTypes_answers {t : TypeDef} (ht : w.assembly.searchType? input = some t) {limit : Nat}
    (hlimit : 0 < limit) : Answers w (baseTypes input limit)
      (.ok (Inheritance.baseTypes w.assembly w.config t limit)) := by
  rw [baseTypes, if_neg (Nat.pos_iff_ne_zero.1 hlimit)]
  exact (assembly_answers w).ok_bind <| (requireType_answers_ok ht).ok_bind <|
    (config?_answers w).ok_bind (answers_pure _)

theorem derivedTypes_answers {t : TypeDef} (ht : w.assembly.searchType? input = some t)
    {request : PageRequest} {v : Window} (hv : w.window request = .ok v) :
    Answers w (derivedTypes input request)
      (.ok (.complete (Inheritance.derivedTypes w.assembly w.config t.token) v)) := by
  have hwindow := window_answers w request
  rw [hv] at hwindow
  exact (assembly_answers w).ok_bind <| hwindow.ok_bind <| (requireType_answers_ok ht).ok_bind <|
    (config?_answers w).ok_bind (answers_pure _)

theorem derivedTypes_paged (hconfig : w.config.validate = .ok ()) {z : Analyzer} (hz : z.Shows w)
    (hrows : w.assembly.RowsNumbered) (hfew : w.assembly.types.size < 0x1000000) {t : TypeDef}
    (ht : w.assembly.searchType? input = some t) : Paged (derivedTypes input)
      (Inheritance.derivedTypes w.assembly w.config t.token) z := by
  have hmem := hrows.mem_of_searchType? ht
  have hlength := Inheritance.length_derivedTypes_le hrows hfew w.config hmem
  exact paged_of_answers hconfig hz (by omega) fun request v hv ↦ derivedTypes_answers ht hv

theorem searchType?_tokenText {t : TypeDef} (h : w.assembly.typeDef? t.token = some t) :
    w.assembly.searchType? t.token.text = some t := by
  have hfound : w.assembly.search? (trimmed t.token.text) = some (.type t) :=
    World.resolve?_tokenText (x := .type t) h
  rw [Assembly.searchType?, hfound]

theorem overrides_answers {m : MethodDef} (hm : w.resolve? input = some (.method m)) :
    Answers w (overrides input) (.ok (Inheritance.overridesOf w.assembly w.config m)) := by
  have hrequire := requireMethod_answers w input
  have hmethod : w.requireMethod input = .ok m := by
    rw [World.requireMethod, World.require, hm]
    rfl
  rw [hmethod] at hrequire
  exact (assembly_answers w).ok_bind <| hrequire.ok_bind <|
    (config?_answers w).ok_bind (answers_pure _)

end Queries

section Overriding

/-- A query about the first method gives the second as the one that it overrides. -/
def SaysOverrides (a : Assembly) (z : Analyzer) (n m : MethodDef) : Prop :=
  ∃ input o, (resolve? input z).1 = .ok (some (.method n)) ∧ (overrides input z).1 = .ok o ∧
    o.baseDefinition = some ((Symbol.method m).summary a)

variable {w : Era} {z : Analyzer} (hz : z.Shows w) (hrows : w.assembly.RowsNumbered)
  (hfew : w.assembly.TokensSuffice) {m n : MethodDef}

include hrows hfew

theorem mem_of_resolve? {input : String} (h : w.resolve? input = some (.method n)) :
    n ∈ w.assembly.methods := by
  have hfound : w.assembly.method? n.token = some n := hrows.standsAt_of_search? hfew.types h
  exact Assembly.mem_of_rowOf? hfound

theorem resolve?_methodToken (hn : n ∈ w.assembly.methods) :
    w.resolve? n.token.text = some (.method n) := by
  have hfound : w.assembly.method? n.token = some n := hrows.methods.rowOf?_token hfew.methods hn
  exact World.resolve?_tokenText (x := .method n) hfound

include hz

theorem saysOverrides_iff (hlists : w.assembly.MembersListed)
    (hm : m ∈ w.assembly.methods) : SaysOverrides w.assembly z n m ↔
      n ∈ w.assembly.methods ∧ Inheritance.overridden? w.assembly w.config n = some m := by
  constructor
  · rintro ⟨input, o, hinput, ho, hbase⟩
    rw [resolve?_iff hz] at hinput
    refine ⟨mem_of_resolve? hrows hfew hinput, ?_⟩
    cases ho.symm.trans (overrides_answers hinput z hz).1
    obtain ⟨b, hb, hsummary⟩ := Option.map_eq_some_iff.1 hbase
    obtain ⟨_, hmem, _⟩ := Inheritance.above_of_overridden? hrows hfew hlists hb
    have htoken : b.token = m.token :=
      congrArg (fun x : Symbol.Summary ↦ x.id.token) hsummary
    rwa [hrows.methods.eq_of_key hfew.methods hmem hm htoken] at hb
  · rintro ⟨hn, hstep⟩
    have hinput := resolve?_methodToken hrows hfew hn
    refine ⟨_, _, (resolve?_iff hz).2 hinput, (overrides_answers hinput z hz).1, ?_⟩
    rw [Inheritance.overridesOf, hstep, Option.map_some]

theorem transGen_saysOverrides_iff (hlists : w.assembly.MembersListed)
    (hm : m ∈ w.assembly.methods)
    (hn : n ∈ w.assembly.methods) : Relation.TransGen (SaysOverrides w.assembly z) n m ↔
      Inheritance.Ascends w.assembly w.config n m := by
  have hiff {x y : MethodDef} := saysOverrides_iff hz hrows hfew hlists (m := y) (n := x)
  constructor
  · intro h
    clear hn
    suffices n ∈ w.assembly.methods ∧ Inheritance.Ascends w.assembly w.config n m from this.2
    induction h using Relation.TransGen.head_induction_on with
    | single hstep =>
      obtain ⟨hmem, hstep⟩ := (hiff hm).1 hstep
      exact ⟨hmem, .single hstep⟩
    | head hstep _ ih =>
      obtain ⟨hmem, hstep⟩ := (hiff ih.1).1 hstep
      exact ⟨hmem, .head hstep ih.2⟩
  · intro h
    induction h using Relation.TransGen.head_induction_on with
    | single hstep => exact .single ((hiff hm).2 ⟨hn, hstep⟩)
    | head hstep _ ih =>
      obtain ⟨_, hmem, _⟩ := Inheritance.above_of_overridden? hrows hfew hlists hstep
      exact .head ((hiff hmem).2 ⟨hn, hstep⟩) (ih hmem)

end Overriding

/-- At every point of a run, with valid settings, a type is a base of another at some depth exactly
if the other is among its derived types at that depth. Neither list has a type twice or the type
that was asked for. Type specifications must not mention themselves: the lists name the types. -/
theorem run_basesMirrorDerived {config : Config} (hconfig : config.validate = .ok ())
    (engine : PatternEngine) (calls : List Call) {s : Snapshot}
    (hs : (run { config, engine } calls).snapshot = some s) (hbuilt : s.assembly.Built)
    (hfew : s.assembly.types.size < 0x1000000)
    (hnames : ∀ t ∈ s.assembly.types, t.fullName ≠ Inheritance.rootName)
    (hends : s.assembly.TypeSpecsEnd) :
    let z := run { config, engine } calls
    let a := s.assembly
    a.TypesNamed ∧
      (∀ t ∈ a.types, ∃ input, (resolveType? input z).1 = .ok (some t)) ∧
      ∀ below above t u limit, (resolveType? below z).1 = .ok (some t) →
        (resolveType? above z).1 = .ok (some u) → 0 < limit → config.maxInheritanceDepth ≤ limit →
        ∃ bases derived, (baseTypes above limit z).1 = .ok bases ∧
          Paged (derivedTypes below) derived z ∧
          (∀ d, Inheritance.Occurs a t d bases ↔ Inheritance.Occurs a u d derived) ∧
          Inheritance.OthersOnce a u bases ∧ Inheritance.OthersOnce a t derived := by
  intro z a
  have hz : z.Shows ⟨⟨config, engine, a⟩, s.generation⟩ :=
    ((sound_start config engine).run calls).shows s hs
  have hrows : a.RowsNumbered := hbuilt.rowsNumbered
  refine ⟨Assembly.typeSpecsEnd_iff.1 hends,
    fun t ht ↦ ⟨t.token.text, (resolveType?_iff hz).2 ?_⟩, ?_⟩
  · exact searchType?_tokenText (hrows.typeDef?_token hfew ht)
  intro below above t u limit hbelow habove hlimit hdepth
  rw [resolveType?_iff hz] at hbelow habove
  have ht : t ∈ a.types := hrows.mem_of_searchType? hbelow
  have hu : u ∈ a.types := hrows.mem_of_searchType? habove
  refine ⟨Inheritance.baseTypes a config u limit, Inheritance.derivedTypes a config t.token,
    (baseTypes_answers habove hlimit z hz).1, derivedTypes_paged hconfig hz hrows hfew hbelow,
    fun d ↦ ?_, Inheritance.othersOnce_baseTypes config u limit,
    Inheritance.othersOnce_derivedTypes hrows hfew config ht⟩
  rw [Inheritance.occurs_baseTypes_iff hrows hfew config ht hu hnames,
    Inheritance.occurs_derivedTypes_iff hrows hfew config ht hu, Nat.min_eq_right hdepth]

theorem run_basesMirrorDerived_circleOfTypes :
    let a := Assembly.circleOfTypes
    let z := run { config := {}, engine := fun _ _ ↦ none } [.install 0 a]
    Config.validate {} = .ok () ∧ a.Built ∧ a.types.size < 0x1000000 ∧
      (∀ t ∈ a.types, t.fullName ≠ Inheritance.rootName) ∧ a.TypeSpecsEnd ∧
      ∃ t u bases derived, (resolveType? "App.Egg" z).1 = .ok (some t) ∧
        (resolveType? "App.Chick" z).1 = .ok (some u) ∧
        (baseTypes "App.Chick" 64 z).1 = .ok bases ∧ Paged (derivedTypes "App.Egg") derived z ∧
        Inheritance.Occurs a t 2 bases ∧ Inheritance.Occurs a u 2 derived := by
  intro a z
  have hvalid : Config.validate {} = .ok () := rfl
  have hbuilt : a.Built := ⟨_, .edits (.new "App") _, rfl⟩
  have hfew : a.types.size < 0x1000000 := by decide
  have hnames : ∀ t ∈ a.types, t.fullName ≠ Inheritance.rootName := by decide
  have hends : a.TypeSpecsEnd := hbuilt.rowsNumbered.typeSpecsEnd (by decide)
  obtain ⟨_, _, hmirror⟩ := run_basesMirrorDerived hvalid (fun _ _ ↦ none) [.install 0 a] rfl hbuilt
    hfew hnames hends
  have hegg : (resolveType? "App.Egg" z).1 = .ok (some a.types[1]) := rfl
  have hchick : (resolveType? "App.Chick" z).1 = .ok (some a.types[2]) := rfl
  obtain ⟨bases, derived, hbases, hderived, hiff, _, _⟩ :=
    hmirror "App.Egg" "App.Chick" _ _ 64 hegg hchick (by decide) (by decide)
  have hoccurs : Inheritance.Occurs a a.types[1] 2 bases := by
    have hanswer : (baseTypes "App.Chick" 64 z).1
        = .ok [.ofType a a.types[0] 1, .ofType a a.types[1] 2] := rfl
    cases hbases.symm.trans hanswer
    exact ⟨.ofType a a.types[1] 2, by simp, rfl, rfl⟩
  exact ⟨hvalid, hbuilt, hfew, hnames, hends, _, _, bases, derived, hegg, hchick, hbases, hderived,
    hoccurs, (hiff 2).1 hoccurs⟩

/-- At every point of a run a method is said to be overridden by exactly the methods from which one
comes to it by asking, again and again, what a method overrides; by each of them once. All methods
have to be listed by their types, and all chains of base types have to end within the configured
depth. Type specifications must not mention themselves: parameter types are compared by name. -/
theorem run_overridesMirrored (config : Config) (engine : PatternEngine) (calls : List Call)
    {s : Snapshot} (hs : (run { config, engine } calls).snapshot = some s)
    (hbuilt : s.assembly.Built) (hfew : s.assembly.TokensSuffice)
    (hlisted : s.assembly.MethodsListed)
    (hchains : Inheritance.ChainsWithin s.assembly config.maxInheritanceDepth)
    (hends : s.assembly.TypeSpecsEnd) :
    let z := run { config, engine } calls
    let a := s.assembly
    a.TypesNamed ∧
      (∀ m ∈ a.methods, ∃ input, (resolve? input z).1 = .ok (some (.method m))) ∧
      ∀ target m, (resolve? target z).1 = .ok (some (.method m)) →
        ∃ o, (overrides target z).1 = .ok o ∧ (o.overriddenBy.map (·.id)).Nodup ∧
          ∀ n ∈ a.methods, (Symbol.method n).id a.mvid ∈ o.overriddenBy.map (·.id) ↔
            Relation.TransGen (SaysOverrides a z) n m := by
  intro z a
  have hz : z.Shows ⟨⟨config, engine, a⟩, s.generation⟩ :=
    ((sound_start config engine).run calls).shows s hs
  have hrows : a.RowsNumbered := hbuilt.rowsNumbered
  have hlists : a.MembersListed := hbuilt.membersListed
  refine ⟨Assembly.typeSpecsEnd_iff.1 hends,
    fun m hm ↦ ⟨_, (resolve?_iff hz).2 (resolve?_methodToken hrows hfew hm)⟩, ?_⟩
  intro target m htarget
  rw [resolve?_iff hz] at htarget
  have hm : m ∈ a.methods := mem_of_resolve? hrows hfew htarget
  obtain ⟨hnodup, hiff⟩ :=
    Inheritance.overriddenBy_iff_ascends hrows hfew hlists config hlisted hchains hm
  refine ⟨_, (overrides_answers htarget z hz).1, hnodup, fun n hn ↦ ?_⟩
  rw [hiff n hn, transGen_saysOverrides_iff hz hrows hfew hlists hm hn]

theorem run_overridesMirrored_overridingOnce :
    let a := Assembly.overridingOnce
    let z := run { config := {}, engine := fun _ _ ↦ none } [.install 0 a]
    a.Built ∧ a.TokensSuffice ∧ a.MethodsListed ∧
      Inheritance.ChainsWithin a ({} : Config).maxInheritanceDepth ∧ a.TypeSpecsEnd ∧
      ∃ m ∈ a.methods, ∃ n ∈ a.methods, (resolve? "0x06000001" z).1 = .ok (some (.method m)) ∧
        SaysOverrides a z n m ∧ ∃ o, (overrides "0x06000001" z).1 = .ok o ∧
          (Symbol.method n).id a.mvid ∈ o.overriddenBy.map (·.id) := by
  intro a z
  have hbuilt : a.Built := ⟨_, .edits (.new "App") _, rfl⟩
  have hfew : a.TokensSuffice := ⟨by decide, by decide, by decide, by decide, by decide⟩
  have hlisted : a.MethodsListed := by
    rw [Assembly.MethodsListed]
    decide
  have hchains : Inheritance.ChainsWithin a ({} : Config).maxInheritanceDepth := by
    rw [Inheritance.ChainsWithin]
    decide
  have hends : a.TypeSpecsEnd := hbuilt.rowsNumbered.typeSpecsEnd (by decide)
  obtain ⟨_, _, hmirror⟩ := run_overridesMirrored {} (fun _ _ ↦ none) [.install 0 a] rfl hbuilt hfew
    hlisted hchains hends
  have hm : (resolve? "0x06000001" z).1 = .ok (some (.method a.methods[0])) := rfl
  have hbase : Inheritance.overridden? a {} a.methods[1] = some a.methods[0] := by decide
  have hstep : SaysOverrides a z a.methods[1] a.methods[0] := by
    refine ⟨"0x06000002", Inheritance.overridesOf a {} a.methods[1], rfl, rfl, ?_⟩
    rw [Inheritance.overridesOf, hbase, Option.map_some]
  obtain ⟨o, ho, _, hiff⟩ := hmirror "0x06000001" _ hm
  exact ⟨hbuilt, hfew, hlisted, hchains, hends, _, Array.getElem_mem _, _, Array.getElem_mem _, hm,
    hstep, o, ho, (hiff _ (Array.getElem_mem _)).2 (.single hstep)⟩

end Analyzer

end CliMetadata
