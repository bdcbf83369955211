import CliMetadata.Proofs.Analyzer.Run
import CliMetadata.Proofs.Analyzer.Identifying
import CliMetadata.Proofs.Assembly.Ending
import CliMetadata.Proofs.DocumentationId.ParameterTypes

namespace CliMetadata

open DocumentationId (Plain Separable)

namespace Assembly

def explicitImplementation : Assembly :=
  ([Draft.Edit.addType "App" "Cart" 1 none,
    .addMethod ⟨0x02000001⟩ "Clear" 0x6 { hasThis := true, result := { base := .void } },
    .addMethod ⟨0x02000001⟩ "System.IDisposable.Dispose" 0x1E1
      { hasThis := true, result := { base := .void } }].foldl Draft.Edit.apply (.new "App")).build

theorem built_explicitImplementation : explicitImplementation.Built :=
  ⟨_, .edits (.new "App") _, rfl⟩

theorem tokensSuffice_explicitImplementation : explicitImplementation.TokensSuffice :=
  ⟨by decide, by decide, by decide, by decide, by decide⟩

def callingBack : Assembly :=
  ([Draft.Edit.addType "App" "Native" 1 none,
    .addMethod ⟨0x02000001⟩ "Call" 0x16
      { result := { base := .void }, params := [{ base := .pointer .void }] },
    .addMethod ⟨0x02000001⟩ "Call" 0x16
      { result := { base := .void }
        params := [{ base := .function { result := { base := .void } } }] }].foldl
    Draft.Edit.apply (.new "App")).build

theorem built_callingBack : callingBack.Built := ⟨_, .edits (.new "App") _, rfl⟩

theorem tokensSuffice_callingBack : callingBack.TokensSuffice :=
  ⟨by decide, by decide, by decide, by decide, by decide⟩

theorem namesPlain_callingBack : callingBack.NamesPlain :=
  ⟨by decide, by decide +kernel, by decide⟩

def nameless : Assembly :=
  ([Draft.Edit.addType "" "" 1 none].foldl Draft.Edit.apply (.new "App")).build

end Assembly

namespace Analyzer

/-- At every point of a run the full name of a member, behind the letter of its kind, leads to a
member of its kind with this full name exactly if one of those has a name that is told apart from
the name of its type. -/
theorem run_fullNames (config : Config) (engine : PatternEngine) (calls : List Call)
    {s : Snapshot} (hs : (run { config, engine } calls).snapshot = some s)
    (hbuilt : s.assembly.Built) (hfew : s.assembly.TokensSuffice)
    (hdistinct : s.assembly.FullNamesDistinct) (hplain : ∀ t ∈ s.assembly.types, Plain t.fullName) :
    let z := run { config, engine } calls
    let a := s.assembly
    ∀ t ∈ a.types, ∀ x, a.HasMember t x → x.kind ≠ .type → Plain x.name → '\x60' ∉ x.name.toList →
      ((∃ y, (resolve? (x.kind.lettered (x.fullName a)) z).1 = .ok (some y) ∧ y.kind = x.kind ∧
          y.fullName a = x.fullName a) ↔
        ∃ u ∈ a.types, ∃ y, a.HasMember u y ∧ y.kind = x.kind ∧ y.fullName a = x.fullName a ∧
          Separable u.fullName y.name) := by
  intro z a t ht x hx hkind hname hmark
  have hz : z.Shows ⟨⟨config, engine, a⟩, s.generation⟩ :=
    ((sound_start config engine).run calls).shows s hs
  have hfull : Plain (x.fullName a) := by
    have htext := World.fullName_of_hasMember (w := ⟨config, engine, a⟩) hbuilt hfew ht hx hkind
    rw [htext]
    exact ((hplain t ht).append (by decide)).append hname
  simp only [resolve?_iff hz]
  exact World.resolve?_fullName_iff (w := ⟨config, engine, a⟩) hbuilt hfew hdistinct ht hx hkind
    hfull hmark

theorem run_fullNames_explicitImplementation :
    let a := Assembly.explicitImplementation
    let z := run { config := {}, engine := fun _ _ ↦ none } [.install 0 a]
    ∃ m ∈ a.methods, ∃ y, (resolve? "M:App.Cart.Clear" z).1 = .ok (some y) ∧ y.kind = .method ∧
      y.fullName a = (Symbol.method m).fullName a := by
  intro a z
  have hclear : a.HasMember a.types[0] (.method a.methods[0]) := ⟨by decide, by decide⟩
  have hiff := run_fullNames {} (fun _ _ ↦ none) [.install 0 a] rfl
    Assembly.built_explicitImplementation Assembly.tokensSuffice_explicitImplementation
    (List.nodup_singleton _) (by decide) a.types[0] (Array.getElem_mem _) (.method a.methods[0])
    hclear (by decide) (by decide) (by decide)
  have htext : (Symbol.method a.methods[0]).kind.lettered ((Symbol.method a.methods[0]).fullName a)
      = "M:App.Cart.Clear" := by decide
  rw [htext] at hiff
  refine ⟨a.methods[0], Array.getElem_mem _, hiff.2 ?_⟩
  exact ⟨a.types[0], Array.getElem_mem _, _, hclear, rfl, rfl, .inr (.inr (by decide))⟩

/-- A method that implements an interface explicitly has the name of the interface in its own. Its
full name leads to nothing. -/
theorem not_fullNames_explicitImplementation :
    let a := Assembly.explicitImplementation
    let z := run { config := {}, engine := fun _ _ ↦ none } [.install 0 a]
    a.Built ∧ a.FullNamesDistinct ∧ (∀ t ∈ a.types, Plain t.fullName) ∧
      ∃ t ∈ a.types, ∃ x, a.HasMember t x ∧ x.kind ≠ .type ∧ Plain x.name ∧
        '\x60' ∉ x.name.toList ∧ (resolve? (x.kind.lettered (x.fullName a)) z).1 = .ok none := by
  intro a z
  have htext : (Symbol.method a.methods[1]).kind.lettered ((Symbol.method a.methods[1]).fullName a)
      = "M:App.Cart.System.IDisposable.Dispose" := by decide
  have hnone : World.resolve? ⟨{}, fun _ _ ↦ none, a⟩ "M:App.Cart.System.IDisposable.Dispose"
      = none := rfl
  refine ⟨Assembly.built_explicitImplementation, List.nodup_singleton _, by decide, a.types[0],
    Array.getElem_mem _, .method a.methods[1], ⟨by decide, by decide⟩, by decide, by decide,
    by decide, ?_⟩
  rw [htext, resolve?_iff (shows_install a)]
  exact hnone

/-- At every point of a run what is displayed for a method leads to a method of its type with its
name and parameter types exactly if the list of them is readable, and the first method that answers
to it has the same. Type specifications must not mention themselves: parameter types are compared by
name. -/
theorem run_displayedMethods (config : Config) (engine : PatternEngine) (calls : List Call)
    {s : Snapshot} (hs : (run { config, engine } calls).snapshot = some s)
    (hbuilt : s.assembly.Built) (hfew : s.assembly.TokensSuffice)
    (hdistinct : s.assembly.FullNamesDistinct) (hplain : s.assembly.NamesPlain)
    (hends : s.assembly.TypeSpecsEnd) :
    let z := run { config, engine } calls
    let a := s.assembly
    a.TypesNamed ∧
      ∀ t ∈ a.types, ∀ m ∈ a.methodsOf t.methods,
      ((∃ n ∈ a.methodsOf t.methods,
          (resolve? (MemberKind.method.lettered (a.displayedMethod t m)) z).1
            = .ok (some (.method n)) ∧ n.name = m.name ∧
          a.paramTypeNames n.signature = a.paramTypeNames m.signature) ↔
        Assembly.Readable (a.paramTypeNames m.signature) ∧
          ∃ front n behind, a.methodsOf t.methods = front ++ n :: behind ∧ n.name = m.name ∧
            a.paramTypeNames n.signature = a.paramTypeNames m.signature ∧
            ∀ x ∈ front, ¬a.Answers m.name (a.paramTypeNames m.signature) x) := by
  intro z a
  have hz : z.Shows ⟨⟨config, engine, a⟩, s.generation⟩ :=
    ((sound_start config engine).run calls).shows s hs
  refine ⟨Assembly.typeSpecsEnd_iff.1 hends, fun t ht m hm ↦ ?_⟩
  simp only [resolve?_iff hz]
  exact World.resolve?_displayedMethod_iff (w := ⟨config, engine, a⟩) hbuilt hfew hdistinct hplain
    ht hm

theorem run_displayedMethods_callingBack :
    let a := Assembly.callingBack
    let z := run { config := {}, engine := fun _ _ ↦ none } [.install 0 a]
    a.TypeSpecsEnd ∧ ∃ t ∈ a.types, ∃ m ∈ a.methodsOf t.methods,
      (resolve? "M:App.Native::Call(System.Void*)" z).1 = .ok (some (.method m)) ∧
        m.name = "Call" ∧ a.paramTypeNames m.signature = ["System.Void*"] := by
  intro a z
  have hends : a.TypeSpecsEnd := Assembly.built_callingBack.rowsNumbered.typeSpecsEnd (by decide)
  have hpointer : a.methods[0] ∈ a.methodsOf a.types[0].methods := by decide
  obtain ⟨_, hdisplayed⟩ := run_displayedMethods {} (fun _ _ ↦ none) [.install 0 a] rfl
    Assembly.built_callingBack Assembly.tokensSuffice_callingBack (List.nodup_singleton _)
    Assembly.namesPlain_callingBack hends
  have hiff := hdisplayed a.types[0] (Array.getElem_mem _) a.methods[0] hpointer
  have htext : MemberKind.method.lettered (a.displayedMethod a.types[0] a.methods[0])
      = "M:App.Native::Call(System.Void*)" := by decide
  have hreadable : Assembly.Readable (a.paramTypeNames a.methods[0].signature) := by decide
  rw [htext] at hiff
  refine ⟨hends, a.types[0], Array.getElem_mem _,
    hiff.2 ⟨hreadable, [], _, _, rfl, rfl, rfl, ?_⟩⟩
  exact fun x hx ↦ absurd hx List.not_mem_nil

/-- White space stands in the type of a function, and the list is read without it. So what is
displayed for a method that is given a function leads to nothing. -/
theorem not_displayedMethods_callingBack :
    let a := Assembly.callingBack
    let z := run { config := {}, engine := fun _ _ ↦ none } [.install 0 a]
    a.Built ∧ a.FullNamesDistinct ∧ a.NamesPlain ∧
      ∃ t ∈ a.types, ∃ m ∈ a.methodsOf t.methods,
        (resolve? (MemberKind.method.lettered (a.displayedMethod t m)) z).1 = .ok none := by
  intro a z
  have htext : MemberKind.method.lettered (a.displayedMethod a.types[0] a.methods[1])
      = "M:App.Native::Call(method System.Void *())" := by decide
  have hnone : World.resolve? ⟨{}, fun _ _ ↦ none, a⟩ "M:App.Native::Call(method System.Void *())"
      = none := rfl
  refine ⟨Assembly.built_callingBack, List.nodup_singleton _, Assembly.namesPlain_callingBack,
    a.types[0], Array.getElem_mem _, a.methods[1], by decide, ?_⟩
  rw [htext, resolve?_iff (shows_install a)]
  exact hnone

/-- At every point of a run a text that names a symbol is well formed, unless it is the letter of
types alone. That letter names a symbol if some type has an empty full name. -/
theorem run_wellFormed (config : Config) (engine : PatternEngine) (calls : List Call)
    {s : Snapshot} (hs : (run { config, engine } calls).snapshot = some s)
    (hbuilt : s.assembly.Built) (hfew : s.assembly.TokensSuffice) :
    let z := run { config, engine } calls
    (∀ input x, (resolve? input z).1 = .ok (some x) →
        (isWellFormed input = true ↔ trimmed input ≠ "T:")) ∧
      ((∃ x, (resolve? "T:" z).1 = .ok (some x)) ↔ ∃ t ∈ s.assembly.types, t.fullName = "") := by
  intro z
  have hz : z.Shows ⟨⟨config, engine, s.assembly⟩, s.generation⟩ :=
    ((sound_start config engine).run calls).shows s hs
  simp only [resolve?_iff hz]
  exact ⟨fun input x hx ↦ Assembly.isWellFormed_iff_of_search? hx,
    hbuilt.rowsNumbered.exists_search?_letter_iff hfew.types⟩

theorem run_wellFormed_nameless :
    let a := Assembly.nameless
    let z := run { config := {}, engine := fun _ _ ↦ none } [.install 0 a]
    (∃ x, (resolve? "T:" z).1 = .ok (some x)) ∧ isWellFormed "T:" = false := by
  intro a z
  have hbuilt : a.Built := ⟨_, .edits (.new "App") _, rfl⟩
  have hfew : a.TokensSuffice := ⟨by decide, by decide, by decide, by decide, by decide⟩
  obtain ⟨hform, hletter⟩ := run_wellFormed {} (fun _ _ ↦ none) [.install 0 a] rfl hbuilt hfew
  obtain ⟨x, hx⟩ := hletter.2 ⟨a.types[0], Array.getElem_mem _, by decide⟩
  refine ⟨⟨x, hx⟩, ?_⟩
  rw [← Bool.not_eq_true, hform "T:" x hx]
  exact not_not_intro (by decide)

end Analyzer

end CliMetadata
