import CliMetadata.Proofs.Analyzer.Run
import CliMetadata.Proofs.Index.Contents

namespace CliMetadata

def Assembly.threeHelpers : Assembly :=
  ([Draft.Edit.addType "" "Helper" 1 none, .addType "Util" "Helper" 1 none,
    .addType "Util" "Helper" 1 none, .addField ⟨0x02000003⟩ "count" 1 .object].foldl
      Draft.Edit.apply (.new "App")).build

namespace Analyzer

/-- At every point of a run the indexes describe the loaded assembly. With more types or members
than tokens have numbers for, tokens no longer tell the order and not all definitions apart. -/
theorem run_indexes (config : Config) (engine : PatternEngine) (calls : List Call) {s : Snapshot}
    (hs : (run { config, engine } calls).snapshot = some s) (hbuilt : s.assembly.Built) :
    let a := s.assembly
    let index := s.useNamespaceTypes.1
    let members := s.useMembers.1
    s.useTypeNames.1.Describes a ∧ index.Describes a ∧ index.Lists s.useNamespaces.1 a ∧
      (∀ id x, members.get? id = some x → x.id a.mvid = id ∧ a.IsListed x) ∧
      (a.TokensSuffice → members.Finds a ∧
        ∀ wanted, (a.tokensOf wanted).Pairwise fun x y ↦ x.toNat < y.toNat) := by
  intro a index members
  obtain ⟨t, ht, hshows⟩ := (shows_run config engine calls hs).snapshot
  obtain rfl := Option.some.inj (hs.symm.trans ht)
  have hrows := hbuilt.rowsNumbered
  have hindex : index.Describes a := by
    rw [show index = _ from (Snapshot.useNamespaceTypes_gives a _ s hshows).1]
    exact NamespaceTypes.describes_ofTypes a
  have hmembers : members = .ofAssembly a := (Snapshot.useMembers_gives a _ s hshows).1
  rw [(Snapshot.useTypeNames_gives a _ s hshows).1, (Snapshot.useNamespaces_gives a _ s hshows).1,
    hmembers]
  refine ⟨TypeNames.describes_ofTypes a, hindex, hindex.lists, fun id x hx ↦ ?_, fun hfew ↦ ?_⟩
  · exact ⟨Assembly.id_of_get? hx, hrows.isListed_of_get? hx⟩
  · exact ⟨Members.finds_ofAssembly hbuilt hfew, hrows.rising_tokensOf hfew.types⟩

theorem run_indexes_threeHelpers :
    let a := Assembly.threeHelpers
    ∃ s, (run { config := {}, engine := fun _ _ ↦ none } [.install 0 a]).snapshot = some s ∧
      s.assembly = a ∧ a.Built ∧ a.TokensSuffice ∧
      s.useTypeNames.1.named "Helper" = [⟨0x02000001⟩, ⟨0x02000002⟩, ⟨0x02000003⟩] ∧
      s.useTypeNames.1.get? "Helper" = some ⟨0x02000001⟩ ∧
      s.useTypeNames.1.get? "Util.Helper" = some ⟨0x02000003⟩ ∧
      s.useNamespaceTypes.1.get? "Util" = some [⟨0x02000002⟩, ⟨0x02000003⟩] ∧
      "Util" ∈ s.useNamespaces.1 ∧ "" ∉ s.useNamespaces.1 ∧
      ∃ x, s.useMembers.1.get? ⟨a.mvid, ⟨0x04000001⟩, .field⟩ = some x := by
  intro a
  have hbuilt : a.Built := ⟨_, .edits (.new "App") _, rfl⟩
  have hfew : a.TokensSuffice := ⟨by decide, by decide, by decide, by decide, by decide⟩
  obtain ⟨hnames, hindex, hlists, _, hall⟩ :=
    run_indexes {} (fun _ _ ↦ none) [.install 0 a] rfl hbuilt
  have hutil := (hindex "Util" [⟨0x02000002⟩, ⟨0x02000003⟩]).2 ⟨by decide, by decide⟩
  obtain ⟨x, hx, _⟩ := (hall hfew).1.member a.types[2] (Array.getElem_mem _) .field (by decide)
    ⟨0x04000001⟩ (by decide)
  refine ⟨_, rfl, rfl, hbuilt, hfew, ?_, ?_, ?_, hutil, ?_, ?_, x, hx⟩
  · rw [hnames.named]
    decide
  · rw [hnames.get?, hnames.fullName?]
    decide
  · rw [hnames.get?, hnames.fullName?]
    decide
  · exact (hlists.mem_iff "Util").2 ⟨by decide, Option.isSome_of_eq_some hutil⟩
  · exact fun hmem ↦ ((hlists.mem_iff "").1 hmem).1 rfl

end Analyzer

end CliMetadata
