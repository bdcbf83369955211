import CliMetadata.Proofs.Assembly.Numbered
import CliMetadata.Snapshot

namespace CliMetadata

namespace OnDemand

variable {α : Type} {cell : OnDemand α} {value : α}

/-- A cell that holds a value, or nothing yet. -/
def Holds (cell : OnDemand α) (value : α) : Prop := ∀ v, cell.value? = some v → v = value

theorem holds_empty (value : α) : Holds {} value := by
  intro v hv
  cases hv

theorem Holds.get (h : cell.Holds value) :
    (cell.get fun _ ↦ value).1 = value ∧ (cell.get fun _ ↦ value).2.Holds value := by
  refine ⟨get_fst_eq h, ?_⟩
  unfold OnDemand.get
  split
  · exact h
  · intro v hv
    exact (Option.some.inj hv).symm

end OnDemand

structure Indexes.Right (a : Assembly) (x : Indexes) : Prop where
  typeNames : x.typeNames.Holds (.ofTypes a.types.toList)
  namespaceTypes : x.namespaceTypes.Holds (.ofTypes a.types.toList)
  members : x.members.Holds (.ofAssembly a)
  namespaces : x.namespaces.Holds (sortedNamespaces a)

theorem Indexes.right_empty (a : Assembly) : Indexes.Right a {} :=
  ⟨OnDemand.holds_empty _, OnDemand.holds_empty _, OnDemand.holds_empty _, OnDemand.holds_empty _⟩

namespace Snapshot

/-- A snapshot of an assembly under a generation, with whatever indexes were made. -/
structure Shows (a : Assembly) (generation : Nat) (s : Snapshot) : Prop where
  assembly_eq : s.assembly = a
  generation_eq : s.generation = generation
  indexes : s.indexes.Right a

/-- A use of snapshots that has one result for all snapshots of an assembly. -/
def Gives {α : Type} (a : Assembly) (use : Snapshot → α × Snapshot) (result : α) : Prop :=
  ∀ generation s, s.Shows a generation → (use s).1 = result ∧ (use s).2.Shows a generation

variable (a : Assembly)

theorem useTypeNames_gives : Gives a useTypeNames (.ofTypes a.types.toList) := by
  rintro generation s ⟨rfl, hgen, hx⟩
  obtain ⟨hvalue, hcell⟩ := hx.typeNames.get
  exact ⟨hvalue, rfl, hgen, { hx with typeNames := hcell }⟩

theorem useNamespaceTypes_gives : Gives a useNamespaceTypes (.ofTypes a.types.toList) := by
  rintro generation s ⟨rfl, hgen, hx⟩
  obtain ⟨hvalue, hcell⟩ := hx.namespaceTypes.get
  exact ⟨hvalue, rfl, hgen, { hx with namespaceTypes := hcell }⟩

theorem useMembers_gives : Gives a useMembers (.ofAssembly a) := by
  rintro generation s ⟨rfl, hgen, hx⟩
  obtain ⟨hvalue, hcell⟩ := hx.members.get
  exact ⟨hvalue, rfl, hgen, { hx with members := hcell }⟩

theorem useNamespaces_gives : Gives a useNamespaces (sortedNamespaces a) := by
  rintro generation s ⟨rfl, hgen, hx⟩
  obtain ⟨hvalue, hcell⟩ := hx.namespaces.get
  exact ⟨hvalue, rfl, hgen, { hx with namespaces := hcell }⟩

end Snapshot

end CliMetadata
