import CliMetadata.Proofs.Loading.Defects
import CliMetadata.Proofs.Loading.Fidelity

namespace CliMetadata

open Attempt Draft

namespace Metadata

variable (m : Metadata) (column : Nat) (target : Table)

/-- Every row of `target` is in the list of some type. -/
def ListsCover : Prop :=
  ∀ row, 0 < row → row ≤ m.tables.rows target → ∃ rid, m.listStart column target rid ≤ row ∧
    row < m.listStart column target (rid + 1)

/-- How many rows are loaded from a table that types list. -/
structure Keeps (count : Nat) : Prop where
  all : m.ListsCover column target → count = m.tables.rows target
  none : ¬ m.ListsCover column target →
    count = 0 ∧ ∀ rid, m.tables.rows target < m.listStart column target rid

/-- What has been loaded in front of the list of type `rid`: the rows up to `count`, each of them
from a list. -/
structure Filled (rid count : Nat) : Prop where
  le : count ≤ m.tables.rows target
  reached : (∃ n < rid, m.listStart column target n ≤ m.tables.rows target) →
    m.listStart column target rid ≤ m.tables.rows target ∨ count = m.tables.rows target
  untouched : (∀ n < rid, m.tables.rows target < m.listStart column target n) → count = 0
  covered : ∀ row, 0 < row → row ≤ count → ∃ n < rid, m.listStart column target n ≤ row ∧
    row < m.listStart column target (n + 1)

variable {m column target} {rid count later : Nat}

theorem listStart_behind (h : rid = 0 ∨ m.tables.rows .typeDef < rid) :
    m.listStart column target rid = m.tables.rows target + 1 := by
  have hrow : m.tables.row .typeDef rid = .error .outOfBounds := if_pos h
  rw [listStart, hrow]

theorem not_listsCover (htypes : m.tables.rows .typeDef = 1) (hrows : 0 < m.tables.rows target)
    (hstart : 1 < m.listStart column target 1) : ¬ m.ListsCover column target := by
  intro hcover
  obtain ⟨rid, hlow, _⟩ := hcover 1 Nat.one_pos hrows
  by_cases hrid : rid = 1
  · rw [hrid] at hlow
    omega
  · rw [listStart_behind (by omega)] at hlow
    omega

theorem filled_start : m.Filled column target 1 0 where
  le := Nat.zero_le _
  reached := by
    rintro ⟨n, hn, hinside⟩
    rw [listStart_behind (.inl (by omega))] at hinside
    omega
  untouched _ := rfl
  covered row hpos hle := by omega

theorem Filled.next (h : m.Filled column target rid count)
    (hlist : (m.listStart column target (rid + 1) ≤ m.listStart column target rid ∧ later = count) ∨
      (m.listStart column target rid = count + 1 ∧ count < later ∧
        m.listStart column target (rid + 1) = later + 1 ∧ later ≤ m.tables.rows target)) :
    m.Filled column target (rid + 1) later where
  le := by
    have hle := h.le
    omega
  reached := by
    rintro ⟨n, hn, hinside⟩
    have hle := h.le
    obtain hn | rfl : n < rid ∨ n = rid := by omega
    · have hreached := h.reached ⟨n, hn, hinside⟩
      omega
    · omega
  untouched hall := by
    have hzero := h.untouched fun n hn ↦ hall n (by omega)
    have hstart := hall rid (by omega)
    omega
  covered row hpos hle := by
    by_cases hold : row ≤ count
    · obtain ⟨n, hn, hcover⟩ := h.covered row hpos hold
      exact ⟨n, by omega, hcover⟩
    · exact ⟨rid, by omega, by omega, by omega⟩

theorem Filled.keeps (h : m.Filled column target (m.tables.rows .typeDef + 1) count) :
    m.Keeps column target count := by
  have hlast : m.listStart column target (m.tables.rows .typeDef + 1) = m.tables.rows target + 1 :=
    listStart_behind (.inr (Nat.lt_succ_self _))
  have hinside {rid : Nat} (hrid : m.listStart column target rid ≤ m.tables.rows target) :
      count = m.tables.rows target := by
    by_cases hbehind : m.tables.rows .typeDef < rid
    · rw [listStart_behind (.inr hbehind)] at hrid
      omega
    · have hreached := h.reached ⟨rid, by omega, hrid⟩
      omega
  constructor
  · intro hcover
    by_cases hempty : m.tables.rows target = 0
    · have hle := h.le
      omega
    · obtain ⟨rid, hstart, _⟩ := hcover 1 (by omega) (by omega)
      have hrid : m.listStart column target rid ≤ m.tables.rows target := by omega
      exact hinside hrid
  · intro hcover
    have hbehind (rid : Nat) : m.tables.rows target < m.listStart column target rid := by
      by_contra hrid
      refine hcover fun row hpos hle ↦ ?_
      obtain ⟨n, _, hlist⟩ := h.covered row hpos (by rwa [hinside (Nat.le_of_not_lt hrid)])
      exact ⟨n, hlist⟩
    exact ⟨h.untouched fun n _ ↦ hbehind n, hbehind⟩

end Metadata

namespace Loading

variable {m : Metadata} {d loaded : Draft} {owner : Token} {rid first stop : Nat}

theorem forRows_numbers {σ : Type} {size : σ → Nat} {limit : Nat}
    {step : Nat → σ → Except Error σ} {s t : σ}
    (hstep : ∀ rid s t, size s ≤ limit → step rid s = .ok t →
      rid = size s + 1 ∧ rid ≤ limit ∧ size t = rid)
    (hs : size s ≤ limit) (h : forRows step first (stop - first) s = .ok t) :
    (stop ≤ first ∧ size t = size s) ∨
      (first = size s + 1 ∧ size s < size t ∧ stop = size t + 1 ∧ size t ≤ limit) := by
  have hrun := forRows_run (P := fun rid u ↦ (rid = first ∧ size u = size s) ∨
    (first = size s + 1 ∧ size s < size u ∧ rid = size u + 1 ∧ size u ≤ limit))
    (fun rid u v _ _ hu hv ↦ ?_) (.inl ⟨rfl, rfl⟩) h
  · omega
  · have hnext := hstep rid u v (by omega) hv
    omega

theorem addField_numbers (hfew : m.tables.rows .field < 0x1000000)
    (hsize : d.rows.fields.size ≤ m.tables.rows .field)
    (h : addField m owner rid d = .ok loaded) :
    rid = d.rows.fields.size + 1 ∧ rid ≤ m.tables.rows .field ∧
      loaded.rows.fields.size = rid := by
  obtain ⟨row, blob, name, hrow, _, _, htoken, rfl⟩ := addField_ok h
  have hrid := Metadata.rid_eq_of_nextToken htoken hrow hsize hfew
  exact ⟨hrid, (Metadata.bounds_of_row hrow).2, (Array.size_push _).trans hrid.symm⟩

theorem addMethod_numbers {methods : Array MethodRow}
    (hrows : m.ReadFrom .methodDef (methodRow m · = .ok ·) methods)
    (hfew : m.tables.rows .methodDef < 0x1000000)
    (hsize : d.rows.methods.size ≤ m.tables.rows .methodDef)
    (h : addMethod m methods owner rid d = .ok loaded) :
    rid = d.rows.methods.size + 1 ∧ rid ≤ m.tables.rows .methodDef ∧
      loaded.rows.methods.size = rid := by
  obtain ⟨row, method, names, rfl, hrow, _, rfl⟩ := addMethod_next hrows hfew hsize h
  have hbounds := Metadata.bounds_of_row hrow
  rw [rows_putMethod (by omega)]
  exact ⟨rfl, hbounds.2, Array.size_push _⟩

theorem methods_addFields {count : Nat}
    (h : forRows (addField m owner) first count d = .ok loaded) :
    loaded.rows.methods = d.rows.methods := by
  refine forRows_invariant (P := fun e ↦ e.rows.methods = d.rows.methods)
    (fun rid e f he hf ↦ ?_) rfl h
  obtain ⟨_, _, _, _, _, _, _, rfl⟩ := addField_ok hf
  exact he

theorem fields_addMethods {count : Nat} {methods : Array MethodRow}
    (h : forRows (addMethod m methods owner) first count d = .ok loaded) :
    loaded.rows.fields = d.rows.fields := by
  refine forRows_invariant (P := fun e ↦ e.rows.fields = d.rows.fields)
    (fun rid e f he hf ↦ ?_) rfl h
  obtain ⟨⟨_, _, _, _, body, _⟩, _, _, _, _, rfl⟩ := addMethod_ok hf
  cases body <;> exact he

theorem filled_addMembers {types : Array Row} {methods : Array MethodRow}
    (htypes : EachRow (fun rid row ↦ m.tables.row .typeDef rid = .ok row) types)
    (hrows : m.ReadFrom .methodDef (methodRow m · = .ok ·) methods)
    (hfields : m.tables.rows .field < 0x1000000) (hmethods : m.tables.rows .methodDef < 0x1000000)
    (hfieldless : d.rows.fields = #[]) (hmethodless : d.rows.methods = #[])
    (h : addMembers m types methods d = .ok loaded) :
    m.Filled 4 .field (types.size + 1) loaded.rows.fields.size ∧
      m.Filled 5 .methodDef (types.size + 1) loaded.rows.methods.size := by
  refine addMembers_lists (P := fun rid e ↦ m.Filled 4 .field rid e.rows.fields.size ∧
    m.Filled 5 .methodDef rid e.rows.methods.size) htypes (fun rid e f g _ _ he hf hg ↦ ?_) ?_ h
  · obtain ⟨hfieldsFilled, hmethodsFilled⟩ := he
    have hfieldList := forRows_numbers (fun k u v ↦ addField_numbers hfields) hfieldsFilled.le hf
    rw [← methods_addFields hf] at hmethodsFilled
    have hmethodList := forRows_numbers (fun k u v ↦ addMethod_numbers hrows hmethods)
      hmethodsFilled.le hg
    rw [fields_addMethods hg]
    exact ⟨hfieldsFilled.next hfieldList, hmethodsFilled.next hmethodList⟩
  · rw [hfieldless, hmethodless]
    exact ⟨Metadata.filled_start, Metadata.filled_start⟩

def SameMembers (e d : Draft) : Prop :=
  d.rows.fields.size = e.rows.fields.size ∧ d.rows.methods.size = e.rows.methods.size

theorem Stages.memberless {a : Assembly} (s : Stages m a) :
    s.referring.rows.types = #[] ∧ s.typed.rows.fields = #[] ∧ s.typed.rows.methods = #[] := by
  obtain ⟨htypes, hfields, hmethods⟩ := addReferences_invariant (d := s.start)
    (P := fun d ↦ d.rows.types = #[] ∧ d.rows.fields = #[] ∧ d.rows.methods = #[])
    (fun _ _ _ h ↦ h) (fun _ _ _ _ h ↦ h) ⟨rfl, rfl, rfl⟩ s.addReferences_eq
  exact ⟨htypes, addTypes_invariant (P := fun d ↦ d.rows.fields = #[] ∧ d.rows.methods = #[])
    (fun _ _ _ _ _ h ↦ h) ⟨hfields, hmethods⟩ s.addTypes_eq⟩

/-- The passes behind the lists neither add members nor drop any. -/
theorem Stages.sameMembers {a : Assembly} (s : Stages m a) : SameMembers s.peopled s.headed := by
  have hrelated : SameMembers s.peopled s.related :=
    addRelations_invariant (fun _ _ _ h ↦ h) (fun _ _ _ h ↦ h)
      (fun _ owner _ h ↦ ⟨h.1, (size_modifyRow .methodDef owner _).trans h.2⟩) ⟨rfl, rfl⟩
      s.addRelations_eq
  have hmapped : SameMembers s.peopled s.mapped :=
    addPropertiesAndEvents_invariant
      (fun owner rid d e h he ↦ by
        obtain ⟨_, _, _, _, _, _, _, rfl⟩ := addProperty_ok he
        exact h)
      (fun owner rid d e h he ↦ by
        obtain ⟨_, _, _, _, _, rfl⟩ := addEvent_ok he
        exact h)
      (fun _ _ _ _ h ↦ h) hrelated s.addPropertiesAndEvents_eq
  have hspecified : SameMembers s.peopled s.specified :=
    addSpecs_invariant (fun _ _ _ _ h ↦ h) (fun _ _ h ↦ h) (fun _ _ _ h ↦ h) hmapped s.addSpecs_eq
  exact s.headed_invariant (fun _ _ h ↦ h) (fun _ _ h ↦ h) hspecified

theorem Stages.keeps {a : Assembly} (s : Stages m a) (hfields : m.tables.rows .field < 0x1000000)
    (hmethods : m.tables.rows .methodDef < 0x1000000) :
    m.Keeps 4 .field a.fields.size ∧ m.Keeps 5 .methodDef a.methods.size := by
  obtain ⟨htypes, hfieldless, hmethodless⟩ := s.memberless
  obtain ⟨_, _, _, _, _, hsize, hrows⟩ := addTypes_rows htypes s.addTypes_eq
  have hfilled := filled_addMembers hrows (methodRows_rows s.methodRows_eq) hfields hmethods
    hfieldless hmethodless s.addMembers_eq
  rw [hsize, ← s.sameMembers.1, ← s.sameMembers.2] at hfilled
  rw [← s.build_eq]
  exact ⟨hfilled.1.keeps, hfilled.2.keeps⟩

end Loading

theorem exists_fieldsFrom_two :
    ∃ image, Image.read (Image.fieldsFrom 2) = .ok image ∧ ∃ m, Metadata.ofImage image = .ok m ∧
      (∀ table ∈ Table.all, m.tables.rows table < 0x1000000) ∧ m.tables.rows .typeDef = 1 ∧
      m.tables.rows .field = 2 ∧ m.listStart 4 .field 1 = 2 := by
  decide +kernel

/-- Of the fields and methods in an image, as long as tokens have room for their numbers, all are
loaded or none: all where the lists of the types cover their table, none where all lists start
behind it. With other lists nothing is loaded from the image. -/
theorem Assembly.keeps_ofImage {data : Bytes} {image : Image} {m : Metadata}
    (himage : Image.read data = .ok image) (hm : Metadata.ofImage image = .ok m)
    (hfields : m.tables.rows .field < 0x1000000)
    (hmethods : m.tables.rows .methodDef < 0x1000000) :
    (∀ a, ofImage data = .ok a →
      m.Keeps 4 .field a.fields.size ∧ m.Keeps 5 .methodDef a.methods.size) ∧
    ((¬ m.ListsCover 4 .field ∧ ∃ rid, m.listStart 4 .field rid ≤ m.tables.rows .field) ∨
        (¬ m.ListsCover 5 .methodDef ∧
          ∃ rid, m.listStart 5 .methodDef rid ≤ m.tables.rows .methodDef) →
      ∃ e, ofImage data = .error e ∧ e.IsDefect) := by
  have hload : ofImage data = Loading.assembly m := ofImage_eq himage hm
  have hkeeps (a : Assembly) (ha : ofImage data = .ok a) :
      m.Keeps 4 .field a.fields.size ∧ m.Keeps 5 .methodDef a.methods.size := by
    obtain ⟨s⟩ := Loading.nonempty_stages (hload.symm.trans ha)
    exact s.keeps hfields hmethods
  refine ⟨hkeeps, fun hlists ↦ ?_⟩
  cases ha : ofImage data with
  | error e => exact ⟨e, rfl, Loading.blames_assembly e (hload.symm.trans ha)⟩
  | ok a =>
    obtain ⟨hfieldsKept, hmethodsKept⟩ := hkeeps a ha
    obtain ⟨hcover, rid, hrid⟩ | ⟨hcover, rid, hrid⟩ := hlists
    · exact absurd hrid (Nat.not_le_of_lt ((hfieldsKept.none hcover).2 rid))
    · exact absurd hrid (Nat.not_le_of_lt ((hmethodsKept.none hcover).2 rid))

theorem Assembly.keeps_ofImage_fieldsFrom :
    (∃ a, ∃ m : Metadata, ofImage (Image.fieldsFrom 3) = .ok a ∧ m.Keeps 4 .field a.fields.size ∧
      m.Keeps 5 .methodDef a.methods.size ∧ a.methods.size = 1) ∧
    ∃ e, ofImage (Image.fieldsFrom 2) = .error e ∧ e.IsDefect := by
  constructor
  · obtain ⟨image, himage, m, hm, hall, _, _, _, a, ha, _, hmethods⟩ := exists_fieldsFrom_three
    have hfew (table : Table) := hall table table.mem_all
    have hload := (ofImage_eq himage hm).trans ha
    have hkeeps := (keeps_ofImage himage hm (hfew .field) (hfew .methodDef)).1 a hload
    exact ⟨a, m, hload, hkeeps.1, hkeeps.2, hmethods⟩
  · obtain ⟨image, himage, m, hm, hall, htypes, hrows, hstart⟩ := exists_fieldsFrom_two
    have hfew (table : Table) := hall table table.mem_all
    have hlists : ¬ m.ListsCover 4 .field :=
      Metadata.not_listsCover htypes (by omega) (by omega)
    exact (keeps_ofImage himage hm (hfew .field) (hfew .methodDef)).2
      (.inl ⟨hlists, 1, by omega⟩)

/-- An image with a type is loaded, and none of its fields is, since the list of the type starts
behind them. -/
theorem Assembly.fieldless_ofImage :
    ∃ image m a, Image.read (Image.fieldsFrom 3) = .ok image ∧ Metadata.ofImage image = .ok m ∧
      ofImage (Image.fieldsFrom 3) = .ok a ∧ 0 < m.tables.rows .typeDef ∧
      ¬ m.ListsCover 4 .field ∧ a.fields.size ≠ m.tables.rows .field := by
  obtain ⟨image, himage, m, hm, _, htypes, hrows, hstart, a, ha, hfields, _⟩ :=
    exists_fieldsFrom_three
  have hlists : ¬ m.ListsCover 4 .field := Metadata.not_listsCover htypes (by omega) (by omega)
  exact ⟨image, m, a, himage, hm, (ofImage_eq himage hm).trans ha, by omega, hlists, by omega⟩

end CliMetadata
