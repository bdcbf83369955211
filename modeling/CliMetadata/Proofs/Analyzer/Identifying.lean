import CliMetadata.Proofs.Analyzer.Run
import CliMetadata.Proofs.Assembly.Loaded
import CliMetadata.Proofs.Identifier

namespace CliMetadata

def Assembly.strayMethod : Assembly :=
  ([Draft.Edit.addMethod ⟨0x02000001⟩ "Main" 0x16 { result := { base := .void } }].foldl
    Draft.Edit.apply (.new "App")).build

def Assembly.lettered : Assembly :=
  ([Draft.Edit.setVersionId ⟨.replicate 16 0xAB⟩, .addType "App" "Cart" 1 none].foldl
    Draft.Edit.apply (.new "App")).build

namespace World

variable {w : World} {input : String} {x : Symbol}

theorem resolve?_tokenText {token : Token} (h : x.StandsAt w.assembly token) :
    w.resolve? token.text = some x := by
  rw [resolve?, token.trimmed_text]
  exact Assembly.search?_tokenText (Symbol.ofToken?_eq_some_iff.2 h)

theorem resolve?_id (hrows : w.assembly.RowsNumbered) (hx : w.resolve? input = some x) :
    (w.assembly.IsListed x → w.resolve? (x.id w.assembly.mvid).text = some x) ∧
      (¬w.assembly.IsListed x → w.resolve? (x.id w.assembly.mvid).text = none) := by
  have hiff {y : Symbol} := hrows.search?_id_iff hx (y := y)
  rw [resolve?, MemberId.trimmed_text]
  refine ⟨fun hlisted ↦ hiff.2 ⟨rfl, hlisted⟩, fun hlisted ↦ ?_⟩
  exact Option.eq_none_iff_forall_ne_some.2 fun y hy ↦ hlisted (hiff.1 hy).2

theorem normalize_of_name {text : String} (hname : (NamespaceId.name? input).isSome = true)
    (h : w.normalize input = some text) : w.normalize text = some text := by
  have hmark (name : String) : NamespaceId.name? (NamespaceId.ofName name) = some name := by
    simp [NamespaceId.name?, NamespaceId.ofName]
  rw [normalize, if_pos hname] at h
  obtain ⟨name, hfound, rfl⟩ := Option.map_eq_some_iff.1 h
  obtain ⟨_, htypes, rfl⟩ := Option.map_eq_some_iff.1 hfound
  rw [normalize, hmark, if_pos Option.isSome_some, namespaceOf?, NamespaceId.nameOf, hmark,
    Option.getD_some, htypes]
  rfl

/-- What a text is rewritten to is rewritten to itself, unless it stands for a symbol that no type
lists. -/
theorem normalize_normalize (hrows : w.assembly.RowsNumbered) {text : String}
    (h : w.normalize input = some text) :
    ((NamespaceId.name? input).isSome = true → w.normalize text = some text) ∧
      (NamespaceId.name? input = none → ∃ x, w.resolve? input = some x ∧
        (w.assembly.IsListed x → w.normalize text = some text) ∧
        (¬w.assembly.IsListed x → w.normalize text = none)) := by
  refine ⟨fun hname ↦ normalize_of_name hname h, fun hname ↦ ?_⟩
  rw [normalize, if_neg (by simp [hname])] at h
  obtain ⟨x, hx, rfl⟩ := Option.map_eq_some_iff.1 h
  obtain ⟨hlisted, hstray⟩ := resolve?_id hrows hx
  have hagain : w.normalize (x.id w.assembly.mvid).text =
      (w.resolve? (x.id w.assembly.mvid).text).map fun s ↦ (s.id w.assembly.mvid).text := by
    rw [normalize, MemberId.namespace?_text]
    rfl
  refine ⟨x, hx, fun h ↦ ?_, fun h ↦ ?_⟩
  · rw [hagain, hlisted h, Option.map_some]
  · rw [hagain, hstray h, Option.map_none]

/-- An identifier that names a symbol is rewritten to the text that is printed for it. -/
theorem normalize_of_parse {id : MemberId} (hparse : MemberId.parse input = .ok id)
    (hx : w.resolve? input = some x) :
    x.id w.assembly.mvid = id ∧ w.normalize input = some id.text := by
  obtain ⟨version, token, hform, _⟩ := MemberId.parse_eq_ok_iff.1 hparse
  have hid : x.id w.assembly.mvid = id := by
    rw [resolve?, hform.trimmed_eq] at hx
    exact Assembly.id_of_search? hparse hx
  refine ⟨hid, ?_⟩
  rw [normalize, hform.namespace?_eq_none, if_neg (by simp), hx, Option.map_some, hid]

end World

namespace Analyzer

theorem resolve?_iff {w : Era} {z : Analyzer} (hz : z.Shows w) {input : String}
    {x? : Option Symbol} : (resolve? input z).1 = .ok x? ↔ w.resolve? input = x? := by
  rw [(resolve?_answers w input z hz).1, Except.ok.injEq]

theorem normalize_iff {w : Era} {z : Analyzer} (hz : z.Shows w) {input : String}
    {text? : Option String} : (normalize input z).1 = .ok text? ↔ w.normalize input = text? := by
  rw [(normalize_answers w input z hz).1, Except.ok.injEq]

/-- At every point of a run the identifier of a symbol that a text names leads back to the symbol,
if the symbol is a type or in the lists of one, and to nothing otherwise. So the text that another
is rewritten to is rewritten to itself, or to nothing. -/
theorem run_identifiers (config : Config) (engine : PatternEngine) (calls : List Call)
    {s : Snapshot} (hs : (run { config, engine } calls).snapshot = some s)
    (hproduced : s.assembly.Produced) :
    let z := run { config, engine } calls
    let a := s.assembly
    (∀ input x, (resolve? input z).1 = .ok (some x) →
        (a.IsListed x → (resolve? (x.id a.mvid).text z).1 = .ok (some x)) ∧
        (¬a.IsListed x → (resolve? (x.id a.mvid).text z).1 = .ok none)) ∧
      (∀ (id : MemberId) x, (resolve? id.text z).1 = .ok (some x) → x.id a.mvid = id) ∧
      ∀ input text, (normalize input z).1 = .ok (some text) →
        ((NamespaceId.name? input).isSome = true → (normalize text z).1 = .ok (some text)) ∧
        (NamespaceId.name? input = none → ∃ x, (resolve? input z).1 = .ok (some x) ∧
          (a.IsListed x → (normalize text z).1 = .ok (some text)) ∧
          (¬a.IsListed x → (normalize text z).1 = .ok none)) := by
  intro z a
  have hz : z.Shows ⟨⟨config, engine, a⟩, s.generation⟩ :=
    ((sound_start config engine).run calls).shows s hs
  have hrows : a.RowsNumbered := hproduced.rowsNumbered
  simp only [resolve?_iff hz, normalize_iff hz]
  refine ⟨fun input x hx ↦ World.resolve?_id hrows hx, fun id x hx ↦ ?_,
    fun input text htext ↦ World.normalize_normalize hrows htext⟩
  rw [World.resolve?, MemberId.trimmed_text] at hx
  exact Assembly.id_of_search?_text hx

theorem run_identifiers_callingItself :
    let a := Assembly.callingItself
    let z := run { config := {}, engine := fun _ _ ↦ none } [.install 0 a]
    ∃ m ∈ a.methods, (resolve? "0x06000001" z).1 = .ok (some (.method m)) ∧
      (resolve? ((Symbol.method m).id a.mvid).text z).1 = .ok (some (.method m)) := by
  intro a z
  have hproduced : a.Produced := .inl Assembly.built_callingItself
  have hlisted : a.IsListed (.method a.methods[0]) :=
    ⟨a.types[0], Array.getElem_mem _, .inr ⟨.method, by decide, by decide, by decide⟩⟩
  obtain ⟨hagain, _, _⟩ := run_identifiers {} (fun _ _ ↦ none) [.install 0 a] rfl hproduced
  exact ⟨a.methods[0], Array.getElem_mem _, rfl,
    (hagain "0x06000001" _ rfl).1 hlisted⟩

/-- A method without a type is named by its token, and its identifier means nothing. -/
theorem identifier_strayMethod :
    let a := Assembly.strayMethod
    let z := run { config := {}, engine := fun _ _ ↦ none } [.install 0 a]
    a.Built ∧ ∃ m ∈ a.methods, (resolve? "0x06000001" z).1 = .ok (some (.method m)) ∧
      (resolve? ((Symbol.method m).id a.mvid).text z).1 = .ok none ∧
      ∃ text, (normalize "0x06000001" z).1 = .ok (some text) ∧
        (normalize text z).1 = .ok none := by
  intro a z
  have hbuilt : a.Built := ⟨_, .edits (.new "App") _, rfl⟩
  have hrows : a.RowsNumbered := hbuilt.rowsNumbered
  have hz : z.Shows ⟨⟨{}, fun _ _ ↦ none, a⟩, 1⟩ :=
    ((sound_start {} fun _ _ ↦ none).run [.install 0 a]).shows _ rfl
  have hstray : ¬a.IsListed (.method a.methods[0]) := by
    have hnone : a.types.size = 0 := rfl
    rintro ⟨t, ht, _⟩
    rw [Array.eq_empty_of_size_eq_zero hnone] at ht
    simp at ht
  have hfound : World.resolve? ⟨{}, fun _ _ ↦ none, a⟩ "0x06000001"
      = some (.method a.methods[0]) := rfl
  have hnormal : World.normalize ⟨{}, fun _ _ ↦ none, a⟩ "0x06000001"
      = some ((Symbol.method a.methods[0]).id a.mvid).text := rfl
  simp only [resolve?_iff hz, normalize_iff hz]
  obtain ⟨_, hnothing⟩ := World.normalize_normalize hrows hnormal
  obtain ⟨x, hx, _, hnothing⟩ := hnothing rfl
  cases hfound.symm.trans hx
  exact ⟨hbuilt, a.methods[0], Array.getElem_mem _, hfound,
    (World.resolve?_id hrows hfound).2 hstray, _, hnormal, hnothing hstray⟩

/-- At every point of a run a text with the form of an identifier that names a symbol is rewritten
to the printed text of the same identifier. So it is rewritten to itself if all its digits are
lowercase and its token has eight of them, and only then. -/
theorem run_printedIdentifiers (config : Config) (engine : PatternEngine) (calls : List Call)
    {s : Snapshot} (hs : (run { config, engine } calls).snapshot = some s) :
    let z := run { config, engine } calls
    ∀ input x, MemberId.isCanonical input = true → (resolve? input z).1 = .ok (some x) →
      ∃ version token, MemberId.HasForm input version token x.kind ∧
        ∃ text, (normalize input z).1 = .ok (some text) ∧
          MemberId.parse text = .ok (x.id s.assembly.mvid) ∧
          MemberId.parse input = .ok (x.id s.assembly.mvid) ∧
          (text = input ↔ MemberId.IsPrinted version token) := by
  intro z input x hcanonical hx
  have hz := shows_run config engine calls hs
  obtain ⟨id, hid⟩ := Option.isSome_iff_exists.1 hcanonical
  have hparse := MemberId.parse?_eq_some_iff.1 hid
  rw [resolve?_iff hz] at hx
  obtain ⟨rfl, htext⟩ := World.normalize_of_parse hparse hx
  obtain ⟨version, token, hform, hwritten⟩ := MemberId.parse_eq_ok_iff.1 hparse
  exact ⟨version, token, hform, _, (normalize_iff hz).2 htext, MemberId.parse_text _, hparse,
    MemberId.text_eq_iff hform hwritten⟩

theorem run_printedIdentifiers_lettered :
    let input := "abababababababababababababababab:02000001:T"
    let z := run { config := {}, engine := fun _ _ ↦ none } [.install 0 Assembly.lettered]
    MemberId.isCanonical input = true ∧ (∃ x, (resolve? input z).1 = .ok (some x)) ∧
      (normalize input z).1 = .ok (some input) := by
  intro input z
  have hcanonical : MemberId.isCanonical input = true := by decide
  have hx : (resolve? input z).1 = .ok (some (.type Assembly.lettered.types[0])) :=
    (resolve?_iff (shows_install _)).2 (by decide +kernel)
  obtain ⟨version, token, hform, text, htext, _, _, hprinted⟩ :=
    run_printedIdentifiers {} (fun _ _ ↦ none) [.install 0 Assembly.lettered] rfl input _
      hcanonical hx
  have hinput : input.toList = "abababababababababababababababab".toList
      ++ ':' :: ("02000001".toList ++ ':' :: ['T']) := by decide
  obtain ⟨rfl, hrest⟩ := List.append_inj (hform.text_eq.symm.trans hinput) hform.version_length
  obtain ⟨rfl, _⟩ := List.append_inj' (List.cons.inj hrest).2 rfl
  obtain rfl := hprinted.2 ⟨fun _ ↦ Hex.forall_of_all (· ∈ Hex.lowercase) (by decide),
    fun _ ↦ Hex.forall_of_all (· ∈ Hex.lowercase) (by decide), by decide⟩
  exact ⟨hcanonical, ⟨_, hx⟩, htext⟩

/-- Identifiers are also read in uppercase, and without the zeros in front of the token. Neither is
rewritten to itself. -/
theorem not_printedIdentifiers_lettered :
    let a := Assembly.lettered
    let z := run { config := {}, engine := fun _ _ ↦ none } [.install 0 a]
    a.Built ∧ ∀ input ∈ ["ABABABABABABABABABABABABABABABAB:02000001:T",
        "abababababababababababababababab:2000001:T"],
      MemberId.isCanonical input = true ∧ (∃ x, (resolve? input z).1 = .ok (some x)) ∧
        (normalize input z).1 ≠ .ok (some input) := by
  intro a z
  refine ⟨⟨_, .edits (.new "App") _, rfl⟩, ?_⟩
  rw [List.forall_mem_cons, List.forall_mem_singleton]
  exact ⟨⟨by decide, ⟨.type a.types[0], by decide +kernel⟩, by decide +kernel⟩,
    by decide, ⟨.type a.types[0], by decide +kernel⟩, by decide +kernel⟩

end Analyzer

end CliMetadata
