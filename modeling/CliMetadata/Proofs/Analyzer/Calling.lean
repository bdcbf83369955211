import CliMetadata.Proofs.Analyzer.Paging
import CliMetadata.Proofs.Usage.Calls

namespace CliMetadata

def Assembly.loadingToken : Assembly :=
  ([Draft.Edit.addType "App" "Program" 1 none,
    .addMethod ⟨0x02000001⟩ "Target" 0x16 { result := { base := .void } },
    .addMethod ⟨0x02000001⟩ "Main" 0x16 { result := { base := .void } },
    .setBody ⟨0x06000002⟩ ⟨[0xD0, 1, 0, 0, 6, 0x26, 0x2A]⟩].foldl Draft.Edit.apply
      (.new "App")).build

namespace Usage

/-- The uses among the callers of a method and among the callees of another that stand for calls of
the one by the other are of the same kinds, at the same offsets. -/
def CallsAgree (a : Assembly) (m n : MethodDef) : Prop :=
  ∀ kind offset,
    (∃ e ∈ everyUse a (.method n) isCall, e.source = (Symbol.method m).id a.mvid ∧
        e.kind = kind ∧ e.offset = offset) ↔
      ∃ e ∈ callees a m, e.target = some ((Symbol.method n).id a.mvid) ∧ e.kind = kind ∧
        e.offset = offset

variable {a : Assembly} {m n : MethodDef}

theorem source_of_mem_edgesIn {s : Symbol} {roles : List (Token × Role)}
    {wanted : UsageKind → Bool} {e : UsageEdge} (h : e ∈ edgesIn a s roles wanted m) :
    e.source = (Symbol.method m).id a.mvid := by
  obtain ⟨i, _, hi⟩ := List.mem_filterMap.1 (List.mem_of_find?_eq_some (mem_firstPerKey_iff.1 h))
  obtain ⟨_, _, rfl⟩ := Option.map_eq_some_iff.1 hi
  rfl

section Listed

variable (hrows : a.RowsNumbered) (hfew : a.methods.size < 0x1000000)
  (hlisted : a.MethodsListed)

include hrows hfew hlisted

/-- The uses with a method as their source are the ones in its body. -/
theorem exists_everyUse_iff (hm : m ∈ a.methods) {s : Symbol} {wanted : UsageKind → Bool}
    {p : UsageEdge → Prop} :
    (∃ e ∈ everyUse a s wanted, e.source = (Symbol.method m).id a.mvid ∧ p e) ↔
      ∃ e ∈ edgesIn a s (rolesOf a s) wanted m, p e := by
  have hfound : a.method? m.token = some m := hrows.methods.rowOf?_token hfew hm
  constructor
  · rintro ⟨e, he, hsource, hp⟩
    obtain ⟨token, _, he⟩ := List.mem_flatMap.1 he
    rw [lookIn] at he
    cases hother : a.method? token with
    | none =>
      rw [hother] at he
      cases he
    | some other =>
      rw [hother] at he
      have htoken : other.token = m.token :=
        congrArg MemberId.token ((source_of_mem_edgesIn he).symm.trans hsource)
      rw [← hrows.methods.token_rowOf? hother, htoken, hfound] at hother
      cases hother
      exact ⟨e, he, hp⟩
  · rintro ⟨e, he, hp⟩
    obtain ⟨t, ht, _, hmem⟩ := hlisted m hm
    refine ⟨e, List.mem_flatMap.2 ⟨m.token, ?_, ?_⟩, source_of_mem_edgesIn he, hp⟩
    · exact List.mem_flatMap.2 ⟨t, Array.mem_toList_iff.2 ht, hmem⟩
    · rw [lookIn, hfound]
      exact he

/-- Callers and callees agree on two methods exactly if the first instruction that leads from one to
the other and makes no object is a call. -/
theorem callsAgree_iff (hm : m ∈ a.methods) (hn : n ∈ a.methods) :
    CallsAgree a m n ↔ ∀ i, firstUse? a mentionOf? m n.token .call = some i →
      callOf? i.mnemonic = some .call := by
  have hfound : a.method? n.token = some n := hrows.methods.rowOf?_token hfew hn
  rw [← firstUses_agree_iff, CallsAgree]
  refine forall_congr' fun kind ↦ forall_congr' fun offset ↦ ?_
  rw [exists_everyUse_iff hrows hfew hlisted hm, exists_caller_iff hrows hfound,
    exists_callee_iff hrows hfound]

end Listed

end Usage

namespace Analyzer

theorem callees_answers {w : Era} {source : String} {m : MethodDef}
    (hm : w.resolve? source = some (.method m)) {request : PageRequest} {v : Window}
    (hv : w.window request = .ok v) :
    Answers w (callees source request) (.ok (.complete (Usage.callees w.assembly m) v)) := by
  have hmethod : w.requireMethod source = .ok m := by
    rw [World.requireMethod, World.require, hm]
    rfl
  refine (assembly_answers w).ok_bind ?_
  have hwindow := window_answers w request
  rw [hv] at hwindow
  refine hwindow.ok_bind ?_
  have hrequire := requireMethod_answers w source
  rw [hmethod] at hrequire
  exact hrequire.ok_bind (answers_pure _)

/-- At every point of a run the pages of callers hold, in the end, all calls of a method, those of
callees all calls in a method, and the two agree on a pair of methods exactly if the first
instruction that leads from one to the other and makes no object is a call. Specifications must not
lead to themselves: a scan names all types and follows all generic methods. -/
theorem run_callsAgree_iff (config : Config) (engine : PatternEngine) (calls : List Call)
    {s : Snapshot} (hs : (run { config, engine } calls).snapshot = some s)
    (hrows : s.assembly.RowsNumbered) (hfew : s.assembly.methods.size < 0x1000000)
    (hlisted : s.assembly.MethodsListed) (htypes : s.assembly.TypeSpecsEnd)
    (hspecs : s.assembly.MethodSpecsEnd) :
    let z := run { config, engine } calls
    let a := s.assembly
    a.TypesNamed ∧ a.SpecsFollowed ∧
      ∀ m ∈ a.methods, ∀ n ∈ a.methods, ∀ source target,
      (resolve? source z).1 = .ok (some (.method m)) →
      (resolve? target z).1 = .ok (some (.method n)) →
        Conserves a (callers · target) (Usage.everyUse a (.method n) Usage.isCall) z ∧
        (∀ request v, Window.ofRequest config request = .ok v →
          (callees source request z).1 = .ok (.complete (Usage.callees a m) v)) ∧
        (Usage.CallsAgree a m n ↔
          ∀ i, Usage.firstUse? a Usage.mentionOf? m n.token .call = some i →
            Usage.callOf? i.mnemonic = some .call) := by
  intro z a
  have hz : z.Shows ⟨⟨config, engine, a⟩, s.generation⟩ :=
    ((sound_start config engine).run calls).shows s hs
  refine ⟨Assembly.typeSpecsEnd_iff.1 htypes, Assembly.methodSpecsEnd_iff.1 hspecs, ?_⟩
  intro m hm n hn source target hsource htarget
  have hcaller := Except.ok.inj ((resolve?_answers _ source z hz).1.symm.trans hsource)
  have hcallee := Except.ok.inj ((resolve?_answers _ target z hz).1.symm.trans htarget)
  exact ⟨(callers_pageable hrows hcallee).conserves hz,
    fun request v hv ↦ (callees_answers hcaller hv z hz).1,
    Usage.callsAgree_iff hrows hfew hlisted hm hn⟩

theorem run_callsAgree_callingItself :
    let a := Assembly.callingItself
    let z := run { config := {}, engine := fun _ _ ↦ none } [.install 0 a]
    a.RowsNumbered ∧ a.methods.size < 0x1000000 ∧ a.MethodsListed ∧ a.TypeSpecsEnd ∧
      a.MethodSpecsEnd ∧ ∃ m ∈ a.methods, (resolve? "0x06000001" z).1 = .ok (some (.method m)) ∧
        (Usage.callees a m).length = 1 ∧ Usage.CallsAgree a m m := by
  intro a z
  have hrows : a.RowsNumbered := Assembly.built_callingItself.rowsNumbered
  have hfew : a.methods.size < 0x1000000 := by decide
  have hlisted : a.MethodsListed := by
    rw [Assembly.MethodsListed]
    decide
  have htypes : a.TypeSpecsEnd := Assembly.typeSpecsEnd_callingItself
  have hspecs : a.MethodSpecsEnd := Assembly.methodSpecsEnd_callingItself
  have hmem : a.methods[0] ∈ a.methods := Array.getElem_mem _
  obtain ⟨_, _, hagrees⟩ := run_callsAgree_iff {} (fun _ _ ↦ none) [.install 0 a] rfl hrows hfew
    hlisted htypes hspecs
  obtain ⟨_, _, hagree⟩ := hagrees _ hmem _ hmem "0x06000001" "0x06000001" rfl rfl
  refine ⟨hrows, hfew, hlisted, htypes, hspecs, a.methods[0], hmem, rfl, rfl,
    hagree.2 fun i hi ↦ ?_⟩
  cases hi
  rfl

/-- Loading the token of a method counts as a call among its callers. -/
theorem not_callsAgree_loadingToken :
    let a := Assembly.loadingToken
    a.Built ∧ a.MethodsListed ∧ ∃ m ∈ a.methods, ∃ n ∈ a.methods,
      (Usage.everyUse a (.method n) Usage.isCall).map (·.offset) = [0] ∧
        Usage.callees a m = [] ∧ ¬Usage.CallsAgree a m n := by
  intro a
  have hbuilt : a.Built := ⟨_, .edits (.new "App") _, rfl⟩
  have hlisted : a.MethodsListed := by
    rw [Assembly.MethodsListed]
    decide
  have hfew : a.methods.size < 0x1000000 := by decide
  have hmain : a.methods[1] ∈ a.methods := Array.getElem_mem _
  have htarget : a.methods[0] ∈ a.methods := Array.getElem_mem _
  refine ⟨hbuilt, hlisted, _, hmain, _, htarget, rfl, rfl, fun h ↦ ?_⟩
  have hcall := (Usage.callsAgree_iff hbuilt.rowsNumbered hfew hlisted hmain htarget).1 h _ rfl
  exact absurd hcall (by decide)

end Analyzer

end CliMetadata
