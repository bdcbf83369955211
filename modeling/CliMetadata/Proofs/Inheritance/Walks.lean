import CliMetadata.Inheritance
import CliMetadata.Proofs.Assembly.Listed
import Mathlib.Data.List.Nodup
import Mathlib.Data.List.Perm.Subperm

namespace CliMetadata.Inheritance

section Distance

variable (a : Assembly)

def baseOf? (t : TypeDef) : Option TypeDef := t.base.bind (definedType? a)

/-- So many bases lead from a type to the one with the token `root`, and fewer do not. -/
def Below (root : Token) : Nat → TypeDef → Prop
  | 0, t => t.token = root
  | d + 1, t => t.token ≠ root ∧ ∃ b, baseOf? a t = some b ∧ Below root d b

variable {a} {root : Token} {t b : TypeDef} {d e : Nat}

theorem Below.unique (h : Below a root d t) (h' : Below a root e t) : d = e := by
  induction d generalizing e t with
  | zero =>
    cases e with
    | zero => rfl
    | succ e => exact absurd h h'.1
  | succ d ih =>
    cases e with
    | zero => exact absurd h' h.1
    | succ e =>
      obtain ⟨_, b, hb, hd⟩ := h
      obtain ⟨_, b', hb', he⟩ := h'
      rw [hb, Option.some_inj] at hb'
      rw [ih hd (hb' ▸ he)]

theorem mem_of_definedType? {token : Token} (h : definedType? a token = some b) : b ∈ a.types := by
  obtain ⟨_, _, h⟩ := Option.bind_eq_some_iff.1 h
  exact Assembly.mem_of_rowOf? h

theorem mem_of_baseOf? (h : baseOf? a t = some b) : b ∈ a.types := by
  obtain ⟨_, _, h⟩ := Option.bind_eq_some_iff.1 h
  exact mem_of_definedType? h

theorem Below.exists_below (h : Below a root (d + e) t) (ht : t ∈ a.types) :
    ∃ b ∈ a.types, Below a root d b := by
  induction e generalizing t with
  | zero => exact ⟨t, ht, h⟩
  | succ e ih =>
    obtain ⟨_, b, hb, h⟩ := h
    exact ih h (mem_of_baseOf? hb)

end Distance

variable {a : Assembly}

section Derived

variable (hrows : a.RowsNumbered) (hfew : a.types.size < 0x1000000)

include hrows hfew

theorem resolveType?_base_iff {t b : TypeDef} (hb : b ∈ a.types) :
    t.base.bind a.resolveType? = some b.token ↔ baseOf? a t = some b := by
  have hfound := hrows.typeDef?_token hfew hb
  simp only [baseOf?, definedType?, Option.bind_eq_some_iff]
  constructor
  · rintro ⟨token, hbase, htoken⟩
    exact ⟨token, hbase, b.token, htoken, hfound⟩
  · rintro ⟨token, hbase, other, hother, hrow⟩
    rw [hrows.types.token_rowOf? hrow]
    exact ⟨token, hbase, hother⟩

theorem mem_directlyDerived_iff {b : TypeDef} (hb : b ∈ a.types) {token : Token} :
    token ∈ directlyDerived a b.token ↔
      ∃ t ∈ a.types, t.token = token ∧ baseOf? a t = some b := by
  simp only [directlyDerived, List.mem_map, List.mem_filter, Array.mem_toList_iff, beq_iff_eq,
    resolveType?_base_iff hrows hfew hb]
  constructor
  · rintro ⟨t, ⟨ht, hbase⟩, htoken⟩
    exact ⟨t, ht, htoken, hbase⟩
  · rintro ⟨t, ht, htoken, hbase⟩
    exact ⟨t, ⟨ht, hbase⟩, htoken⟩

omit hrows hfew in
variable (a) in
/-- How far a search for derived types has come: `level` are the types at the distance `d`, and
`visited` those up to there. -/
structure Searched (root : Token) (d : Nat) (visited level : List Token) : Prop where
  level_iff : ∀ token, token ∈ level ↔ ∃ t ∈ a.types, t.token = token ∧ Below a root d t
  visited_iff : ∀ token, token ∈ visited ↔
    ∃ t ∈ a.types, t.token = token ∧ ∃ e ≤ d, Below a root e t

omit hrows hfew in
theorem searched_root {root : TypeDef} (hroot : root ∈ a.types) :
    Searched a root.token 0 [root.token] [root.token] := by
  have hiff (token : Token) :
      token ∈ [root.token] ↔ ∃ t ∈ a.types, t.token = token ∧ t.token = root.token := by
    rw [List.mem_singleton]
    constructor
    · rintro rfl
      exact ⟨root, hroot, rfl, rfl⟩
    · rintro ⟨t, _, rfl, htoken⟩
      exact htoken
  refine ⟨hiff, fun token ↦ ?_⟩
  simp only [hiff, Nat.le_zero, exists_eq_left, Below]

variable {root : Token} {d : Nat} {visited level : List Token}

theorem Searched.next (h : Searched a root d visited level) :
    Searched a root (d + 1) (nextLevel a visited level ++ visited) (nextLevel a visited level) := by
  have hlevel (token : Token) : token ∈ nextLevel a visited level ↔
      ∃ t ∈ a.types, t.token = token ∧ Below a root (d + 1) t := by
    rw [nextLevel, List.mem_filter, List.mem_eraseDups, List.mem_flatMap, decide_eq_true_iff,
      h.visited_iff]
    constructor
    · rintro ⟨⟨_, hparent, hchild⟩, hnew⟩
      obtain ⟨b, hb, rfl, hbelow⟩ := (h.level_iff _).1 hparent
      obtain ⟨t, ht, rfl, hbase⟩ := (mem_directlyDerived_iff hrows hfew hb).1 hchild
      refine ⟨t, ht, rfl, fun hroot ↦ ?_, b, hbase, hbelow⟩
      exact hnew ⟨t, ht, rfl, 0, Nat.zero_le d, hroot⟩
    · rintro ⟨t, ht, rfl, hbelow⟩
      have hat := hbelow
      obtain ⟨_, b, hbase, hb⟩ := hbelow
      have hmem := mem_of_baseOf? hbase
      refine ⟨⟨b.token, (h.level_iff _).2 ⟨b, hmem, rfl, hb⟩, ?_⟩, ?_⟩
      · exact (mem_directlyDerived_iff hrows hfew hmem).2 ⟨t, ht, rfl, hbase⟩
      · rintro ⟨u, hu, htoken, e, hle, hother⟩
        rw [hrows.types.eq_of_key hfew hu ht htoken] at hother
        have heq := hother.unique hat
        omega
  refine ⟨hlevel, fun token ↦ ?_⟩
  rw [List.mem_append, hlevel, h.visited_iff]
  constructor
  · rintro (⟨t, ht, htoken, hbelow⟩ | ⟨t, ht, htoken, e, hle, hbelow⟩)
    · exact ⟨t, ht, htoken, d + 1, Nat.le_refl _, hbelow⟩
    · exact ⟨t, ht, htoken, e, by omega, hbelow⟩
  · rintro ⟨t, ht, htoken, e, hle, hbelow⟩
    by_cases he : e = d + 1
    · exact .inl ⟨t, ht, htoken, he ▸ hbelow⟩
    · exact .inr ⟨t, ht, htoken, e, by omega, hbelow⟩

/-- The levels below a level hold the types at the next distances, as many as are asked for. -/
theorem Searched.mem_levelsBelow_iff (h : Searched a root d visited level) {count e : Nat}
    {token : Token} : (token, e) ∈ levelsBelow a visited (d + 1) level count ↔
      d < e ∧ e ≤ d + count ∧ ∃ t ∈ a.types, t.token = token ∧ Below a root e t := by
  induction count generalizing d visited level with
  | zero =>
    simp only [levelsBelow, List.not_mem_nil, false_iff]
    rintro ⟨hlt, hle, _⟩
    omega
  | succ count ih =>
    have hnext := h.next hrows hfew
    rw [levelsBelow]
    by_cases hempty : nextLevel a visited level = []
    · rw [if_pos hempty]
      simp only [List.not_mem_nil, false_iff]
      rintro ⟨hlt, _, t, ht, _, hbelow⟩
      obtain ⟨k, rfl⟩ := Nat.exists_eq_add_of_le (Nat.succ_le_of_lt hlt)
      obtain ⟨b, hb, hat⟩ := hbelow.exists_below ht
      have hmem := (hnext.level_iff b.token).2 ⟨b, hb, rfl, hat⟩
      rw [hempty] at hmem
      cases hmem
    · rw [if_neg hempty, List.mem_append, ih hnext]
      have hhere : (token, e) ∈ (nextLevel a visited level).map (·, d + 1) ↔
          e = d + 1 ∧ ∃ t ∈ a.types, t.token = token ∧ Below a root e t := by
        rw [List.mem_map]
        constructor
        · rintro ⟨other, hmem, heq⟩
          cases heq
          exact ⟨rfl, (hnext.level_iff _).1 hmem⟩
        · rintro ⟨rfl, hat⟩
          exact ⟨token, (hnext.level_iff _).2 hat, rfl⟩
      rw [hhere]
      constructor
      · rintro (⟨rfl, hat⟩ | ⟨hlt, hle, hat⟩)
        · exact ⟨by omega, by omega, hat⟩
        · exact ⟨by omega, by omega, hat⟩
      · rintro ⟨hlt, hle, hat⟩
        by_cases he : e = d + 1
        · exact .inl ⟨he, hat⟩
        · exact .inr ⟨by omega, by omega, hat⟩

theorem Searched.nodup_levelsBelow (h : Searched a root d visited level) {count : Nat} :
    ((levelsBelow a visited (d + 1) level count).map (·.1)).Nodup := by
  induction count generalizing d visited level with
  | zero => exact List.nodup_nil
  | succ count ih =>
    have hnext := h.next hrows hfew
    rw [levelsBelow]
    split
    · exact List.nodup_nil
    · rw [List.map_append, List.map_map, List.nodup_append]
      refine ⟨?_, ih hnext, ?_⟩
      · have hmap : (nextLevel a visited level).map (Prod.fst ∘ (·, d + 1))
            = nextLevel a visited level := List.map_id _
        rw [hmap]
        exact (nodup_eraseDups _).filter _
      · intro token hhere other hlater heq
        obtain ⟨_, hmem, rfl⟩ := List.mem_map.1 hhere
        obtain ⟨⟨_, e⟩, hbehind, rfl⟩ := List.mem_map.1 hlater
        obtain ⟨t, ht, htoken, hat⟩ := (hnext.level_iff _).1 hmem
        obtain ⟨hlt, _, u, hu, hother, hbelow⟩ := (hnext.mem_levelsBelow_iff hrows hfew).1 hbehind
        have hsame : t = u :=
          hrows.types.eq_of_key hfew ht hu (htoken.trans (heq.trans hother.symm))
        have heq := hat.unique (hsame ▸ hbelow)
        omega

end Derived

section Bases

variable {visited : List Token} {depth : Nat} {x : TypeDef}

/-- What the walk along base types does at a type: it ends there, at a type that is not defined in
the assembly, or it goes on to a base that it has not come through. -/
theorem baseTypesFrom_cases (a : Assembly) (visited : List Token) (depth : Nat) (x : TypeDef)
    (count : Nat) :
    baseTypesFrom a visited depth x (count + 1) = [] ∨
      (∃ name, baseTypesFrom a visited depth x (count + 1) = [⟨none, name, depth⟩]) ∨
      ∃ b, baseOf? a x = some b ∧ b.token ∉ visited ∧
        baseTypesFrom a visited depth x (count + 1) =
          .ofType a b depth :: baseTypesFrom a (b.token :: visited) (depth + 1) b count := by
  rw [baseTypesFrom]
  cases hbase : x.base with
  | none => exact .inl rfl
  | some base =>
    dsimp only
    by_cases hname : (endpointOf a base depth).name = rootName
    · rw [if_pos hname]
      exact .inl rfl
    rw [if_neg hname]
    cases hdefined : definedType? a base with
    | none =>
      refine .inr (.inl ⟨a.typeName base, ?_⟩)
      rw [endpointOf, hdefined]
    | some b =>
      dsimp only
      by_cases hnew : b.token ∈ visited
      · rw [if_pos hnew]
        exact .inl rfl
      · refine .inr (.inr ⟨b, by rw [baseOf?, hbase, Option.bind_some, hdefined], hnew, ?_⟩)
        rw [if_neg hnew, endpointOf, hdefined]

theorem baseTypesFrom_of_base {b : TypeDef} (hb : baseOf? a x = some b) (hnew : b.token ∉ visited)
    (hname : b.fullName ≠ rootName) (count : Nat) :
    baseTypesFrom a visited depth x (count + 1) =
      .ofType a b depth :: baseTypesFrom a (b.token :: visited) (depth + 1) b count := by
  obtain ⟨base, hbase, hdefined⟩ := Option.bind_eq_some_iff.1 hb
  have hendpoint : endpointOf a base depth = .ofType a b depth := by
    rw [endpointOf, hdefined]
  have hgoes : ¬(TypeEndpoint.ofType a b depth).name = rootName := hname
  simp only [baseTypesFrom, hbase, hdefined, hendpoint, if_neg hgoes, if_neg hnew]

variable {e : TypeEndpoint} {token : Token} {count : Nat}

theorem mem_baseTypesFrom_cases {id : MemberId}
    (he : e ∈ baseTypesFrom a visited depth x (count + 1)) (hid : e.id = some id) :
    ∃ b, baseOf? a x = some b ∧ b.token ∉ visited ∧ (e = .ofType a b depth ∨
      e ∈ baseTypesFrom a (b.token :: visited) (depth + 1) b count) := by
  rcases baseTypesFrom_cases a visited depth x count with h | ⟨name, h⟩ | ⟨b, hb, hnew, h⟩
  · rw [h] at he
    cases he
  · rw [h, List.mem_singleton] at he
    rw [he] at hid
    cases hid
  · rw [h, List.mem_cons] at he
    exact ⟨b, hb, hnew, he⟩

theorem not_mem_visited (he : e ∈ baseTypesFrom a visited depth x count)
    (hid : e.id = some ⟨a.mvid, token, .type⟩) : token ∉ visited := by
  induction count generalizing visited depth x with
  | zero => cases he
  | succ count ih =>
    obtain ⟨b, _, hnew, rfl | he⟩ := mem_baseTypesFrom_cases he hid
    · cases hid
      exact hnew
    · exact fun hmem ↦ ih he (List.mem_cons_of_mem _ hmem)

theorem below_of_mem (he : e ∈ baseTypesFrom a visited depth x count)
    (hid : e.id = some ⟨a.mvid, token, .type⟩) (hx : x.token ∈ visited) :
    ∃ k < count, e.depth = depth + k ∧ Below a token (k + 1) x := by
  have hne : x.token ≠ token := fun heq ↦ not_mem_visited he hid (heq ▸ hx)
  induction count generalizing visited depth x with
  | zero => cases he
  | succ count ih =>
    obtain ⟨b, hb, _, rfl | he⟩ := mem_baseTypesFrom_cases he hid
    · cases hid
      exact ⟨0, by omega, rfl, hne, b, hb, rfl⟩
    · have hrest := not_mem_visited he hid
      have hneBase : b.token ≠ token := fun heq ↦ hrest (heq ▸ List.mem_cons_self)
      obtain ⟨k, hk, hdepth, hbelow⟩ := ih he List.mem_cons_self hneBase
      exact ⟨k + 1, by omega, by omega, hne, b, hb, hbelow⟩

/-- The walk comes to every type at a distance that it goes. The types it came through stand farther
away than where it is, so it does not stop at one of them before. -/
theorem mem_of_below {t : TypeDef} {k : Nat} (hrows : a.RowsNumbered)
    (hfew : a.types.size < 0x1000000) (hnames : ∀ y ∈ a.types, y.fullName ≠ rootName)
    (ht : t ∈ a.types) (hbelow : Below a t.token (k + 1) x) (hk : k < count)
    (hvisited : ∀ y ∈ a.types, y.token ∈ visited → ∃ m, k < m ∧ Below a t.token m y) :
    .ofType a t (depth + k) ∈ baseTypesFrom a visited depth x count := by
  induction k generalizing visited depth x count with
  | zero =>
    obtain ⟨_, b, hb, htoken⟩ := hbelow
    obtain rfl := hrows.types.eq_of_key hfew (mem_of_baseOf? hb) ht htoken
    obtain ⟨count, rfl⟩ := Nat.exists_eq_add_of_lt hk
    have hnew : b.token ∉ visited := by
      intro hmem
      obtain ⟨m, hm, hother⟩ := hvisited b ht hmem
      have heq : 0 = m := Below.unique (a := a) rfl hother
      omega
    rw [Nat.zero_add, baseTypesFrom_of_base hb hnew (hnames b ht)]
    exact List.mem_cons_self
  | succ k ih =>
    obtain ⟨_, b, hb, hrest⟩ := hbelow
    have hmem := mem_of_baseOf? hb
    obtain ⟨count, rfl⟩ : ∃ c, count = c + 1 := ⟨count - 1, by omega⟩
    have hnew : b.token ∉ visited := by
      intro hin
      obtain ⟨m, hm, hother⟩ := hvisited b hmem hin
      have heq := hrest.unique hother
      omega
    rw [baseTypesFrom_of_base hb hnew (hnames b hmem)]
    refine List.mem_cons_of_mem _ ?_
    have hdepth : depth + (k + 1) = depth + 1 + k := by omega
    rw [hdepth]
    refine ih hrest (by omega) fun y hy hin ↦ ?_
    rcases List.mem_cons.1 hin with htoken | hin
    · exact ⟨k + 1, by omega, hrows.types.eq_of_key hfew hy hmem htoken ▸ hrest⟩
    · obtain ⟨m, hm, hother⟩ := hvisited y hy hin
      exact ⟨m, by omega, hother⟩

theorem nodup_baseTypesFrom (count : Nat) :
    ((baseTypesFrom a visited depth x count).map (·.id)).Nodup := by
  induction count generalizing visited depth x with
  | zero => exact List.nodup_nil
  | succ count ih =>
    rcases baseTypesFrom_cases a visited depth x count with h | ⟨name, h⟩ | ⟨b, _, _, h⟩
    · rw [h]
      exact List.nodup_nil
    · rw [h]
      exact List.nodup_singleton _
    · rw [h, List.map_cons, List.nodup_cons]
      refine ⟨fun hmem ↦ ?_, ih⟩
      obtain ⟨e, he, hid⟩ := List.mem_map.1 hmem
      exact not_mem_visited he hid List.mem_cons_self

end Bases

section Endpoints

variable (a)

def Occurs (t : TypeDef) (d : Nat) (endpoints : List TypeEndpoint) : Prop :=
  ∃ e ∈ endpoints, e.id = some ((Symbol.type t).id a.mvid) ∧ e.depth = d

/-- Endpoints of different types, all of them other than `t`. -/
structure OthersOnce (t : TypeDef) (endpoints : List TypeEndpoint) : Prop where
  nodup : (endpoints.map (·.id)).Nodup
  other : some ((Symbol.type t).id a.mvid) ∉ endpoints.map (·.id)

variable {a} (hrows : a.RowsNumbered) (hfew : a.types.size < 0x1000000) (config : Config)
  {t u : TypeDef} (ht : t ∈ a.types) (hu : u ∈ a.types)

include hrows hfew ht hu in
theorem occurs_baseTypes_iff (hnames : ∀ y ∈ a.types, y.fullName ≠ rootName) (limit : Nat)
    {d : Nat} : Occurs a t d (baseTypes a config u limit) ↔
      0 < d ∧ d ≤ min limit config.maxInheritanceDepth ∧ Below a t.token d u := by
  constructor
  · rintro ⟨e, he, hid, rfl⟩
    obtain ⟨k, hk, hdepth, hbelow⟩ := below_of_mem he hid (List.mem_singleton.2 rfl)
    rw [Nat.add_comm] at hdepth
    rw [hdepth]
    exact ⟨by omega, by omega, hbelow⟩
  · rintro ⟨hpos, hle, hbelow⟩
    obtain ⟨k, rfl⟩ : ∃ k, d = 1 + k := ⟨d - 1, by omega⟩
    rw [Nat.add_comm] at hbelow
    refine ⟨_, mem_of_below hrows hfew hnames ht hbelow (by omega) fun y hy hmem ↦ ?_, rfl, rfl⟩
    have hsame := hrows.types.eq_of_key hfew hy hu (List.mem_singleton.1 hmem)
    exact ⟨k + 1, by omega, hsame ▸ hbelow⟩

theorem othersOnce_baseTypes (u : TypeDef) (limit : Nat) :
    OthersOnce a u (baseTypes a config u limit) := by
  refine ⟨nodup_baseTypesFrom _, fun hmem ↦ ?_⟩
  obtain ⟨e, he, hid⟩ := List.mem_map.1 hmem
  exact not_mem_visited he hid (List.mem_singleton.2 rfl)

include hrows hfew ht

theorem mem_derivedFrom_iff {token : Token} {d : Nat} :
    (token, d) ∈ derivedFrom a config t.token ↔ 0 < d ∧ d ≤ config.maxInheritanceDepth ∧
      ∃ u ∈ a.types, u.token = token ∧ Below a t.token d u := by
  rw [derivedFrom, (searched_root ht).mem_levelsBelow_iff hrows hfew, Nat.zero_add]

include hu in
theorem occurs_derivedTypes_iff {d : Nat} : Occurs a u d (derivedTypes a config t.token) ↔
    0 < d ∧ d ≤ config.maxInheritanceDepth ∧ Below a t.token d u := by
  have hfound := hrows.typeDef?_token hfew hu
  simp only [Occurs, derivedTypes, List.mem_mergeSort, List.mem_filterMap, Prod.exists]
  constructor
  · rintro ⟨e, ⟨token, depth, hmem, hrow⟩, hid, rfl⟩
    obtain ⟨v, hv, rfl⟩ := Option.map_eq_some_iff.1 hrow
    cases hrows.types.token_rowOf? hv
    obtain ⟨hpos, hle, w, hw, htoken, hbelow⟩ :=
      (mem_derivedFrom_iff hrows hfew config ht).1 hmem
    have hvu : v.token = u.token := congrArg MemberId.token (Option.some.inj hid)
    rw [hrows.types.eq_of_key hfew hw hu (htoken.trans hvu)] at hbelow
    exact ⟨hpos, hle, hbelow⟩
  · rintro ⟨hpos, hle, hbelow⟩
    refine ⟨.ofType a u d, ⟨u.token, d, ?_, ?_⟩, rfl, rfl⟩
    · exact (mem_derivedFrom_iff hrows hfew config ht).2 ⟨hpos, hle, u, hu, rfl, hbelow⟩
    · rw [hfound, Option.map_some]

theorem nodup_derivedFrom : ((derivedFrom a config t.token).map (·.1)).Nodup :=
  (searched_root ht).nodup_levelsBelow hrows hfew

theorem othersOnce_derivedTypes : OthersOnce a t (derivedTypes a config t.token) := by
  have hids : ((derivedFrom a config t.token).filterMap fun p ↦
      (a.typeDef? p.1).map fun u ↦ TypeEndpoint.ofType a u p.2).map (·.id) =
      ((derivedFrom a config t.token).map (·.1)).filterMap fun token ↦
        (a.typeDef? token).map fun u ↦ some ((Symbol.type u).id a.mvid) := by
    rw [List.map_filterMap, List.filterMap_map]
    refine List.filterMap_congr fun p _ ↦ ?_
    simp only [Option.map_map]
    rfl
  have hperm : ((derivedTypes a config t.token).map (·.id)).Perm
      (((derivedFrom a config t.token).map (·.1)).filterMap fun token ↦
        (a.typeDef? token).map fun u ↦ some ((Symbol.type u).id a.mvid)) := by
    rw [← hids]
    exact (List.mergeSort_perm _ _).map _
  constructor
  · refine hperm.nodup_iff.2 ((nodup_derivedFrom hrows hfew config ht).filterMap ?_)
    intro token other id hid hother
    obtain ⟨v, hv, rfl⟩ := Option.map_eq_some_iff.1 hid
    obtain ⟨w, hw, hsame⟩ := Option.map_eq_some_iff.1 hother
    have htoken : w.token = v.token := congrArg MemberId.token (Option.some.inj hsame)
    rw [← hrows.types.token_rowOf? hv, ← hrows.types.token_rowOf? hw, htoken]
  · intro hmem
    obtain ⟨e, he, hid⟩ := List.mem_map.1 hmem
    obtain ⟨hpos, _, hbelow⟩ :=
      (occurs_derivedTypes_iff hrows hfew config ht ht).1 ⟨e, he, hid, rfl⟩
    have hzero : 0 = e.depth := Below.unique (a := a) rfl hbelow
    omega

theorem length_derivedTypes_le : (derivedTypes a config t.token).length ≤ a.types.size := by
  have hsubset : (derivedFrom a config t.token).map (·.1) ⊆ a.types.toList.map (·.token) := by
    intro token hmem
    obtain ⟨⟨_, d⟩, hfound, rfl⟩ := List.mem_map.1 hmem
    obtain ⟨_, _, u, hu, htoken, _⟩ := (mem_derivedFrom_iff hrows hfew config ht).1 hfound
    exact List.mem_map.2 ⟨u, Array.mem_toList_iff.2 hu, htoken⟩
  have hlength := ((nodup_derivedFrom hrows hfew config ht).subperm hsubset).length_le
  rw [List.length_map, List.length_map, Array.length_toList] at hlength
  rw [derivedTypes, List.length_mergeSort]
  exact Nat.le_trans (List.length_filterMap_le _ _) hlength

end Endpoints

end CliMetadata.Inheritance
