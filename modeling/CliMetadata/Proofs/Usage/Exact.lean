import CliMetadata.Proofs.Usage.Calls

namespace CliMetadata.Usage

/-- What a definition is to the symbol whose uses are looked for. -/
def Plays (a : Assembly) : Symbol → Token → Role → Prop
  | .type t, d, .type => d = t.token
  | .type t, d, .constructor =>
    ∃ m ∈ a.methodsOf t.methods, m.isConstructor = true ∧ m.token = d
  | .method m, d, .method => d = m.token
  | .field f, d, .field => d = f.token
  | .property p, d, .getter => p.getter = some d
  | .property p, d, .setter => p.setter = some d
  | .event e, d, .method => d ∈ e.accessors
  | _, _, _ => False

/-- The accessors of a property or an event are methods, and those of a property are different. -/
def AccessorsDefined (a : Assembly) : Symbol → Prop
  | .property p => p.accessors.Nodup ∧ ∀ d ∈ p.accessors, (a.method? d).isSome = true
  | .event e => ∀ d ∈ e.accessors, (a.method? d).isSome = true
  | _ => True

/-- An instruction is a use of a kind: its token stands for a definition that plays a role for the
symbol, and the mnemonic makes a use of that kind of the role. -/
def Uses (a : Assembly) (s : Symbol) (i : Instruction) (kind : UsageKind) : Prop :=
  ∃ token d role, i.token? = some token ∧ a.StandsFor token d ∧ Plays a s d role ∧
    useIn? i.mnemonic role = some kind

structure FirstUse (a : Assembly) (s : Symbol) (is : List Instruction) (kind : UsageKind)
    (i : Instruction) : Prop where
  mem : i ∈ is
  uses : Uses a s i kind
  least : ∀ j ∈ is, Uses a s j kind → i.offset ≤ j.offset

def place (a : Assembly) (m : MemberId) : Nat := (Scan.methodOrder a).idxOf m.token

/-- The first uses of a symbol in the methods that types list and whose bodies can be decoded, one
for each method and kind, in the order of the methods and of the offsets. -/
structure Exact (a : Assembly) (s : Symbol) (uses : List UsageEdge) : Prop where
  mem_iff : ∀ e, e ∈ uses ↔ ∃ t ∈ a.types, ∃ m ∈ a.methodsOf t.methods, ∃ is kind i,
    m.instructions? = some is ∧ FirstUse a s is kind i ∧
      e = edge a m (some (s.id a.mvid)) (s.fullName a) kind i
  once : uses.Pairwise fun e f ↦ ¬(e.source = f.source ∧ e.kind = f.kind)
  ordered : uses.Pairwise fun e f ↦
    place a e.source < place a f.source ∨ e.source = f.source ∧ e.offset < f.offset

section FirstPerKey

variable {α κ : Type} [DecidableEq κ] {key : α → κ}

theorem firstPerKey_sublist (xs : List α) : (firstPerKey key xs).Sublist xs := by
  induction xs with
  | nil => exact .slnil
  | cons x xs ih => exact (List.filter_sublist.trans ih).cons_cons x

theorem pairwise_firstPerKey (xs : List α) :
    (firstPerKey key xs).Pairwise fun x y ↦ key x ≠ key y := by
  induction xs with
  | nil => exact .nil
  | cons x xs ih =>
    refine List.pairwise_cons.2 ⟨fun y hy ↦ ?_, ih.filter _⟩
    have hne := (List.mem_filter.1 hy).2
    exact Ne.symm (bne_iff_ne.1 hne)

theorem find?_eq_some_iff_least {is : List Instruction} (his : is.Pairwise (·.offset < ·.offset))
    {p : Instruction → Bool} {i : Instruction} : is.find? p = some i ↔
      i ∈ is ∧ p i = true ∧ ∀ j ∈ is, p j = true → i.offset ≤ j.offset := by
  induction is with
  | nil => simp
  | cons x is ih =>
    obtain ⟨hbehind, his⟩ := List.pairwise_cons.1 his
    rw [List.find?_cons]
    cases hx : p x with
    | true =>
      constructor
      · intro h
        cases h
        refine ⟨List.mem_cons_self, hx, fun j hj _ ↦ ?_⟩
        rcases List.mem_cons.1 hj with rfl | hj
        · exact Nat.le_refl _
        · exact Nat.le_of_lt (hbehind j hj)
      · rintro ⟨hi, _, hleast⟩
        rcases List.mem_cons.1 hi with rfl | hi
        · rfl
        · have hlt := hbehind i hi
          have hle := hleast x List.mem_cons_self hx
          omega
    | false =>
      simp only [ih his, List.mem_cons, forall_eq_or_imp, hx, Bool.false_eq_true, false_implies,
        true_and]
      constructor
      · rintro ⟨hi, hp, hleast⟩
        exact ⟨.inr hi, hp, hleast⟩
      · rintro ⟨rfl | hi, hp, hleast⟩
        · rw [hx] at hp
          cases hp
        · exact ⟨hi, hp, hleast⟩

end FirstPerKey

section Roles

variable {a : Assembly} {s : Symbol} {d : Token} {role other : Role}

theorem mem_ownRoles_iff : (d, role) ∈ ownRoles a s ↔ Plays a s d role := by
  cases s <;> cases role <;> simp [ownRoles, Plays, and_assoc]

variable (hrows : a.RowsNumbered) (hs : s.StandsAt a s.token) (haccessors : AccessorsDefined a s)

include hrows hs haccessors

theorem contains_of_plays (h : Plays a s d role) : a.contains d = true := by
  have hself := Assembly.contains_of_standsAt hs
  have hmethod (hd : (a.method? d).isSome = true) : a.contains d = true := by
    simp [Assembly.contains, hd]
  cases s with
  | type t =>
    cases role with
    | type =>
      obtain rfl : d = t.token := h
      exact hself
    | constructor =>
      obtain ⟨m, hm, _, rfl⟩ := h
      exact Assembly.contains_of_method? (hrows.method?_of_mem_methodsOf hm)
    | _ => cases h
  | method m =>
    cases role with
    | method =>
      obtain rfl : d = m.token := h
      exact hself
    | _ => cases h
  | field f =>
    cases role with
    | field =>
      obtain rfl : d = f.token := h
      exact hself
    | _ => cases h
  | property p =>
    obtain ⟨_, hmethods⟩ := haccessors
    cases role with
    | getter =>
      have hd : p.getter = some d := h
      exact hmethod (hmethods d (by simp [PropertyDef.accessors, hd]))
    | setter =>
      have hd : p.setter = some d := h
      exact hmethod (hmethods d (by simp [PropertyDef.accessors, hd]))
    | _ => cases h
  | event e =>
    cases role with
    | method => exact hmethod (haccessors d h)
    | _ => cases h

theorem Plays.unique (h : Plays a s d role) (h' : Plays a s d other) : role = other := by
  cases s with
  | type t =>
    have hne : ¬(Plays a (.type t) d .type ∧ Plays a (.type t) d .constructor) := by
      rintro ⟨htype, m, hm, _, hmethod⟩
      have hfound : a.typeDef? t.token = some t := hs
      have htable := Assembly.table_of_rowOf? (hrows.method?_of_mem_methodsOf hm)
      obtain rfl : d = t.token := htype
      rw [hmethod, Assembly.table_of_rowOf? hfound] at htable
      cases htable
    cases role <;> cases other
    case type.constructor => exact absurd ⟨h, h'⟩ hne
    case constructor.type => exact absurd ⟨h', h⟩ hne
    all_goals first | rfl | exact False.elim h | exact False.elim h'
  | property p =>
    have hne : ¬(p.getter = some d ∧ p.setter = some d) := by
      rintro ⟨hgetter, hsetter⟩
      have hnodup := haccessors.1
      simp [PropertyDef.accessors, hgetter, hsetter] at hnodup
    cases role <;> cases other
    case getter.setter => exact absurd ⟨h, h'⟩ hne
    case setter.getter => exact absurd ⟨h', h⟩ hne
    all_goals first | rfl | exact False.elim h | exact False.elim h'
  | method m =>
    cases role <;> cases other <;> first | rfl | exact False.elim h | exact False.elim h'
  | field f =>
    cases role <;> cases other <;> first | rfl | exact False.elim h | exact False.elim h'
  | event e =>
    cases role <;> cases other <;> first | rfl | exact False.elim h | exact False.elim h'

theorem lookup_ownRoles_iff :
    (ownRoles a s).reverse.lookup d = some role ↔ Plays a s d role := by
  rw [← mem_ownRoles_iff]
  constructor
  · intro h
    obtain ⟨front, behind, hsplit, _⟩ := List.lookup_eq_some_iff.1 h
    rw [← List.mem_reverse, hsplit]
    exact List.mem_append_right _ List.mem_cons_self
  · intro h
    cases hlookup : (ownRoles a s).reverse.lookup d with
    | none =>
      have hnone := List.lookup_eq_none_iff.1 hlookup (d, role) (List.mem_reverse.2 h)
      simp at hnone
    | some first =>
      obtain ⟨front, behind, hsplit, _⟩ := List.lookup_eq_some_iff.1 hlookup
      have hfirst : (d, first) ∈ ownRoles a s := by
        rw [← List.mem_reverse, hsplit]
        exact List.mem_append_right _ List.mem_cons_self
      rw [Plays.unique hrows hs haccessors (mem_ownRoles_iff.1 hfirst) (mem_ownRoles_iff.1 h)]

/-- What the table of roles makes of an instruction is what the instruction is on its own. -/
theorem use?_eq_some_iff {i : Instruction} {kind : UsageKind} :
    use? (rolesOf a s) i = some kind ↔ Uses a s i kind := by
  have hown : ∀ entry ∈ ownRoles a s, a.contains entry.1 = true := fun entry h ↦
    contains_of_plays hrows hs haccessors (mem_ownRoles_iff.1 h)
  simp only [use?, Option.bind_eq_bind, Option.bind_eq_some_iff, lookup_rolesOf hrows hown,
    hrows.resolve?_eq_some_iff, lookup_ownRoles_iff hrows hs haccessors, Uses]
  constructor
  · rintro ⟨token, htoken, role, ⟨d, hd, hplays⟩, hkind⟩
    exact ⟨token, d, role, htoken, hd, hplays, hkind⟩
  · rintro ⟨token, d, role, htoken, hd, hplays, hkind⟩
    exact ⟨token, htoken, role, ⟨d, hd, hplays⟩, hkind⟩

end Roles

section Scan

variable {a : Assembly} {s : Symbol} {m : MethodDef} {e f : UsageEdge}

theorem mem_edgesIn_iff {roles : List (Token × Role)} :
    e ∈ edgesIn a s roles (fun _ ↦ true) m ↔ ∃ kind i,
      m.instructions.find? (fun i ↦ use? roles i == some kind) = some i ∧
      e = edge a m (some (s.id a.mvid)) (s.fullName a) kind i := by
  have hall (kind? : Option UsageKind) : kind?.filter (fun _ ↦ true) = kind? := by
    cases kind? <;> rfl
  rw [edgesIn, mem_firstPerKey_iff, List.find?_filterMap]
  simp only [hall, Option.any_map, edge, Option.bind_eq_some_iff,
    Option.map_eq_some_iff]
  have hany (kind : UsageKind) : (fun i ↦ (use? roles i).any fun k ↦ k == kind)
      = fun i ↦ use? roles i == some kind := by
    funext i
    cases use? roles i <;> rfl
  constructor
  · rintro ⟨i, hfind, kind, _, rfl⟩
    rw [hany] at hfind
    exact ⟨kind, i, hfind, rfl⟩
  · rintro ⟨kind, i, hfind, rfl⟩
    have huse := List.find?_some (p := fun i ↦ use? roles i == some kind) hfind
    refine ⟨i, ?_, kind, beq_iff_eq.1 huse, rfl⟩
    rw [hany]
    exact hfind

theorem pairwise_edgesIn (a : Assembly) (s : Symbol) (roles : List (Token × Role))
    (m : MethodDef) : (edgesIn a s roles (fun _ ↦ true) m).Pairwise fun e f ↦
      e.kind ≠ f.kind ∧ e.offset < f.offset := by
  have hoffset := (m.pairwise_offset.filterMap
    (fun i ↦ ((use? roles i).filter fun _ ↦ true).map fun kind ↦
      edge a m (some (s.id a.mvid)) (s.fullName a) kind i)
    (S := fun e f ↦ e.offset < f.offset) ?_)
  · exact (pairwise_firstPerKey _).and (hoffset.sublist (firstPerKey_sublist _))
  · intro i j hlt e he f hf
    obtain ⟨_, _, rfl⟩ := Option.map_eq_some_iff.1 he
    obtain ⟨_, _, rfl⟩ := Option.map_eq_some_iff.1 hf
    exact hlt

theorem source_of_mem_lookIn (hrows : a.RowsNumbered) {roles : List (Token × Role)} {token : Token}
    (h : e ∈ lookIn a (edgesIn a s roles fun _ ↦ true) token) :
    e.source = ⟨a.mvid, token, .method⟩ := by
  rw [lookIn] at h
  cases hm : a.method? token with
  | none =>
    rw [hm] at h
    cases h
  | some m =>
    rw [hm] at h
    obtain ⟨_, _, _, rfl⟩ := mem_edgesIn_iff.1 h
    rw [← hrows.methods.token_rowOf? hm]
    rfl

theorem pairwise_idxOf {tokens : List Token} (h : tokens.Nodup) :
    tokens.Pairwise fun p q ↦ p ≠ q ∧ tokens.idxOf p < tokens.idxOf q := by
  rw [List.pairwise_iff_getElem]
  intro i j hi hj hij
  have hlt : tokens.idxOf tokens[i] < tokens.idxOf tokens[j] := by
    rw [h.idxOf_getElem i hi, h.idxOf_getElem j hj]
    exact hij
  refine ⟨fun heq ↦ ?_, hlt⟩
  rw [heq] at hlt
  exact Nat.lt_irrefl _ hlt

variable (hrows : a.RowsNumbered) (hs : s.StandsAt a s.token) (haccessors : AccessorsDefined a s)

include hrows hs haccessors

theorem firstUse_iff {is : List Instruction} (his : m.instructions? = some is) {kind : UsageKind}
    {i : Instruction} : FirstUse a s is kind i ↔
      m.instructions.find? (fun i ↦ use? (rolesOf a s) i == some kind) = some i := by
  have hpairwise := m.pairwise_offset
  rw [MethodDef.instructions, his, Option.getD_some] at hpairwise ⊢
  rw [find?_eq_some_iff_least hpairwise]
  simp only [beq_iff_eq, use?_eq_some_iff hrows hs haccessors]
  constructor
  · rintro ⟨hmem, huses, hleast⟩
    exact ⟨hmem, huses, hleast⟩
  · rintro ⟨hmem, huses, hleast⟩
    exact ⟨hmem, huses, hleast⟩

theorem exact_scan (hfew : a.TokensSuffice) (hlists : a.MembersListed) : Exact a s
    ((Scan.methodOrder a).flatMap (lookIn a (edgesIn a s (rolesOf a s) fun _ ↦ true))) := by
  have horder := pairwise_idxOf (hlists.methods.nodup_flatMap hfew.methods hfew.types)
  have hsource {e : UsageEdge} {token : Token}
      (h : e ∈ lookIn a (edgesIn a s (rolesOf a s) fun _ ↦ true) token) :=
    source_of_mem_lookIn hrows h
  have hwithin (token : Token) : (lookIn a (edgesIn a s (rolesOf a s) fun _ ↦ true) token).Pairwise
      fun e f ↦ e.kind ≠ f.kind ∧ e.offset < f.offset := by
    rw [lookIn]
    cases a.method? token with
    | none => exact .nil
    | some m => exact pairwise_edgesIn a s _ m
  constructor
  case mem_iff =>
    intro e
    constructor
    · intro he
      obtain ⟨token, htoken, he⟩ := List.mem_flatMap.1 he
      obtain ⟨t, ht, hmem⟩ := List.mem_flatMap.1 htoken
      rw [lookIn] at he
      cases hm : a.method? token with
      | none =>
        rw [hm] at he
        cases he
      | some m =>
        rw [hm] at he
        obtain ⟨kind, i, hfind, rfl⟩ := mem_edgesIn_iff.1 he
        cases his : m.instructions? with
        | none =>
          rw [MethodDef.instructions, his] at hfind
          cases hfind
        | some is =>
          have hlisted := Assembly.mem_methodsOf_iff.2 ⟨token, hmem, hm⟩
          exact ⟨t, Array.mem_toList_iff.1 ht, m, hlisted, is, kind, i, his,
            (firstUse_iff hrows hs haccessors his).2 hfind, rfl⟩
    · rintro ⟨t, ht, m, hm, is, kind, i, his, hfirst, rfl⟩
      obtain ⟨token, hmem, hrow⟩ := Assembly.mem_methodsOf_iff.1 hm
      refine List.mem_flatMap.2 ⟨token, List.mem_flatMap.2 ⟨t, Array.mem_toList_iff.2 ht, hmem⟩, ?_⟩
      rw [lookIn, hrow]
      exact mem_edgesIn_iff.2 ⟨kind, i, (firstUse_iff hrows hs haccessors his).1 hfirst, rfl⟩
  case once =>
    refine List.pairwise_flatMap.2 ⟨fun token _ ↦ (hwithin token).imp ?_, horder.imp ?_⟩
    · intro e f hef h
      exact hef.1 h.2
    · rintro p q ⟨hne, _⟩ e he f hf ⟨hsame, _⟩
      rw [hsource he, hsource hf] at hsame
      exact hne (congrArg MemberId.token hsame)
  case ordered =>
    refine List.pairwise_flatMap.2 ⟨fun token _ ↦ (hwithin token).imp_of_mem ?_, horder.imp ?_⟩
    · intro e f he hf hef
      exact .inr ⟨(hsource he).trans (hsource hf).symm, hef.2⟩
    · rintro p q ⟨_, hlt⟩ e he f hf
      rw [place, place, hsource he, hsource hf]
      exact .inl hlt

end Scan

end CliMetadata.Usage
