import CliMetadata.Proofs.Signature.Form

namespace CliMetadata

open Cursor (between)

variable {α β : Type}

namespace Reader

/-- A reader makes a value of some bytes under a condition, and fails on them otherwise, whatever is
in front of them and behind them. -/
structure Gives (r : Reader α) (bytes : List UInt8) (a : α) (P : Prop) : Prop where
  read (front rest : List UInt8) :
    P → r (between front (bytes ++ rest)) = (.ok a, between (front ++ bytes) rest)
  refused (front rest : List UInt8) :
    ¬P → ∃ e c, r (between front (bytes ++ rest)) = (.error e, c)

theorem Accepts.gives {r : Reader α} {G : Grammar α} {bytes : List UInt8} {a : α}
    (hr : r.Accepts G) (h : ∀ n, G n bytes a) : r.Gives bytes a True where
  read front rest _ := hr.complete rest (h front.length)
  refused _ _ hfalse := (hfalse trivial).elim

namespace Gives

variable {r : Reader α} {f : α → Reader β} {bytes first second : List UInt8} {a : α} {b : β}
  {P Q : Prop}

theorem pure (a : α) : (pure a : Reader α).Gives [] a True where
  read _ _ _ := by simp
  refused _ _ hfalse := (hfalse trivial).elim

theorem congr (h : r.Gives bytes a P) (hPQ : P ↔ Q) : r.Gives bytes a Q :=
  propext hPQ ▸ h

theorem bind (hr : r.Gives first a P) (hf : (f a).Gives second b Q) :
    (r >>= f).Gives (first ++ second) b (P ∧ Q) where
  read front rest h := by
    have hfirst := hr.read front (second ++ rest) h.1
    have hsecond := hf.read (front ++ first) rest h.2
    rw [List.append_assoc, Attempt.bind_of_ok hfirst, hsecond, List.append_assoc]
  refused front rest h := by
    rw [List.append_assoc]
    by_cases hP : P
    · rw [Attempt.bind_of_ok (hr.read front (second ++ rest) hP)]
      exact hf.refused (front ++ first) rest fun hQ ↦ h ⟨hP, hQ⟩
    · obtain ⟨e, c, hfail⟩ := hr.refused front (second ++ rest) hP
      exact ⟨e, c, Attempt.bind_of_error hfail⟩

theorem behind (hr : r.Gives first a True) (hf : (f a).Gives second b Q) :
    (r >>= f).Gives (first ++ second) b Q :=
  (hr.bind hf).congr (iff_of_eq (true_and Q))

theorem map (hr : r.Gives bytes a P) (g : α → β) :
    (do let x ← r
        Pure.pure (g x)).Gives bytes (g a) P := by
  have hg : (Pure.pure (g a) : Reader β).Gives [] (g a) True := .pure (g a)
  have h := (hr.bind (f := fun x ↦ Pure.pure (g x)) hg).congr (iff_of_eq (and_true P))
  rwa [List.append_nil] at h

theorem look {g : α → Reader β} {x : α}
    (hr : ∀ front rest, r (between front (bytes ++ rest)) = (.ok x, between front (bytes ++ rest)))
    (hg : (g x).Gives bytes b Q) : (r >>= g).Gives bytes b Q where
  read front rest hQ := by
    rw [Attempt.bind_of_ok (hr front rest)]
    exact hg.read front rest hQ
  refused front rest hQ := by
    rw [Attempt.bind_of_ok (hr front rest)]
    exact hg.refused front rest hQ

theorem peek {code : UInt8} {g : UInt8 → Reader β} (hg : (g code).Gives (code :: bytes) b Q) :
    (Reader.peek >>= g).Gives (code :: bytes) b Q :=
  look (fun front rest ↦ by simp [Reader.peek, between]) hg

theorem byte {code : UInt8} {g : UInt8 → Reader β} (hg : (g code).Gives bytes b Q) :
    (Reader.byte >>= g).Gives (code :: bytes) b Q :=
  (byte_accepts.gives fun _ ↦ rfl).behind hg

theorem skip {code : UInt8} {g : Unit → Reader β} (hg : (g ()).Gives bytes b Q) :
    (Reader.skip 1 >>= g).Gives (code :: bytes) b Q := by
  have hskip : (Reader.skip 1).Gives [code] () True := by
    refine ⟨fun front rest _ ↦ ?_, fun _ _ hfalse ↦ (hfalse trivial).elim⟩
    simp [Reader.skip, seek, between]
  exact hskip.behind hg

theorem times {R : List UInt8 → α → Prop} {as : List α} {P : α → Prop} (h : Sequence R bytes as)
    (hr : ∀ first a, R first a → r.Gives first a (P a)) :
    Gives (Attempt.times as.length r) bytes as (∀ a ∈ as, P a) := by
  induction h with
  | nil => exact (Gives.pure []).congr (by simp)
  | cons ha _ ih =>
    exact ((hr _ _ ha).bind (ih.map (_ :: ·))).congr List.forall_mem_cons.symm

end Gives

end Reader

open Reader

namespace Signature

theorem compressedToken_gives {bytes : List UInt8} {token : Token} (h : TypeTokenForm bytes token) :
    compressedToken.Gives bytes token True :=
  ⟨fun front rest _ ↦ compressedToken_of_form h front rest, fun _ _ hno ↦ (hno trivial).elim⟩

theorem discard_bind (r : Reader α) (g : Unit → Reader β) :
    discard r >>= g = r >>= fun _ ↦ g () := by
  rw [Functor.discard, map_const, Function.comp_apply, bind_map_left]

theorem hasMore_gives {code : UInt8} {bytes : List UInt8} {g : Bool → Reader β} {b : β} {Q : Prop}
    (hg : (g true).Gives (code :: bytes) b Q) :
    (Reader.hasMore >>= g).Gives (code :: bytes) b Q :=
  .look (fun front rest ↦ by simp [Reader.hasMore, hasMore_between]) hg

theorem skipModifiers_gives {mods bytes : List UInt8} {code : UInt8} {g : Unit → Reader β} {b : β}
    {Q : Prop} (h : ModifiersForm mods) {fuel : Nat} (hfuel : mods.length ≤ fuel)
    (hcode : isModifier code = false) (hg : (g ()).Gives (code :: bytes) b Q) :
    (skipModifiers fuel >>= g).Gives (mods ++ code :: bytes) b Q := by
  induction h generalizing fuel with
  | nil =>
    cases fuel with
    | zero => exact hg
    | succ fuel =>
      rw [skipModifiers, bind_assoc]
      refine hasMore_gives ?_
      rw [if_pos rfl, bind_assoc]
      refine .peek ?_
      rw [hcode]
      exact hg
  | @cons mark first others token hmark htoken _ ih =>
    have hlen : (mark :: (first ++ others)).length = first.length + others.length + 1 := by simp
    obtain ⟨fuel, rfl⟩ : ∃ n, fuel = n + 1 := ⟨fuel - 1, by omega⟩
    have hyes : isModifier mark = true := by simpa [isModifier] using hmark
    rw [List.cons_append, List.append_assoc, skipModifiers, bind_assoc]
    refine hasMore_gives ?_
    rw [if_pos rfl, bind_assoc]
    refine .peek ?_
    rw [if_pos hyes, bind_assoc]
    refine .skip ?_
    rw [bind_assoc, discard_bind]
    exact (compressedToken_gives htoken).behind (ih (by omega))

theorem modifiers_gives {mods bytes : List UInt8} {code : UInt8} {g : Unit → Reader β} {b : β}
    {Q : Prop} (h : ModifiersForm mods) (hcode : isModifier code = false)
    (hg : (g ()).Gives (code :: bytes) b Q) :
    (modifiers >>= g).Gives (mods ++ code :: bytes) b Q := by
  have hrun (front rest : List UInt8) :
      (modifiers >>= g) (between front (mods ++ code :: bytes ++ rest))
        = (skipModifiers (mods ++ code :: bytes ++ rest).length >>= g)
            (between front (mods ++ code :: bytes ++ rest)) := by
    rw [modifiers, bind_assoc, Attempt.bind_of_ok (t := between front _)
      (show Reader.remaining _ = (.ok _, _) from rfl), remaining_between]
  have hskip (rest : List UInt8) := skipModifiers_gives (g := g) h
    (show mods.length ≤ (mods ++ code :: bytes ++ rest).length by simp) hcode hg
  refine ⟨fun front rest hQ ↦ ?_, fun front rest hQ ↦ ?_⟩
  · rw [hrun]
    exact (hskip rest).read front rest hQ
  · rw [hrun]
    exact (hskip rest).refused front rest hQ

theorem unsigned_gives {bytes : List UInt8} {n : Nat} (h : UnsignedForm bytes n) :
    compressedNat.Gives bytes n True :=
  compressedNat_accepts.gives fun _ ↦ h

theorem arrayRank_gives {bytes : List UInt8} {rank : Nat} (h : ShapeForm bytes rank) :
    arrayRank.Gives bytes rank True := by
  obtain ⟨hrank, hsizeCount, hsizes, hboundCount, hbounds⟩ := h
  refine (unsigned_gives hrank).behind ((unsigned_gives hsizeCount).behind ?_)
  rw [discard_bind]
  refine (((times_accepts compressedNat_accepts _).gives fun n ↦ ⟨rfl, hsizes.many n⟩)).behind ?_
  refine (unsigned_gives hboundCount).behind ?_
  rw [discard_bind]
  exact ((times_accepts compressedInt_accepts _).gives fun n ↦ ⟨rfl, hbounds.many n⟩).map
    fun _ ↦ rank

/-- The first byte of a type: no modifier, no mark of variable parameters, and the mark of a
reference only where the type is one. -/
theorem ElementForm.head {bytes : List UInt8} {t : TypeSig} (h : ElementForm bytes t) :
    ∃ code rest, bytes = code :: rest ∧ isModifier code = false ∧ code ≠ 0x41 ∧
      (code = 0x10 → t.IsByRef) ∧ (t.IsNamed → code = 0x12 ∨ code = 0x11) := by
  cases h with
  | @primitive code p h =>
    obtain rfl := mem_primitiveCodes_iff.1 h
    have hcode : isModifier p.code = false ∧ p.code ≠ 0x41 ∧ p.code ≠ 0x10 := by
      cases p <;> decide
    exact ⟨_, _, rfl, hcode.1, hcode.2.1, fun h ↦ (hcode.2.2 h).elim, False.elim⟩
  | byRef _ => exact ⟨_, _, rfl, rfl, by decide, fun _ ↦ trivial, False.elim⟩
  | valueType _ => exact ⟨_, _, rfl, rfl, by decide, fun h ↦ (by cases h), fun _ ↦ .inr rfl⟩
  | classType _ => exact ⟨_, _, rfl, rfl, by decide, fun h ↦ (by cases h), fun _ ↦ .inl rfl⟩
  | pointer _ | typeVar _ | array _ _ | generic _ _ _ _ | function _ | vector _ | methodVar _
  | pinned _ => exact ⟨_, _, rfl, rfl, by decide, fun h ↦ (by cases h), False.elim⟩

section

variable {type : Reader TypeSig} {P : TypeSig → Prop}
  (htype : ∀ bytes t, TypeForm bytes t → type.Gives bytes t (P t))

include htype

theorem element_gives {bytes : List UInt8} {t : TypeSig} (h : ElementForm bytes t) :
    type.Gives bytes t (P t) :=
  htype bytes t (.mk .nil h)

theorem parameter_gives {bytes : List UInt8} {p : Parameter TypeSig}
    (h : ParameterForm ElementForm bytes p) : (parameter type).Gives bytes p (P p.base) := by
  cases h with
  | @byValue mods bytes base hmods hform hvalue =>
    obtain ⟨code, rest, rfl, hcode, _, href, _⟩ := hform.head
    have hno : (code == 0x10) = false := by
      rw [beq_eq_false_iff_ne]
      exact fun h ↦ hvalue (href h)
    refine modifiers_gives hmods hcode (.peek ?_)
    rw [hno]
    exact (element_gives htype hform).map fun base ↦ (⟨false, base⟩ : Parameter TypeSig)
  | @byRef mods bytes base hmods hform =>
    refine modifiers_gives hmods (by decide) (.peek ?_)
    exact .skip ((htype bytes base hform).map fun base ↦ (⟨true, base⟩ : Parameter TypeSig))

theorem callParameter_gives {bytes : List UInt8} {p : Parameter TypeSig}
    (h : ArgumentForm ElementForm bytes p) : (callParameter type).Gives bytes p (P p.base) := by
  cases h with
  | plain h =>
    obtain ⟨code, rest, rfl, hno⟩ : ∃ code rest, bytes = code :: rest ∧ code ≠ 0x41 := by
      cases h with
      | byValue hmods hform _ =>
        cases hmods with
        | nil =>
          obtain ⟨code, rest, rfl, _, hno, _⟩ := hform.head
          exact ⟨code, rest, rfl, hno⟩
        | cons hmark _ _ => exact ⟨_, _, rfl, by obtain rfl | rfl := hmark <;> decide⟩
      | byRef hmods _ =>
        cases hmods with
        | nil => exact ⟨_, _, rfl, by decide⟩
        | cons hmark _ _ => exact ⟨_, _, rfl, by obtain rfl | rfl := hmark <;> decide⟩
    have hparameter := parameter_gives htype h
    refine .peek ?_
    rwa [beq_eq_false_iff_ne.2 hno]
  | marked h => exact .peek (.skip (parameter_gives htype h))

theorem callable_gives {bytes : List UInt8} {s : MethodSig} (h : CallableForm ElementForm bytes s) :
    (callable type).Gives bytes s (P s.result.base ∧ ∀ p ∈ s.params, P p.base) := by
  obtain ⟨hconvention, hgenerics, hcount, hresult, hparams⟩ := h
  rename_i code generics count first others
  have hgenericCount : Gives (if code.toNat.testBit 4 then compressedNat else pure 0) generics
      s.genericCount True := by
    generalize s.genericCount = n at hgenerics
    cases hgenerics with
    | absent hbit =>
      rw [hbit]
      exact .pure 0
    | given hbit hform =>
      rw [hbit]
      exact unsigned_gives hform
  have hlast := (Gives.times hparams fun _ _ h ↦ callParameter_gives htype h).map fun params ↦
    Callable.mk (code.toNat.testBit 5) (code.toNat.testBit 6) (code.toNat % 16 = 5)
      s.genericCount s.result params
  have hsame : Callable.mk (code.toNat.testBit 5) (code.toNat.testBit 6) (code.toNat % 16 = 5)
      s.genericCount s.result s.params = s := by
    obtain ⟨hthis, hexplicit, hvar⟩ := hconvention
    have hvarArgs : decide (code.toNat % 16 = 5) = s.varArgs := by
      rw [Bool.eq_iff_iff, decide_eq_true_iff, hvar]
    rw [hthis, hexplicit, hvarArgs]
  rw [hsame] at hlast
  have hrun : callable type = byte >>= fun code ↦
      (if code.toNat.testBit 4 then compressedNat else pure 0) >>= fun genericCount ↦
        compressedNat >>= fun count ↦ parameter type >>= fun result ↦
          Attempt.times count (callParameter type) >>= fun params ↦
            pure (Callable.mk (code.toNat.testBit 5) (code.toNat.testBit 6)
              (code.toNat % 16 = 5) genericCount result params) := by
    refine bind_congr fun code ↦ ?_
    dsimp only
    split <;> rfl
  rw [hrun]
  refine .byte (hgenericCount.behind ?_)
  refine (unsigned_gives hcount).behind ?_
  exact (parameter_gives htype hresult).bind hlast

theorem instantiated_gives {first count others : List UInt8} {base : TypeSig} {args : List TypeSig}
    (hbase : ElementForm first base) (hnamed : base.IsNamed)
    (hcount : UnsignedForm count args.length) (hargs : Sequence TypeForm others args) :
    (instantiated type).Gives (first ++ (count ++ others)) (.generic base args)
      (P base ∧ ∀ t ∈ args, P t) := by
  have hlast := (Gives.times hargs htype).map (TypeSig.generic base ·)
  have hread := element_gives htype hbase
  obtain ⟨code, rest, rfl, _, _, _, hlead⟩ := hbase.head
  have hok : ¬(code ≠ 0x12 ∧ code ≠ 0x11) := by
    obtain rfl | rfl := hlead hnamed <;> decide
  refine .peek ?_
  rw [if_neg hok]
  refine hread.bind ?_
  exact (unsigned_gives hcount).behind hlast

end

/-- A type is read with as many levels as it is deep, and not with fewer. -/
theorem typeWithin_gives (levels : Nat) (bytes : List UInt8) (t : TypeSig) (h : TypeForm bytes t) :
    (typeWithin levels).Gives bytes t (t.nesting ≤ levels) := by
  induction levels generalizing bytes t with
  | zero =>
    have hpos := t.nesting_pos
    exact ⟨fun _ _ hle ↦ by omega, fun _ _ _ ↦ ⟨_, _, rfl⟩⟩
  | succ levels ih =>
    obtain ⟨hmods, hform⟩ := h
    have hinner {bytes : List UInt8} {base : TypeSig} (h : TypeForm bytes base)
        (f : TypeSig → TypeSig) : Gives (do return f (← typeWithin levels)) bytes (f base)
          (base.nesting + 1 ≤ levels + 1) :=
      ((ih bytes base h).map f).congr Nat.succ_le_succ_iff.symm
    have hleaf {bytes : List UInt8} {r : Reader TypeSig} {t : TypeSig} (h : r.Gives bytes t True)
        (ht : t.nesting = 1) : r.Gives bytes t (t.nesting ≤ levels + 1) :=
      h.congr (iff_of_true trivial (by omega))
    cases hform with
    | @primitive code p h =>
      obtain rfl := mem_primitiveCodes_iff.1 h
      have helement : element (typeWithin levels) p.code = pure (.primitive p) := by
        cases p <;> rfl
      refine modifiers_gives hmods (by cases p <;> rfl) (.byte ?_)
      rw [helement]
      exact hleaf (.pure _) rfl
    | pointer h => exact modifiers_gives hmods rfl (.byte (hinner h .pointer))
    | byRef h => exact modifiers_gives hmods rfl (.byte (hinner h .byRef))
    | vector h => exact modifiers_gives hmods rfl (.byte (hinner h .vector))
    | pinned h => exact modifiers_gives hmods rfl (.byte (hinner h .pinned))
    | valueType h =>
      exact modifiers_gives hmods rfl (.byte (hleaf ((compressedToken_gives h).map _) rfl))
    | classType h =>
      exact modifiers_gives hmods rfl (.byte (hleaf ((compressedToken_gives h).map _) rfl))
    | typeVar h => exact modifiers_gives hmods rfl (.byte (hleaf ((unsigned_gives h).map _) rfl))
    | methodVar h => exact modifiers_gives hmods rfl (.byte (hleaf ((unsigned_gives h).map _) rfl))
    | @array first second base rank hbase hshape =>
      have hread : Gives (typeWithin levels >>= fun base ↦ arrayRank >>= fun rank ↦
          pure (TypeSig.array base rank)) (first ++ second) (.array base rank)
            (base.nesting ≤ levels ∧ True) :=
        (ih first base hbase).bind ((arrayRank_gives hshape).map (TypeSig.array base))
      refine modifiers_gives hmods rfl (.byte (hread.congr ?_))
      rw [and_true, TypeSig.nesting, Nat.succ_le_succ_iff]
    | generic hbase hnamed hcount hargs =>
      have hread := instantiated_gives ih hbase hnamed hcount hargs
      refine modifiers_gives hmods rfl (.byte (hread.congr ?_))
      rw [TypeSig.nesting, Nat.succ_le_succ_iff, Nat.max_le, TypeSig.nestingAll_le_iff]
    | @function bytes s hcallable =>
      have hread := (callable_gives ih hcallable).map TypeSig.function
      refine modifiers_gives hmods rfl (.byte (hread.congr ?_))
      obtain ⟨_, _, _, _, ⟨_, base⟩, params⟩ := s
      rw [TypeSig.nesting, Nat.succ_le_succ_iff, Nat.max_le, TypeSig.nestingParams_le_iff]

/-- What a reader is to make of the forms of its values, whatever follows them. -/
structure ReadsBack (r : Reader α) (Form : List UInt8 → α → Prop) (Encodable : α → Prop)
    (nesting : α → Nat) : Prop where
  written {a : α} : Encodable a → ∃ bytes, Form bytes a
  read {bytes : List UInt8} {a : α} (rest : List UInt8) :
    Form bytes a → nesting a ≤ 49 → r.onBytes (bytes ++ rest).toArray = .ok a
  refused {bytes : List UInt8} {a : α} (rest : List UInt8) :
    Form bytes a → 49 < nesting a → ∃ e, r.onBytes (bytes ++ rest).toArray = .error e

theorem ReadsBack.of_gives {r : Reader α} {Form : List UInt8 → α → Prop} {Encodable : α → Prop}
    {nesting : α → Nat} (hwritten : ∀ a, Encodable a → ∃ bytes, Form bytes a)
    (hgives : ∀ bytes a, Form bytes a → r.Gives bytes a (nesting a ≤ 49)) :
    ReadsBack r Form Encodable nesting where
  written := hwritten _
  read {bytes a} rest hform hle := congrArg Prod.fst ((hgives bytes a hform).read [] rest hle)
  refused {bytes a} rest hform hlt := by
    obtain ⟨e, c, hfail⟩ := (hgives bytes a hform).refused [] rest (Nat.not_le.2 hlt)
    exact ⟨e, congrArg Prod.fst hfail⟩

theorem typeSig_gives (bytes : List UInt8) (t : TypeSig) (h : TypeForm bytes t) :
    typeSig.Gives bytes t (t.nesting ≤ 49) :=
  typeWithin_gives 49 bytes t h

theorem methodSig_gives (bytes : List UInt8) (s : MethodSig) (h : MethodForm bytes s) :
    methodSig.Gives bytes s (s.nesting ≤ 49) := by
  have hread := callable_gives typeSig_gives h
  refine hread.congr ?_
  rw [Callable.nesting, Nat.max_le, TypeSig.nestingParams_le_iff]

theorem fieldSig_gives (bytes : List UInt8) (t : TypeSig) (h : FieldForm bytes t) :
    fieldSig.Gives bytes t (t.nesting ≤ 49) := by
  obtain ⟨hform⟩ := h
  exact .byte (typeSig_gives _ t hform)

theorem propertySig_gives (bytes : List UInt8) (s : PropertySig) (h : PropertyForm bytes s) :
    propertySig.Gives bytes s (s.nesting ≤ 49) := by
  obtain ⟨hcount, hbase, hparams⟩ := h
  rename_i count first others
  obtain ⟨hasThis, base, params⟩ := s
  have hlast := Gives.times hparams fun _ _ h ↦ parameter_gives typeSig_gives h
  have hnesting : (base.nesting ≤ 49 ∧ ∀ p ∈ params, p.base.nesting ≤ 49) ↔
      (PropertySig.mk hasThis base params).nesting ≤ 49 := by
    rw [PropertySig.nesting, Nat.max_le, TypeSig.nestingParams_le_iff]
  have htail : Gives (compressedNat >>= fun count ↦ typeSig >>= fun base ↦
      Attempt.times count (parameter typeSig) >>= fun params ↦
        pure (PropertySig.mk hasThis base params)) (count ++ (first ++ others))
      ⟨hasThis, base, params⟩ ((PropertySig.mk hasThis base params).nesting ≤ 49) := by
    refine (unsigned_gives hcount).behind (.congr ?_ hnesting)
    exact (typeSig_gives _ _ hbase).bind (hlast.map (PropertySig.mk hasThis base))
  have hlead : ∀ hasThis, (if hasThis then 0x28 else 0x08 : UInt8).toNat.testBit 3 = true ∧
      (if hasThis then 0x28 else 0x08 : UInt8).toNat.testBit 5 = hasThis := by decide
  refine .byte ?_
  dsimp only
  rw [if_neg (not_not_intro (hlead hasThis).1), (hlead hasThis).2]
  exact htail

theorem instantiation_gives (bytes : List UInt8) (args : List TypeSig)
    (h : InstantiationForm bytes args) :
    instantiation.Gives bytes args (TypeSig.nestingAll args ≤ 49) := by
  obtain ⟨hcount, hargs⟩ := h
  refine .byte ((unsigned_gives hcount).behind ?_)
  exact (Gives.times hargs typeSig_gives).congr TypeSig.nestingAll_le_iff.symm

/-- Signatures of all kinds are read back from their forms, if they are at most 49 levels deep. -/
theorem signatures_readBack :
    ReadsBack typeSig TypeForm TypeSig.Encodable TypeSig.nesting ∧
      ReadsBack methodSig MethodForm Callable.Encodable Callable.nesting ∧
      ReadsBack fieldSig FieldForm TypeSig.Encodable TypeSig.nesting ∧
      ReadsBack propertySig PropertyForm PropertySig.Encodable PropertySig.nesting ∧
      ReadsBack instantiation InstantiationForm
        (fun args ↦ args.length < 0x20000000 ∧ TypeSig.EncodableAll args) TypeSig.nestingAll :=
  ⟨.of_gives (fun _ ↦ exists_type) typeSig_gives,
    .of_gives (fun _ ↦ exists_method) methodSig_gives,
    .of_gives (fun _ ↦ exists_field) fieldSig_gives,
    .of_gives (fun _ ↦ exists_property) propertySig_gives,
    .of_gives (fun _ h ↦ exists_instantiation h.1 h.2) instantiation_gives⟩

end Signature

end CliMetadata
