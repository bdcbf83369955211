import CliMetadata.Proofs.Bytes.Compressed
import CliMetadata.Signature.Reader

namespace CliMetadata

variable {α : Type}

inductive Sequence (R : List UInt8 → α → Prop) : List UInt8 → List α → Prop
  | nil : Sequence R [] []
  | cons {first others : List UInt8} {a : α} {as : List α} :
      R first a → Sequence R others as → Sequence R (first ++ others) (a :: as)

theorem Sequence.many {R : List UInt8 → α → Prop} {bytes : List UInt8} {as : List α}
    (h : Sequence R bytes as) (n : Nat) : Grammar.Many (fun _ taken a ↦ R taken a) n bytes as := by
  induction h generalizing n with
  | nil => exact .nil n
  | @cons first _ _ _ ha _ ih => exact .cons ha (ih (n + first.length))

theorem Sequence.exists_of_forall {R : List UInt8 → α → Prop} {as : List α}
    (h : ∀ a ∈ as, ∃ bytes, R bytes a) : ∃ bytes, Sequence R bytes as := by
  induction as with
  | nil => exact ⟨[], .nil⟩
  | cons a as ih =>
    obtain ⟨first, hfirst⟩ := h a (List.mem_cons_self ..)
    obtain ⟨others, hothers⟩ := ih fun b hb ↦ h b (List.mem_cons_of_mem a hb)
    exact ⟨first ++ others, .cons hfirst hothers⟩

namespace TypeSig

def IsByRef : TypeSig → Prop
  | .byRef _ => True
  | _ => False

def IsNamed : TypeSig → Prop
  | .classType _ | .valueType _ => True
  | _ => False

mutual

/-- How deep types stand in each other. -/
def nesting : TypeSig → Nat
  | .primitive _ | .valueType _ | .classType _ | .typeVar _ | .methodVar _ => 1
  | .pointer base | .byRef base | .vector base | .pinned base | .array base _ => nesting base + 1
  | .generic base args => max (nesting base) (nestingAll args) + 1
  | .function ⟨_, _, _, _, ⟨_, base⟩, params⟩ => max (nesting base) (nestingParams params) + 1

def nestingAll : List TypeSig → Nat
  | [] => 0
  | t :: ts => max (nesting t) (nestingAll ts)

def nestingParams : List (Parameter TypeSig) → Nat
  | [] => 0
  | ⟨_, base⟩ :: params => max (nesting base) (nestingParams params)

end

theorem nesting_pos (t : TypeSig) : 0 < t.nesting := by
  cases t <;> simp only [nesting] <;> omega

theorem nestingAll_le_iff {ts : List TypeSig} {n : Nat} :
    nestingAll ts ≤ n ↔ ∀ t ∈ ts, t.nesting ≤ n := by
  induction ts with
  | nil => simp [nestingAll]
  | cons t ts ih => rw [nestingAll, Nat.max_le, ih, List.forall_mem_cons]

theorem nestingParams_le_iff {params : List (Parameter TypeSig)} {n : Nat} :
    nestingParams params ≤ n ↔ ∀ p ∈ params, p.base.nesting ≤ n := by
  induction params with
  | nil => simp [nestingParams]
  | cons p params ih => rw [nestingParams, Nat.max_le, ih, List.forall_mem_cons]

end TypeSig

def Callable.nesting (s : MethodSig) : Nat :=
  max s.result.base.nesting (TypeSig.nestingParams s.params)

def PropertySig.nesting (s : PropertySig) : Nat :=
  max s.base.nesting (TypeSig.nestingParams s.params)

def Token.IsType (t : Token) : Prop :=
  ∃ table ∈ typeTables, ∃ row < 0x1000000, t = table.token row

namespace TypeSig

mutual

/-- What can be written: the integers have 29 bits, tokens are those of types, generic types are
named, and a parameter that is passed by value is not a reference. -/
def Encodable : TypeSig → Prop
  | .primitive _ => True
  | .pointer base | .byRef base | .vector base | .pinned base => Encodable base
  | .valueType token | .classType token => token.IsType
  | .typeVar index | .methodVar index => index < 0x20000000
  | .array base rank => Encodable base ∧ rank < 0x20000000
  | .generic base args =>
    Encodable base ∧ base.IsNamed ∧ args.length < 0x20000000 ∧ EncodableAll args
  | .function ⟨_, _, _, genericCount, ⟨isRef, base⟩, params⟩ =>
    genericCount < 0x20000000 ∧ params.length < 0x20000000 ∧ Encodable base ∧
      (isRef = false → ¬base.IsByRef) ∧ EncodableParams params

def EncodableAll : List TypeSig → Prop
  | [] => True
  | t :: ts => Encodable t ∧ EncodableAll ts

def EncodableParams : List (Parameter TypeSig) → Prop
  | [] => True
  | ⟨isRef, base⟩ :: params =>
    Encodable base ∧ (isRef = false → ¬base.IsByRef) ∧ EncodableParams params

end

end TypeSig

def Callable.Encodable (s : MethodSig) : Prop := (TypeSig.function s).Encodable

structure PropertySig.Encodable (s : PropertySig) : Prop where
  count : s.params.length < 0x20000000
  base : s.base.Encodable
  params : TypeSig.EncodableParams s.params

namespace Signature

inductive ModifiersForm : List UInt8 → Prop
  | nil : ModifiersForm []
  | cons {code : UInt8} {first others : List UInt8} {token : Token} : code = 0x1F ∨ code = 0x20 →
      TypeTokenForm first token → ModifiersForm others → ModifiersForm (code :: (first ++ others))

/-- A form with custom modifiers in front. -/
inductive Modified (E : List UInt8 → α → Prop) : List UInt8 → α → Prop
  | mk {mods bytes : List UInt8} {a : α} :
      ModifiersForm mods → E bytes a → Modified E (mods ++ bytes) a

section

variable (E : List UInt8 → TypeSig → Prop)

inductive ParameterForm : List UInt8 → Parameter TypeSig → Prop
  | byValue {mods bytes : List UInt8} {base : TypeSig} : ModifiersForm mods → E bytes base →
      ¬base.IsByRef → ParameterForm (mods ++ bytes) ⟨false, base⟩
  | byRef {mods bytes : List UInt8} {base : TypeSig} : ModifiersForm mods → Modified E bytes base →
      ParameterForm (mods ++ 0x10 :: bytes) ⟨true, base⟩

/-- A parameter of a call, where the mark of the variable ones may stand in front. -/
inductive ArgumentForm : List UInt8 → Parameter TypeSig → Prop
  | plain {bytes : List UInt8} {p : Parameter TypeSig} :
      ParameterForm E bytes p → ArgumentForm bytes p
  | marked {bytes : List UInt8} {p : Parameter TypeSig} :
      ParameterForm E bytes p → ArgumentForm (0x41 :: bytes) p

structure Convention (code : UInt8) (s : MethodSig) : Prop where
  hasThis : code.toNat.testBit 5 = s.hasThis
  explicitThis : code.toNat.testBit 6 = s.explicitThis
  varArgs : code.toNat % 16 = 5 ↔ s.varArgs = true

inductive GenericsForm (code : UInt8) : List UInt8 → Nat → Prop
  | absent : code.toNat.testBit 4 = false → GenericsForm code [] 0
  | given {bytes : List UInt8} {n : Nat} :
      code.toNat.testBit 4 = true → UnsignedForm bytes n → GenericsForm code bytes n

inductive CallableForm : List UInt8 → MethodSig → Prop
  | mk {code : UInt8} {generics count first others : List UInt8} {s : MethodSig} :
      Convention code s → GenericsForm code generics s.genericCount →
      UnsignedForm count s.params.length → ParameterForm E first s.result →
      Sequence (ArgumentForm E) others s.params →
      CallableForm (code :: (generics ++ (count ++ (first ++ others)))) s

end

inductive ShapeForm : List UInt8 → Nat → Prop
  | mk {first sizeCount sizes boundCount bounds : List UInt8} {rank : Nat} {lengths : List Nat}
      {lowers : List Int} : UnsignedForm first rank → UnsignedForm sizeCount lengths.length →
      Sequence UnsignedForm sizes lengths → UnsignedForm boundCount lowers.length →
      Sequence SignedForm bounds lowers →
      ShapeForm (first ++ (sizeCount ++ (sizes ++ (boundCount ++ bounds)))) rank

def primitiveCodes : List (UInt8 × Primitive) :=
  [(0x01, .void), (0x02, .boolean), (0x03, .char), (0x04, .int8), (0x05, .uint8), (0x06, .int16),
    (0x07, .uint16), (0x08, .int32), (0x09, .uint32), (0x0A, .int64), (0x0B, .uint64),
    (0x0C, .float32), (0x0D, .float64), (0x0E, .string), (0x16, .typedReference),
    (0x18, .nativeInt), (0x19, .nativeUint), (0x1C, .object)]

theorem mem_primitiveCodes_iff {code : UInt8} {p : Primitive} :
    (code, p) ∈ primitiveCodes ↔ code = p.code := by
  constructor
  · have hcodes : ∀ entry ∈ primitiveCodes, entry.1 = entry.2.code := by decide
    exact hcodes (code, p)
  · rintro rfl
    cases p <;> decide

inductive ElementForm : List UInt8 → TypeSig → Prop
  | primitive {code : UInt8} {p : Primitive} :
      (code, p) ∈ primitiveCodes → ElementForm [code] (.primitive p)
  | pointer {bytes : List UInt8} {base : TypeSig} :
      Modified ElementForm bytes base → ElementForm (0x0F :: bytes) (.pointer base)
  | byRef {bytes : List UInt8} {base : TypeSig} :
      Modified ElementForm bytes base → ElementForm (0x10 :: bytes) (.byRef base)
  | valueType {bytes : List UInt8} {token : Token} :
      TypeTokenForm bytes token → ElementForm (0x11 :: bytes) (.valueType token)
  | classType {bytes : List UInt8} {token : Token} :
      TypeTokenForm bytes token → ElementForm (0x12 :: bytes) (.classType token)
  | typeVar {bytes : List UInt8} {index : Nat} :
      UnsignedForm bytes index → ElementForm (0x13 :: bytes) (.typeVar index)
  | array {first second : List UInt8} {base : TypeSig} {rank : Nat} :
      Modified ElementForm first base → ShapeForm second rank →
      ElementForm (0x14 :: (first ++ second)) (.array base rank)
  | generic {first count others : List UInt8} {base : TypeSig} {args : List TypeSig} :
      ElementForm first base → base.IsNamed → UnsignedForm count args.length →
      Sequence (Modified ElementForm) others args →
      ElementForm (0x15 :: (first ++ (count ++ others))) (.generic base args)
  | function {bytes : List UInt8} {s : MethodSig} :
      CallableForm ElementForm bytes s → ElementForm (0x1B :: bytes) (.function s)
  | vector {bytes : List UInt8} {base : TypeSig} :
      Modified ElementForm bytes base → ElementForm (0x1D :: bytes) (.vector base)
  | methodVar {bytes : List UInt8} {index : Nat} :
      UnsignedForm bytes index → ElementForm (0x1E :: bytes) (.methodVar index)
  | pinned {bytes : List UInt8} {base : TypeSig} :
      Modified ElementForm bytes base → ElementForm (0x45 :: bytes) (.pinned base)

def TypeForm : List UInt8 → TypeSig → Prop := Modified ElementForm

def MethodForm : List UInt8 → MethodSig → Prop := CallableForm ElementForm

inductive FieldForm : List UInt8 → TypeSig → Prop
  | mk {bytes : List UInt8} {t : TypeSig} : TypeForm bytes t → FieldForm (0x06 :: bytes) t

inductive PropertyForm : List UInt8 → PropertySig → Prop
  | mk {count first others : List UInt8} {s : PropertySig} : UnsignedForm count s.params.length →
      TypeForm first s.base → Sequence (ParameterForm ElementForm) others s.params →
      PropertyForm ((if s.hasThis then 0x28 else 0x08) :: (count ++ (first ++ others))) s

inductive InstantiationForm : List UInt8 → List TypeSig → Prop
  | mk {count others : List UInt8} {args : List TypeSig} : UnsignedForm count args.length →
      Sequence TypeForm others args → InstantiationForm (0x0A :: (count ++ others)) args

theorem exists_tokenForm {token : Token} (h : token.IsType) :
    ∃ bytes, TypeTokenForm bytes token := by
  obtain ⟨table, htable, row, hrow, rfl⟩ := h
  obtain ⟨tag, htag⟩ := List.mem_iff_getElem?.1 htable
  have hlt : tag < typeTables.length := (List.getElem?_eq_some_iff.1 htag).1
  have hthree : typeTables.length = 3 := rfl
  obtain ⟨bytes, hform⟩ := UnsignedForm.exists_of_lt (show 4 * row + tag < 0x20000000 by omega)
  exact ⟨bytes, .mk htag hrow hform⟩

theorem exists_modified {E : List UInt8 → α → Prop} {a : α} (h : ∃ bytes, E bytes a) :
    ∃ bytes, Modified E bytes a := by
  obtain ⟨bytes, hform⟩ := h
  exact ⟨[] ++ bytes, .mk .nil hform⟩

theorem exists_shape {rank : Nat} (h : rank < 0x20000000) : ∃ bytes, ShapeForm bytes rank := by
  obtain ⟨first, hfirst⟩ := UnsignedForm.exists_of_lt h
  have hnone : UnsignedForm [.ofNat 0] 0 := .one (by decide)
  exact ⟨_, .mk hfirst hnone .nil hnone .nil⟩

theorem exists_parameter {E : List UInt8 → TypeSig → Prop} {p : Parameter TypeSig}
    (h : ∃ bytes, E bytes p.base) (hvalue : p.byRef = false → ¬p.base.IsByRef) :
    ∃ bytes, ParameterForm E bytes p := by
  obtain ⟨bytes, hform⟩ := h
  obtain ⟨isRef, base⟩ := p
  cases isRef with
  | false => exact ⟨_, .byValue .nil hform (hvalue rfl)⟩
  | true => exact ⟨_, .byRef .nil (.mk .nil hform)⟩

def conventionCode (hasThis explicitThis varArgs : Bool) : UInt8 :=
  (if varArgs then 0x15 else 0x10) ||| (if hasThis then 0x20 else 0)
    ||| if explicitThis then 0x40 else 0

theorem conventionCode_generic : ∀ hasThis explicitThis varArgs,
    (conventionCode hasThis explicitThis varArgs).toNat.testBit 4 = true := by decide

theorem conventionCode_convention (s : MethodSig) :
    Convention (conventionCode s.hasThis s.explicitThis s.varArgs) s := by
  have hthis : ∀ t e v, (conventionCode t e v).toNat.testBit 5 = t := by decide
  have hexplicit : ∀ t e v, (conventionCode t e v).toNat.testBit 6 = e := by decide
  have hvar : ∀ t e v, (conventionCode t e v).toNat % 16 = 5 ↔ v = true := by decide
  exact ⟨hthis _ _ _, hexplicit _ _ _, hvar _ _ _⟩

theorem exists_callable {E : List UInt8 → TypeSig → Prop} {s : MethodSig}
    (hgenerics : s.genericCount < 0x20000000) (hcount : s.params.length < 0x20000000)
    (hresult : ∃ bytes, ParameterForm E bytes s.result)
    (hparams : ∀ p ∈ s.params, ∃ bytes, ParameterForm E bytes p) :
    ∃ bytes, CallableForm E bytes s := by
  obtain ⟨generics, hgenerics⟩ := UnsignedForm.exists_of_lt hgenerics
  obtain ⟨count, hcount⟩ := UnsignedForm.exists_of_lt hcount
  obtain ⟨first, hfirst⟩ := hresult
  have harguments (p : Parameter TypeSig) (hp : p ∈ s.params) :
      ∃ bytes, ArgumentForm E bytes p := by
    obtain ⟨bytes, hform⟩ := hparams p hp
    exact ⟨bytes, .plain hform⟩
  obtain ⟨others, hothers⟩ := Sequence.exists_of_forall harguments
  exact ⟨_, .mk (conventionCode_convention s) (.given (conventionCode_generic _ _ _) hgenerics)
    hcount hfirst hothers⟩

mutual

/-- Every type that can be written has a form. -/
theorem exists_element : ∀ t : TypeSig, t.Encodable → ∃ bytes, ElementForm bytes t
  | .primitive p, _ => ⟨_, .primitive (mem_primitiveCodes_iff.2 rfl)⟩
  | .pointer base, h => (exists_modified (exists_element base h)).imp' _ fun _ ↦ .pointer
  | .byRef base, h => (exists_modified (exists_element base h)).imp' _ fun _ ↦ .byRef
  | .vector base, h => (exists_modified (exists_element base h)).imp' _ fun _ ↦ .vector
  | .pinned base, h => (exists_modified (exists_element base h)).imp' _ fun _ ↦ .pinned
  | .valueType _, h => (exists_tokenForm h).imp' _ fun _ ↦ .valueType
  | .classType _, h => (exists_tokenForm h).imp' _ fun _ ↦ .classType
  | .typeVar _, h => (UnsignedForm.exists_of_lt h).imp' _ fun _ ↦ .typeVar
  | .methodVar _, h => (UnsignedForm.exists_of_lt h).imp' _ fun _ ↦ .methodVar
  | .array base rank, ⟨hbase, hrank⟩ => by
    obtain ⟨first, hfirst⟩ := exists_modified (exists_element base hbase)
    obtain ⟨second, hsecond⟩ := exists_shape hrank
    exact ⟨_, .array hfirst hsecond⟩
  | .generic base args, ⟨hbase, hnamed, hcount, hargs⟩ => by
    obtain ⟨first, hfirst⟩ := exists_element base hbase
    obtain ⟨count, hcount⟩ := UnsignedForm.exists_of_lt hcount
    obtain ⟨others, hothers⟩ := Sequence.exists_of_forall fun t ht ↦
      exists_modified (exists_elements args hargs t ht)
    exact ⟨_, .generic hfirst hnamed hcount hothers⟩
  | .function ⟨_, _, _, _, ⟨_, base⟩, params⟩, ⟨hgenerics, hcount, hbase, hvalue, hparams⟩ => by
    have hresult := exists_parameter (p := ⟨_, base⟩) (exists_element base hbase) hvalue
    obtain ⟨bytes, hform⟩ := exists_callable (s := ⟨_, _, _, _, ⟨_, base⟩, params⟩) hgenerics hcount
      hresult (exists_parameters params hparams)
    exact ⟨_, .function hform⟩

theorem exists_elements : ∀ ts : List TypeSig, TypeSig.EncodableAll ts →
    ∀ t ∈ ts, ∃ bytes, ElementForm bytes t
  | [], _, _, ht => nomatch ht
  | t :: ts, ⟨hfirst, hothers⟩, u, hu => by
    have hform := exists_element t hfirst
    have hforms := exists_elements ts hothers
    obtain rfl | hu := List.mem_cons.1 hu
    · exact hform
    · exact hforms u hu

theorem exists_parameters : ∀ params : List (Parameter TypeSig), TypeSig.EncodableParams params →
    ∀ p ∈ params, ∃ bytes, ParameterForm ElementForm bytes p
  | [], _, _, hp => nomatch hp
  | ⟨_, base⟩ :: params, ⟨hbase, hvalue, hothers⟩, q, hq => by
    have hform := exists_element base hbase
    have hforms := exists_parameters params hothers
    obtain rfl | hq := List.mem_cons.1 hq
    · exact exists_parameter hform hvalue
    · exact hforms q hq

end

theorem exists_type {t : TypeSig} (h : t.Encodable) : ∃ bytes, TypeForm bytes t :=
  exists_modified (exists_element t h)

theorem exists_method {s : MethodSig} (h : s.Encodable) : ∃ bytes, MethodForm bytes s := by
  obtain ⟨bytes, hform⟩ := exists_element (.function s) h
  cases hform with
  | function hform => exact ⟨_, hform⟩

theorem exists_field {t : TypeSig} (h : t.Encodable) : ∃ bytes, FieldForm bytes t := by
  obtain ⟨bytes, hform⟩ := exists_type h
  exact ⟨_, .mk hform⟩

theorem exists_property {s : PropertySig} (h : s.Encodable) : ∃ bytes, PropertyForm bytes s := by
  obtain ⟨count, hcount⟩ := UnsignedForm.exists_of_lt h.count
  obtain ⟨first, hfirst⟩ := exists_type h.base
  obtain ⟨others, hothers⟩ := Sequence.exists_of_forall (exists_parameters s.params h.params)
  exact ⟨_, .mk hcount hfirst hothers⟩

theorem exists_instantiation {args : List TypeSig} (hcount : args.length < 0x20000000)
    (hargs : TypeSig.EncodableAll args) : ∃ bytes, InstantiationForm bytes args := by
  obtain ⟨count, hcount⟩ := UnsignedForm.exists_of_lt hcount
  obtain ⟨others, hothers⟩ := Sequence.exists_of_forall fun t ht ↦
    exists_modified (exists_elements args hargs t ht)
  exact ⟨_, .mk hcount hothers⟩

end Signature

end CliMetadata
