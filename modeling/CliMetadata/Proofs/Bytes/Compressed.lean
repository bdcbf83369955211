import CliMetadata.Proofs.Bytes.Reading
import CliMetadata.Table

namespace CliMetadata

/-- The bytes of an unsigned integer, one, two or four of them. The high bits of the first byte tell
how many, and there may be more than it takes. -/
inductive UnsignedForm : List UInt8 → Nat → Prop
  | one {n : Nat} : n < 0x80 → UnsignedForm [.ofNat n] n
  | two {n : Nat} : n < 0x4000 → UnsignedForm [.ofNat (0x80 + n / 0x100), .ofNat n] n
  | four {n : Nat} : n < 0x20000000 →
      UnsignedForm [.ofNat (0xC0 + n / 0x1000000), .ofNat (n / 0x10000), .ofNat (n / 0x100),
        .ofNat n] n

/-- The least number that the bits of a form leave no room for once one of them is the sign. -/
def formHalf : Nat → Nat
  | 1 => 0x40
  | 2 => 0x2000
  | _ => 0x10000000

/-- A number below `2 * half` with its bits rotated left by one. -/
def rotateLeft (half n : Nat) : Nat := n * 2 % (2 * half) + n / half

/-- The bytes of a signed integer that fits into the bits of its form, in two's complement and
rotated. -/
structure SignedForm (bytes : List UInt8) (i : Int) : Prop where
  lower : -(formHalf bytes.length : Int) ≤ i
  upper : i < formHalf bytes.length
  rotated : UnsignedForm bytes
    (rotateLeft (formHalf bytes.length) (i % (2 * formHalf bytes.length : Nat)).toNat)

def unrotated (half n : Nat) : Int :=
  if n % 2 = 0 then (n / 2 : Nat) else ((n / 2 : Nat) : Int) - (half : Int)

theorem unrotated_rotateLeft {half : Nat} {i : Int} (hlower : -(half : Int) ≤ i)
    (hupper : i < half) : unrotated half (rotateLeft half (i % (2 * half : Nat)).toNat) = i := by
  unfold unrotated rotateLeft
  by_cases hi : 0 ≤ i
  · have hmod : i % (2 * half : Nat) = i := Int.emod_eq_of_lt hi (by omega)
    have hdiv : i.toNat / half = 0 := Nat.div_eq_of_lt (by omega)
    have hdouble : i.toNat * 2 % (2 * half) = i.toNat * 2 := Nat.mod_eq_of_lt (by omega)
    rw [hmod, hdiv, hdouble, if_pos (by omega)]
    omega
  · have hmod : i % (2 * half : Nat) = i + (2 * half : Nat) := by
      rw [← Int.add_emod_right]
      exact Int.emod_eq_of_lt (by omega) (by omega)
    have hdiv : (i + (2 * half : Nat)).toNat / half = 1 :=
      Nat.div_eq_of_lt_le (by omega) (by omega)
    have hdouble : (i + (2 * half : Nat)).toNat * 2 % (2 * half)
        = (i + (2 * half : Nat)).toNat * 2 - 2 * half := by
      rw [Nat.mod_eq_sub_mod (by omega)]
      exact Nat.mod_eq_of_lt (by omega)
    rw [hmod, hdiv, hdouble, if_neg (by omega)]
    omega

theorem rotateLeft_unrotated {half n : Nat} (hn : n < 2 * half) :
    rotateLeft half (unrotated half n % (2 * half : Nat)).toNat = n := by
  unfold unrotated rotateLeft
  by_cases heven : n % 2 = 0
  · have hmod : ((n / 2 : Nat) : Int) % (2 * half : Nat) = (n / 2 : Nat) :=
      Int.emod_eq_of_lt (by omega) (by omega)
    have hdiv : n / 2 / half = 0 := Nat.div_eq_of_lt (by omega)
    rw [if_pos heven, hmod, Int.toNat_natCast, hdiv, Nat.mod_eq_of_lt (by omega)]
    omega
  · have hmod : (((n / 2 : Nat) : Int) - half) % (2 * half : Nat) = (n / 2 + half : Nat) := by
      rw [← Int.add_emod_right, Int.emod_eq_of_lt (by omega) (by omega)]
      omega
    have hdiv : (n / 2 + half) / half = 1 := Nat.div_eq_of_lt_le (by omega) (by omega)
    rw [if_neg heven, hmod, Int.toNat_natCast, hdiv, Nat.mod_eq_sub_mod (by omega),
      Nat.mod_eq_of_lt (by omega)]
    omega

def typeTables : List Table := [.typeDef, .typeRef, .typeSpec]

/-- The bytes of a type token. -/
inductive TypeTokenForm : List UInt8 → Token → Prop
  | mk {tag row : Nat} {table : Table} {bytes : List UInt8} : typeTables[tag]? = some table →
      row < 0x1000000 → UnsignedForm bytes (4 * row + tag) → TypeTokenForm bytes (table.token row)

namespace UnsignedForm

variable {bytes : List UInt8} {n : Nat}

theorem exists_of_lt (h : n < 0x20000000) : ∃ bytes, UnsignedForm bytes n := ⟨_, .four h⟩

theorem ne_nil (h : UnsignedForm bytes n) : bytes ≠ [] := by
  cases h <;> exact List.cons_ne_nil _ _

theorem cons_iff {a : UInt8} : UnsignedForm (a :: bytes) n ↔
    a.toNat < 0x80 ∧ bytes = [] ∧ n = a.toNat ∨
      0x80 ≤ a.toNat ∧ a.toNat < 0xC0 ∧
        (∃ b, bytes = [b] ∧ n = a.toNat % 0x40 * 0x100 + b.toNat) ∨
      0xC0 ≤ a.toNat ∧ a.toNat < 0xE0 ∧ ∃ b c d, bytes = [b, c, d] ∧
        n = a.toNat % 0x20 * 0x1000000 + b.toNat * 0x10000 + c.toNat * 0x100 + d.toNat := by
  constructor
  · intro h
    cases h with
    | one h =>
      have ha : (UInt8.ofNat n).toNat = n % 256 := UInt8.toNat_ofNat'
      exact .inl ⟨by omega, rfl, by omega⟩
    | two h =>
      have ha : (UInt8.ofNat (0x80 + n / 0x100)).toNat = (0x80 + n / 0x100) % 256 :=
        UInt8.toNat_ofNat'
      have hb : (UInt8.ofNat n).toNat = n % 256 := UInt8.toNat_ofNat'
      exact .inr (.inl ⟨by omega, by omega, _, rfl, by omega⟩)
    | four h =>
      have ha : (UInt8.ofNat (0xC0 + n / 0x1000000)).toNat = (0xC0 + n / 0x1000000) % 256 :=
        UInt8.toNat_ofNat'
      have hb : (UInt8.ofNat (n / 0x10000)).toNat = n / 0x10000 % 256 := UInt8.toNat_ofNat'
      have hc : (UInt8.ofNat (n / 0x100)).toNat = n / 0x100 % 256 := UInt8.toNat_ofNat'
      have hd : (UInt8.ofNat n).toNat = n % 256 := UInt8.toNat_ofNat'
      exact .inr (.inr ⟨by omega, by omega, _, _, _, rfl, by omega⟩)
  · have hbyte (b : UInt8) (m : Nat) (h : m % 256 = b.toNat) : UInt8.ofNat m = b := by
      rw [← UInt8.toNat_inj, ← h]
      exact UInt8.toNat_ofNat'
    rintro (⟨ha, rfl, rfl⟩ | ⟨hlow, ha, b, rfl, rfl⟩ | ⟨hlow, ha, b, c, d, rfl, rfl⟩)
    · have hform := one ha
      rwa [UInt8.ofNat_toNat] at hform
    · have hb := b.toNat_lt
      have hform : UnsignedForm _ (a.toNat % 0x40 * 0x100 + b.toNat) := two (by omega)
      rwa [hbyte a _ (by omega), hbyte b _ (by omega)] at hform
    · have hb := b.toNat_lt
      have hc := c.toNat_lt
      have hd := d.toNat_lt
      have hform : UnsignedForm _ (a.toNat % 0x20 * 0x1000000 + b.toNat * 0x10000
          + c.toNat * 0x100 + d.toNat) := four (by omega)
      rwa [hbyte a _ (by omega), hbyte b _ (by omega), hbyte c _ (by omega),
        hbyte d _ (by omega)] at hform

theorem lt_formHalf (h : UnsignedForm bytes n) : n < 2 * formHalf bytes.length := by
  cases h <;> simp only [formHalf, List.length_cons, List.length_nil] <;> omega

end UnsignedForm

namespace Reader

open Grammar

theorem compressedNat_accepts : compressedNat.Accepts fun _ bytes n ↦ UnsignedForm bytes n := by
  have hbehind (a : UInt8) : Accepts (if a < 0x80 then pure a.toNat
      else if a < 0xC0 then do
        let b ← byte
        pure (a.toNat % 0x40 * 0x100 + b.toNat)
      else if a < 0xE0 then do
        let b ← byte
        let c ← byte
        let d ← byte
        pure (a.toNat % 0x20 * 0x1000000 + b.toNat * 0x10000 + c.toNat * 0x100 + d.toNat)
      else throw (.malformed (.compressedInteger a)))
        fun _ bytes n ↦ UnsignedForm (a :: bytes) n := by
    simp only [UInt8.lt_iff_toNat_lt, UInt8.reduceToNat]
    split
    · next ha =>
      refine (Accepts.pure a.toNat).congr fun _ bytes n ↦ ?_
      rw [UnsignedForm.cons_iff]
      constructor
      · exact fun h ↦ .inl ⟨ha, h⟩
      · rintro (⟨_, h⟩ | ⟨h, _⟩ | ⟨h, _⟩)
        · exact h
        · omega
        · omega
    split
    · next ha hb =>
      refine (byte_accepts.bind fun b ↦ .pure (a.toNat % 0x40 * 0x100 + b.toNat)).congr
        fun _ bytes n ↦ ?_
      rw [UnsignedForm.cons_iff]
      constructor
      · rintro ⟨_, _, b, rfl, rfl, rfl, rfl⟩
        exact .inr (.inl ⟨by omega, hb, b, rfl, rfl⟩)
      · rintro (⟨h, _⟩ | ⟨_, _, b, rfl, rfl⟩ | ⟨h, _⟩)
        · omega
        · exact ⟨[b], [], b, rfl, rfl, rfl, rfl⟩
        · omega
    split
    · next ha hb hc =>
      refine (byte_accepts.bind fun b ↦ byte_accepts.bind fun c ↦ byte_accepts.bind fun d ↦
        .pure (a.toNat % 0x20 * 0x1000000 + b.toNat * 0x10000 + c.toNat * 0x100 + d.toNat)).congr
        fun _ bytes n ↦ ?_
      rw [UnsignedForm.cons_iff]
      constructor
      · rintro ⟨_, _, b, rfl, rfl, _, _, c, rfl, rfl, _, _, d, rfl, rfl, rfl, rfl⟩
        exact .inr (.inr ⟨by omega, hc, b, c, d, rfl, rfl⟩)
      · rintro (⟨h, _⟩ | ⟨_, h, _⟩ | ⟨_, _, b, c, d, rfl, rfl⟩)
        · omega
        · omega
        · exact ⟨[b], [c, d], b, rfl, rfl, [c], [d], c, rfl, rfl, [d], [], d, rfl, rfl, rfl, rfl⟩
    · next ha hb hc =>
      refine (Accepts.throw _).congr fun _ bytes n ↦ ?_
      rw [UnsignedForm.cons_iff]
      constructor
      · exact False.elim
      · rintro (⟨h, _⟩ | ⟨_, h, _⟩ | ⟨_, h, _⟩) <;> omega
  refine (byte_accepts.bind hbehind).congr fun _ bytes n ↦ ⟨?_, ?_⟩
  · rintro ⟨_, second, a, rfl, rfl, hform⟩
    exact hform
  · intro hform
    obtain ⟨a, rest, rfl⟩ := List.exists_cons_of_ne_nil hform.ne_nil
    exact ⟨[a], rest, a, rfl, rfl, hform⟩

/-- Every unsigned integer is the rotation of one signed integer. -/
theorem compressedInt_accepts : compressedInt.Accepts fun _ bytes i ↦ SignedForm bytes i := by
  have hread : compressedInt = (do
      let start ← position
      let n ← compressedNat
      let stop ← position
      pure (unrotated (formHalf (stop - start)) n)) := rfl
  rw [hread]
  refine (position_accepts.bind fun start ↦ compressedNat_accepts.bind fun n ↦
    position_accepts.bind fun stop ↦ .pure (unrotated (formHalf (stop - start)) n)).congr
      fun start bytes i ↦ ⟨?_, ?_⟩
  · rintro ⟨_, _, _, rfl, ⟨rfl, rfl⟩, bytes, _, n, rfl, hform, _, _, _, rfl, ⟨rfl, rfl⟩, rfl, rfl⟩
    simp only [List.nil_append, List.append_nil, List.length_nil, Nat.add_zero,
      Nat.add_sub_cancel_left]
    have hlt := hform.lt_formHalf
    have hsame := rotateLeft_unrotated hlt
    refine ⟨?_, ?_, hsame.symm ▸ hform⟩
    · unfold unrotated
      split <;> omega
    · unfold unrotated
      split <;> omega
  · intro hform
    refine ⟨[], bytes, start, rfl, ⟨rfl, rfl⟩, bytes, [], _, (List.append_nil _).symm,
      hform.rotated, [], [], start + bytes.length, rfl, ⟨rfl, rfl⟩, rfl, ?_⟩
    rw [Nat.add_sub_cancel_left]
    exact (unrotated_rotateLeft hform.lower hform.upper).symm

theorem ofNat_or_eq_ofParts {code row : Nat} (hcode : code < 0x100) (hrow : row < 0x1000000) :
    Token.ofNat (code * 0x1000000 ||| row) = Token.ofParts code row := by
  have hor : code * 0x1000000 ||| row = code * 0x1000000 + row := by
    have h := Nat.shiftLeft_add_eq_or_of_lt (show row < 2 ^ 24 from hrow) code
    rw [Nat.shiftLeft_eq] at h
    exact h.symm
  rw [hor, Token.ofParts, Nat.mod_eq_of_lt hcode, Nat.mod_eq_of_lt hrow]

theorem compressedToken_of_form {bytes : List UInt8} {token : Token} (h : TypeTokenForm bytes token)
    (front rest : List UInt8) :
    compressedToken (Cursor.between front (bytes ++ rest))
      = (.ok token, Cursor.between (front ++ bytes) rest) := by
  obtain ⟨htag, hrow, hform⟩ := h
  rename_i tag row table
  have hn : compressedNat (Cursor.between front (bytes ++ rest))
      = (.ok (4 * row + tag), Cursor.between (front ++ bytes) rest) :=
    compressedNat_accepts.complete rest hform
  have hlt : tag < 3 := (List.getElem?_eq_some_iff.1 htag).1
  have hmod : (4 * row + tag) % 4 = tag := by omega
  have hdiv : (4 * row + tag) / 4 = row := by omega
  have htoken (code : Nat) (hcode : code < 0x100) :
      Token.ofNat (code * 0x1000000 ||| row) = Token.ofParts code row :=
    ofNat_or_eq_ofParts hcode hrow
  rw [compressedToken, Attempt.bind_of_ok hn, hmod, hdiv]
  match tag, htag with
  | 0, htag =>
    cases htag
    exact congrArg (fun t ↦ (Except.ok t, _)) (htoken 2 (by decide))
  | 1, htag =>
    cases htag
    exact congrArg (fun t ↦ (Except.ok t, _)) (htoken 1 (by decide))
  | 2, htag =>
    cases htag
    exact congrArg (fun t ↦ (Except.ok t, _)) (htoken 0x1B (by decide))
  | tag + 3, htag => cases htag

end Reader

end CliMetadata
