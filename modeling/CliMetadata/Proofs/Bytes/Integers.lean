import CliMetadata.Proofs.Bytes.Compressed

namespace CliMetadata

theorem UnsignedForm.exists_iff {n : Nat} : (∃ bytes, UnsignedForm bytes n) ↔ n < 0x20000000 := by
  constructor
  · rintro ⟨bytes, h⟩
    cases h with
    | one h => omega
    | two h => omega
    | four h => exact h
  · exact UnsignedForm.exists_of_lt

theorem rotateLeft_lt {half n : Nat} (hn : n < 2 * half) : rotateLeft half n < 2 * half := by
  have hmod := Nat.mod_lt (n * 2) (show 0 < 2 * half by omega)
  have heven : n * 2 % (2 * half) = 2 * (n % half) := by
    rw [Nat.mul_comm n 2, Nat.mul_mod_mul_left]
  have hdiv : n / half < 2 := Nat.div_lt_of_lt_mul (by rwa [Nat.mul_comm])
  unfold rotateLeft
  omega

theorem formHalf_le (length : Nat) : formHalf length ≤ 0x10000000 := by
  unfold formHalf
  split <;> omega

theorem SignedForm.of_rotated {bytes : List UInt8} {i : Int} (half : Nat)
    (hhalf : formHalf bytes.length = half) (hlower : -(half : Int) ≤ i) (hupper : i < half)
    (h : UnsignedForm bytes (rotateLeft half (i % (2 * half : Nat)).toNat)) :
    SignedForm bytes i := by
  subst hhalf
  exact ⟨hlower, hupper, h⟩

theorem SignedForm.exists_iff {i : Int} :
    (∃ bytes, SignedForm bytes i) ↔ -0x10000000 ≤ i ∧ i < 0x10000000 := by
  constructor
  · rintro ⟨bytes, hlower, hupper, _⟩
    have hhalf := formHalf_le bytes.length
    omega
  · rintro ⟨hlower, hupper⟩
    have hlt : (i % (2 * 0x10000000 : Nat)).toNat < 2 * 0x10000000 := by omega
    have hform := UnsignedForm.four (rotateLeft_lt hlt)
    exact ⟨_, of_rotated 0x10000000 rfl (by omega) (by omega) hform⟩

namespace Reader

open Cursor

variable {front taken missing rest : List UInt8} {a : UInt8} {n : Nat}

theorem byte_between_cons (front : List UInt8) (a : UInt8) (rest : List UInt8) :
    byte (between front (a :: rest)) = (.ok a, between (front ++ [a]) rest) :=
  byte_accepts.complete rest rfl

theorem byte_between_nil (front : List UInt8) :
    byte (between front []) = (.error .outOfBounds, between front []) := by
  simp [byte, between]

theorem compressedNat_of_lead (ha : 0xE0 ≤ a.toNat) :
    compressedNat (between front (a :: rest))
      = (.error (.malformed (.compressedInteger a)), between (front ++ [a]) rest) := by
  rw [compressedNat, Attempt.bind_of_ok (byte_between_cons front a rest)]
  simp only [UInt8.lt_iff_toNat_lt, UInt8.reduceToNat]
  rw [if_neg (by omega), if_neg (by omega), if_neg (by omega), Attempt.throw_apply]

/-- A form that ends too early is read to the end. -/
theorem compressedNat_truncated (h : UnsignedForm (taken ++ missing) n) (hmissing : missing ≠ []) :
    compressedNat (between front taken) = (.error .outOfBounds, between (front ++ taken) []) := by
  cases taken with
  | nil => rw [compressedNat, Attempt.bind_of_error (byte_between_nil front), List.append_nil]
  | cons a taken =>
    rw [compressedNat, Attempt.bind_of_ok (byte_between_cons front a taken)]
    simp only [UInt8.lt_iff_toNat_lt, UInt8.reduceToNat]
    obtain ⟨_, hnil, _⟩ | ⟨hlow, hhigh, b, htwo, _⟩ | ⟨hlow, hhigh, b, c, d, hfour, _⟩ :=
      UnsignedForm.cons_iff.1 h
    · exact absurd (List.append_eq_nil_iff.1 hnil).2 hmissing
    · rw [if_neg (by omega), if_pos hhigh]
      match taken, htwo with
      | [], _ => rw [Attempt.bind_of_error (byte_between_nil _)]
      | [_], htwo =>
        cases htwo
        exact absurd rfl hmissing
    · rw [if_neg (by omega), if_neg (by omega), if_pos hhigh]
      match taken, hfour with
      | [], _ => rw [Attempt.bind_of_error (byte_between_nil _)]
      | [b], _ =>
        rw [Attempt.bind_of_ok (byte_between_cons _ b []),
          Attempt.bind_of_error (byte_between_nil _), List.append_assoc]
        rfl
      | [b, c], _ =>
        rw [Attempt.bind_of_ok (byte_between_cons _ b [c]),
          Attempt.bind_of_ok (byte_between_cons _ c []),
          Attempt.bind_of_error (byte_between_nil _), List.append_assoc, List.append_assoc]
        rfl
      | [_, _, _], hfour =>
        cases hfour
        exact absurd rfl hmissing

theorem compressedInt_of_error {c d : Cursor} {e : Error} (h : compressedNat c = (.error e, d)) :
    compressedInt c = (.error e, d) := by
  have hposition : position c = (.ok c.pos, c) := rfl
  rw [compressedInt, Attempt.bind_of_ok hposition, Attempt.bind_of_error h]

/-- The integers with forms are those of 29 bits. Reading succeeds where a form is next, with its
integer, and stops behind it; it fails on a first byte of no form and where a form is cut short. -/
theorem compressed_reads_forms :
    (∀ n, (∃ bytes, UnsignedForm bytes n) ↔ n < 0x20000000) ∧
    (∀ i, (∃ bytes, SignedForm bytes i) ↔ -0x10000000 ≤ i ∧ i < 0x10000000) ∧
    (∀ front behind n c, compressedNat (between front behind) = (.ok n, c) ↔
      ∃ taken rest, UnsignedForm taken n ∧ behind = taken ++ rest ∧
        c = between (front ++ taken) rest) ∧
    (∀ front behind i c, compressedInt (between front behind) = (.ok i, c) ↔
      ∃ taken rest, SignedForm taken i ∧ behind = taken ++ rest ∧
        c = between (front ++ taken) rest) ∧
    (∀ (front : List UInt8) (a : UInt8) (rest : List UInt8), 0xE0 ≤ a.toNat →
      compressedNat (between front (a :: rest))
          = (.error (.malformed (.compressedInteger a)), between (front ++ [a]) rest) ∧
        compressedInt (between front (a :: rest))
          = (.error (.malformed (.compressedInteger a)), between (front ++ [a]) rest)) ∧
    ∀ (front taken missing : List UInt8) (n : Nat), UnsignedForm (taken ++ missing) n →
      missing ≠ [] →
        compressedNat (between front taken) = (.error .outOfBounds, between (front ++ taken) []) ∧
          compressedInt (between front taken)
            = (.error .outOfBounds, between (front ++ taken) []) := by
  refine ⟨fun _ ↦ UnsignedForm.exists_iff, fun _ ↦ SignedForm.exists_iff,
    fun _ _ _ _ ↦ compressedNat_accepts.eq_ok_iff, fun _ _ _ _ ↦ compressedInt_accepts.eq_ok_iff,
    fun front a rest ha ↦ ?_, fun front taken missing n hform hmissing ↦ ?_⟩
  · have hnat : compressedNat (between front (a :: rest)) = _ := compressedNat_of_lead ha
    exact ⟨hnat, compressedInt_of_error hnat⟩
  · have hnat : compressedNat (between front taken) = _ := compressedNat_truncated hform hmissing
    exact ⟨hnat, compressedInt_of_error hnat⟩

theorem compressed_reads_forms_twoBytes :
    SignedForm [0x80, 1] (-0x2000) ∧
    compressedInt (between [7] [0x80, 1, 0xFF]) = (.ok (-0x2000), between [7, 0x80, 1] [0xFF]) ∧
    compressedInt (between [] [0xE0]) = (.error (.malformed (.compressedInteger 0xE0)),
      between [0xE0] []) ∧
    compressedNat (between [] [0xC0, 0, 0]) = (.error .outOfBounds, between [0xC0, 0, 0] []) := by
  have hform : SignedForm [0x80, 1] (-0x2000) :=
    .of_rotated 0x2000 rfl (by decide) (by decide) (.two (show 1 < 0x4000 by decide))
  obtain ⟨_, _, _, hint, hlead, hshort⟩ := compressed_reads_forms
  have hfour : UnsignedForm ([0xC0, 0, 0] ++ [0x40]) 0x40 :=
    .four (show 0x40 < 0x20000000 by decide)
  exact ⟨hform, (hint [7] _ _ _).2 ⟨_, [0xFF], hform, rfl, rfl⟩, (hlead [] 0xE0 [] (by decide)).2,
    (hshort [] _ _ _ hfour (by decide)).1⟩

end Reader

end CliMetadata
