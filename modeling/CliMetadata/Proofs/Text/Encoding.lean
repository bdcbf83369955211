import CliMetadata.Text.Utf16
import CliMetadata.Text.Utf8
import Mathlib.Data.List.Basic
import Mathlib.Tactic.SplitIfs

namespace CliMetadata.Utf8

section Sequences

variable {a b c d least greatest : UInt8} {n : Nat}

theorem two_cons (hb : 0x80 ≤ b ∧ b ≤ 0xBF) (rest : List UInt8) :
    two a (b :: rest) = .char (.ofNat (a.toNat % 32 * 64 + b.toNat % 64)) rest :=
  if_pos (by simpa using hb : (decide (0x80 ≤ b) && decide (b ≤ 0xBF)) = true)

theorem three_cons (hb : least ≤ b ∧ b ≤ greatest) (hc : 0x80 ≤ c ∧ c ≤ 0xBF)
    (rest : List UInt8) : three a least greatest (b :: c :: rest) =
      .char (.ofNat (a.toNat % 16 * 4096 + b.toNat % 64 * 64 + c.toNat % 64)) rest := by
  rw [three, if_pos (by simpa using hb)]
  exact if_pos (by simpa using hc : (decide (0x80 ≤ c) && decide (c ≤ 0xBF)) = true)

theorem four_cons (hb : least ≤ b ∧ b ≤ greatest) (hc : 0x80 ≤ c ∧ c ≤ 0xBF)
    (hd : 0x80 ≤ d ∧ d ≤ 0xBF) (rest : List UInt8) :
    four a least greatest (b :: c :: d :: rest) = .char (.ofNat (a.toNat % 8 * 262144 +
      b.toNat % 64 * 4096 + c.toNat % 64 * 64 + d.toNat % 64)) rest := by
  rw [four, if_pos (by simpa using hb)]
  refine (if_pos (by simpa using hc : (decide (0x80 ≤ c) && decide (c ≤ 0xBF)) = true)).trans ?_
  exact if_pos (by simpa using hd : (decide (0x80 ≤ d) && decide (d ≤ 0xBF)) = true)

theorem step_one (ha : a.toNat = n) (hn : n < 0x80) (rest : List UInt8) :
    step a rest = .char (.ofNat n) rest := by
  subst ha
  exact if_pos hn

theorem step_two (ha : a.toNat = n / 64 + 192) (hb : b.toNat = n % 64 + 128) (hlow : 0x80 ≤ n)
    (hn : n < 0x800) (rest : List UInt8) : step a (b :: rest) = .char (.ofNat n) rest := by
  have hvalue : a.toNat % 32 * 64 + b.toNat % 64 = n := by omega
  have htwo : two a (b :: rest) = .char (.ofNat n) rest := by
    rw [two_cons, hvalue]
    simp only [UInt8.le_iff_toNat_le, UInt8.reduceToNat]
    omega
  simp only [step, UInt8.lt_iff_toNat_lt, UInt8.reduceToNat, htwo]
  rw [if_neg (by omega), if_neg (by omega), if_pos (by omega)]

theorem step_three (ha : a.toNat = n / 4096 + 224) (hb : b.toNat = n / 64 % 64 + 128)
    (hc : c.toNat = n % 64 + 128) (hlow : 0x800 ≤ n) (hn : n < 0x10000)
    (hvalid : n < 0xD800 ∨ 0xDFFF < n) (rest : List UInt8) :
    step a (b :: c :: rest) = .char (.ofNat n) rest := by
  have hvalue : a.toNat % 16 * 4096 + b.toNat % 64 * 64 + c.toNat % 64 = n := by omega
  have hthree (least greatest : UInt8) (hleast : least.toNat ≤ b.toNat)
      (hgreatest : b.toNat ≤ greatest.toNat) :
      three a least greatest (b :: c :: rest) = .char (.ofNat n) rest := by
    rw [three_cons ⟨hleast, hgreatest⟩, hvalue]
    simp only [UInt8.le_iff_toNat_le, UInt8.reduceToNat]
    omega
  simp only [step, UInt8.lt_iff_toNat_lt, ← UInt8.toNat_inj, UInt8.reduceToNat]
  rw [if_neg (by omega), if_neg (by omega), if_neg (by omega)]
  split
  · exact hthree 0xA0 0xBF (by simp; omega) (by simp; omega)
  split
  · exact hthree 0x80 0x9F (by simp; omega) (by simp; omega)
  · rw [if_pos (by omega)]
    exact hthree 0x80 0xBF (by simp; omega) (by simp; omega)

theorem step_four (ha : a.toNat = n / 262144 + 240) (hb : b.toNat = n / 4096 % 64 + 128)
    (hc : c.toNat = n / 64 % 64 + 128) (hd : d.toNat = n % 64 + 128) (hlow : 0x10000 ≤ n)
    (hn : n < 0x110000) (rest : List UInt8) :
    step a (b :: c :: d :: rest) = .char (.ofNat n) rest := by
  have hvalue : a.toNat % 8 * 262144 + b.toNat % 64 * 4096 + c.toNat % 64 * 64 + d.toNat % 64
      = n := by omega
  have hfour (least greatest : UInt8) (hleast : least.toNat ≤ b.toNat)
      (hgreatest : b.toNat ≤ greatest.toNat) :
      four a least greatest (b :: c :: d :: rest) = .char (.ofNat n) rest := by
    rw [four_cons ⟨hleast, hgreatest⟩, hvalue]
    all_goals
      simp only [UInt8.le_iff_toNat_le, UInt8.reduceToNat]
      omega
  simp only [step, UInt8.lt_iff_toNat_lt, ← UInt8.toNat_inj, UInt8.reduceToNat]
  rw [if_neg (by omega), if_neg (by omega), if_neg (by omega), if_neg (by omega),
    if_neg (by omega), if_neg (by omega)]
  split
  · exact hfour 0x90 0xBF (by simp; omega) (by simp; omega)
  split
  · exact hfour 0x80 0xBF (by simp; omega) (by simp; omega)
  · rw [if_pos (by omega)]
    exact hfour 0x80 0x8F (by simp; omega) (by simp; omega)

end Sequences

/-- The bytes of a character are one piece. -/
theorem step_utf8EncodeChar (x : Char) : ∃ first others,
    String.utf8EncodeChar x = first :: others ∧
      ∀ rest, step first (others ++ rest) = .char x rest := by
  have hvalid : x.toNat < 0xD800 ∨ 0xDFFF < x.toNat ∧ x.toNat < 0x110000 := x.valid
  have hbyte (n m : Nat) (hn : n = m) (hlt : m < 256) : (UInt8.ofNat n).toNat = m := by
    rw [hn]
    exact UInt8.toNat_ofNat_of_lt' hlt
  have hx : Char.ofNat x.toNat = x := Char.ofNat_toNat x
  simp only [String.utf8EncodeChar, Char.toNat_val]
  generalize x.toNat = n at hvalid hx ⊢
  subst hx
  split
  · exact ⟨_, _, rfl, step_one (hbyte _ _ rfl (by omega)) (by omega)⟩
  split
  · exact ⟨_, _, rfl, step_two (hbyte _ _ (by omega) (by omega)) (hbyte _ _ rfl (by omega))
      (by omega) (by omega)⟩
  split
  · exact ⟨_, _, rfl, step_three (hbyte _ _ (by omega) (by omega)) (hbyte _ _ rfl (by omega))
      (hbyte _ _ rfl (by omega)) (by omega) (by omega) (by omega)⟩
  · exact ⟨_, _, rfl, step_four (hbyte _ _ (by omega) (by omega)) (hbyte _ _ rfl (by omega))
      (hbyte _ _ rfl (by omega)) (hbyte _ _ rfl (by omega)) (by omega) (by omega)⟩

def encode (text : String) : List UInt8 := text.toList.flatMap String.utf8EncodeChar

theorem pieces_flatMap (chars : List Char) {fuel : Nat}
    (hfuel : (chars.flatMap String.utf8EncodeChar).length ≤ fuel) :
    pieces fuel (chars.flatMap String.utf8EncodeChar) = chars.map some := by
  induction chars generalizing fuel with
  | nil => cases fuel <;> rfl
  | cons x chars ih =>
    obtain ⟨first, others, hx, hstep⟩ := step_utf8EncodeChar x
    rw [List.flatMap_cons, hx] at hfuel ⊢
    simp only [List.cons_append, List.length_cons, List.length_append] at hfuel
    obtain ⟨fuel, rfl⟩ : ∃ rounds, fuel = rounds + 1 := ⟨fuel - 1, by omega⟩
    simp only [List.cons_append, pieces, hstep, List.map_cons]
    rw [ih (by omega)]

theorem decodeLossy_encode (text : String) : decodeLossy (encode text) = text := by
  rw [decodeLossy, encode, pieces_flatMap _ (Nat.le_refl _), List.map_map]
  change String.ofList (text.toList.map id) = text
  rw [List.map_id, String.ofList_toList]

theorem encode_append (first second : String) :
    encode (first ++ second) = encode first ++ encode second := by
  simp [encode]

theorem zero_not_mem_utf8EncodeChar {x : Char} (hx : x ≠ '\x00') :
    0 ∉ String.utf8EncodeChar x := by
  have hpos : x.toNat ≠ 0 := fun h ↦ hx (by rw [← Char.ofNat_toNat x, h])
  have hbyte (n : Nat) (hn : n % 256 ≠ 0) : (0 : UInt8) ≠ UInt8.ofNat n := by
    intro h
    apply hn
    rw [← UInt8.toNat_ofNat', ← h]
    rfl
  have hvalid : x.toNat < 0xD800 ∨ 0xDFFF < x.toNat ∧ x.toNat < 0x110000 := x.valid
  simp only [String.utf8EncodeChar, Char.toNat_val]
  generalize x.toNat = n at hpos hvalid
  split_ifs <;> simp only [List.mem_cons, List.not_mem_nil, not_or, or_false]
  · exact hbyte _ (by omega)
  · exact ⟨hbyte _ (by omega), hbyte _ (by omega)⟩
  · exact ⟨hbyte _ (by omega), hbyte _ (by omega), hbyte _ (by omega)⟩
  · exact ⟨hbyte _ (by omega), hbyte _ (by omega), hbyte _ (by omega), hbyte _ (by omega)⟩

theorem zero_not_mem_encode {text : String} (h : '\x00' ∉ text.toList) : 0 ∉ encode text := by
  intro hzero
  obtain ⟨x, hx, hmem⟩ := List.mem_flatMap.1 hzero
  exact zero_not_mem_utf8EncodeChar (fun he ↦ h (he ▸ hx)) hmem

end CliMetadata.Utf8

namespace CliMetadata.Utf16

theorem decodeLossy_unitsOfChar (x : Char) (rest : List Nat) :
    decodeLossy (unitsOfChar x ++ rest) = x :: decodeLossy rest := by
  have hvalid : x.toNat < 0xD800 ∨ 0xDFFF < x.toNat ∧ x.toNat < 0x110000 := x.valid
  have hx : Char.ofNat x.toNat = x := Char.ofNat_toNat x
  rw [unitsOfChar]
  generalize x.toNat = n at hvalid hx ⊢
  subst hx
  split
  · have hhigh : isHigh n = false := by simp [isHigh]; omega
    have hlow : isLow n = false := by simp [isLow]; omega
    rw [List.singleton_append, decodeLossy.eq_def]
    simp only [hhigh, hlow, Bool.false_eq_true, if_false]
  · have hhigh : isHigh (0xD800 + (n - 0x10000) / 1024) = true := by simp [isHigh]; omega
    have hlow : isLow (0xDC00 + (n - 0x10000) % 1024) = true := by simp [isLow]; omega
    have hvalue : 0x10000 + (0xD800 + (n - 0x10000) / 1024 - 0xD800) * 1024 +
        (0xDC00 + (n - 0x10000) % 1024 - 0xDC00) = n := by omega
    simp only [List.cons_append, List.nil_append, decodeLossy, hhigh, hlow, if_true, hvalue]

theorem decodeLossy_units (text : String) : decodeLossy (units text) = text.toList := by
  rw [units]
  induction text.toList with
  | nil => rfl
  | cons x chars ih => rw [List.flatMap_cons, decodeLossy_unitsOfChar, ih]

theorem lt_of_mem_units {text : String} {unit : Nat} (h : unit ∈ units text) : unit < 0x10000 := by
  obtain ⟨x, _, hx⟩ := List.mem_flatMap.1 h
  have hvalid : x.toNat < 0xD800 ∨ 0xDFFF < x.toNat ∧ x.toNat < 0x110000 := x.valid
  rw [unitsOfChar] at hx
  split at hx
  · simp at hx
    omega
  · simp at hx
    omega

end CliMetadata.Utf16
