import CliMetadata.Proofs.Bytes.Compressed

namespace CliMetadata

namespace Token

/-- The token of a row that is laid over the number of its table. -/
def overlaid (table : Table) (row : Nat) : Token := ofNat (table.number * 0x1000000 ||| row)

/-- The token is of the table that the two low bits of an integer select, and of the row that its
other bits are. -/
def IsSelectedBy (t : Token) (n : Nat) : Prop :=
  ∃ table, typeTables[n % 4]? = some table ∧ t.table = table.number ∧ t.row = n / 4

variable {row : Nat}

theorem toNat_overlaid (table : Table) (hrow : row < 0x8000000) :
    (overlaid table row).toNat = table.number * 0x1000000 ||| row := by
  have hnumber := table.number_lt
  have hlt : table.number * 0x1000000 ||| row < 2 ^ 32 :=
    Nat.or_lt_two_pow (by omega) (by omega)
  exact UInt32.toNat_ofNat_of_lt' hlt

theorem table_overlaid (table : Table) (hrow : row < 0x8000000) :
    (overlaid table row).table = table.number ||| row / 0x1000000 := by
  rw [Token.table, toNat_overlaid table hrow]
  change (table.number * 2 ^ 24 ||| row) / 2 ^ 24 = _
  rw [Nat.or_div_two_pow, Nat.mul_div_cancel _ (Nat.two_pow_pos 24)]

theorem row_overlaid (table : Table) (hrow : row < 0x8000000) :
    (overlaid table row).row = row % 0x1000000 := by
  rw [Token.row, toNat_overlaid table hrow]
  change (table.number * 2 ^ 24 ||| row) % 2 ^ 24 = _
  rw [Nat.or_mod_two_pow, Nat.mul_mod_left, Nat.zero_or]

end Token

namespace Reader

variable {c d : Cursor} {n : Nat} {t : Token}

theorem compressedNat_lt (h : compressedNat c = (.ok n, d)) : n < 0x20000000 := by
  obtain ⟨a, _, _, h⟩ := Attempt.bind_eq_ok_iff.1 h
  have ha := a.toNat_lt
  split at h
  · cases h
    omega
  split at h
  · obtain ⟨b, _, _, h⟩ := Attempt.bind_eq_ok_iff.1 h
    have hb := b.toNat_lt
    cases h
    omega
  split at h
  · obtain ⟨b, _, _, h⟩ := Attempt.bind_eq_ok_iff.1 h
    obtain ⟨e, _, _, h⟩ := Attempt.bind_eq_ok_iff.1 h
    obtain ⟨f, _, _, h⟩ := Attempt.bind_eq_ok_iff.1 h
    have hb := b.toNat_lt
    have he := e.toNat_lt
    have hf := f.toNat_lt
    cases h
    omega
  · cases h

/-- A type token is read where a compressed integer is whose two low bits select a table. -/
theorem compressedToken_eq_ok_iff : compressedToken c = (.ok t, d) ↔
    ∃ n table, compressedNat c = (.ok n, d) ∧ typeTables[n % 4]? = some table ∧
      t = .overlaid table (n / 4) := by
  rw [compressedToken, Attempt.bind_eq_ok_iff]
  refine exists_congr fun n ↦ ?_
  have hpure (table : Table) (tag : Nat) (htable : typeTables[tag]? = some table) :
      (∃ u, compressedNat c = (.ok n, u) ∧
          (pure (.overlaid table (n / 4)) : Reader Token) u = (.ok t, d)) ↔
        ∃ table, compressedNat c = (.ok n, d) ∧ typeTables[tag]? = some table ∧
          t = .overlaid table (n / 4) := by
    rw [htable]
    constructor
    · rintro ⟨u, hn, ht⟩
      cases ht
      exact ⟨table, hn, rfl, rfl⟩
    · rintro ⟨_, hn, ⟨⟩, rfl⟩
      exact ⟨d, hn, rfl⟩
  generalize n % 4 = tag
  obtain _ | _ | _ | tag := tag
  · exact hpure .typeDef 0 rfl
  · exact hpure .typeRef 1 rfl
  · exact hpure .typeSpec 2 rfl
  · constructor
    · rintro ⟨_, _, ⟨⟩⟩
    · rintro ⟨_, _, ⟨⟩, _⟩

/-- A type token that is read is made of the compressed integer that is there: its low two bits
select the table, and the others are laid over the table's number from the row on. The token is the
one that the integer selects if and only if the row has no more than the 24 bits that are there. -/
theorem compressedToken_isSelectedBy_iff (h : compressedToken c = (.ok t, d)) :
    ∃ n table, compressedNat c = (.ok n, d) ∧ typeTables[n % 4]? = some table ∧
      t.table = table.number ||| n / 4 / 0x1000000 ∧ t.row = n / 4 % 0x1000000 ∧
      (t.IsSelectedBy n ↔ n / 4 < 0x1000000) := by
  obtain ⟨n, table, hn, htag, rfl⟩ := compressedToken_eq_ok_iff.1 h
  have hlt := compressedNat_lt hn
  have hfits : n / 4 < 0x8000000 := by omega
  have htable := Token.table_overlaid table hfits
  have hrow := Token.row_overlaid table hfits
  refine ⟨n, table, hn, htag, htable, hrow, ?_, fun hbits ↦ ?_⟩
  · rintro ⟨_, _, _, hsame⟩
    omega
  · rw [Nat.div_eq_of_lt hbits, Nat.or_zero] at htable
    exact ⟨table, htag, htable, hrow.trans (Nat.mod_eq_of_lt hbits)⟩

theorem compressedToken_isSelectedBy_typeSpec :
    ∃ n d, compressedToken ⟨#[0xC3, 0xFF, 0xFF, 0xFE], 0⟩
        = (.ok (Table.typeSpec.token 0xFFFFFF), d) ∧
      compressedNat ⟨#[0xC3, 0xFF, 0xFF, 0xFE], 0⟩ = (.ok n, d) ∧
      (Table.typeSpec.token 0xFFFFFF).IsSelectedBy n := by
  have hread : compressedToken ⟨#[0xC3, 0xFF, 0xFF, 0xFE], 0⟩
      = (.ok (Table.typeSpec.token 0xFFFFFF), ⟨#[0xC3, 0xFF, 0xFF, 0xFE], 4⟩) := rfl
  obtain ⟨n, table, hn, _, _, _, hiff⟩ := compressedToken_isSelectedBy_iff hread
  refine ⟨n, _, hread, hn, hiff.2 ?_⟩
  cases hn
  decide

/-- An integer that selects a row of the type definitions is read as the token of a method. -/
theorem not_isSelectedBy_methodDef :
    compressedToken ⟨#[0xD0, 0, 0, 4], 0⟩
        = (.ok (Table.methodDef.token 1), ⟨#[0xD0, 0, 0, 4], 4⟩) ∧
      compressedNat ⟨#[0xD0, 0, 0, 4], 0⟩ = (.ok 0x10000004, ⟨#[0xD0, 0, 0, 4], 4⟩) ∧
      typeTables[0x10000004 % 4]? = some .typeDef ∧
      ¬ (Table.methodDef.token 1).IsSelectedBy 0x10000004 := by
  refine ⟨rfl, rfl, rfl, ?_⟩
  rintro ⟨_, _, _, hrow⟩
  exact absurd hrow (by decide)

end Reader

end CliMetadata
