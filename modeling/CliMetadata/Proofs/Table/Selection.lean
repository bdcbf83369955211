import CliMetadata.Proofs.Table.Layout

namespace CliMetadata

/-- The token has the number of the table and exactly the row. -/
def Token.IsOf (t : Token) (table : Table) (row : Nat) : Prop :=
  t.table = table.number ∧ t.row = row

theorem Table.token_isOf_iff {table : Table} {row : Nat} :
    (table.token row).IsOf table row ↔ row < 0x1000000 := by
  rw [Token.IsOf, table_token, row_token]
  omega

namespace CodedIndex

variable {kind : CodedIndex} {value row : Nat} {table : Table}

theorem decode_eq_ok_iff : kind.decode value = .ok (table, row) ↔
    kind.tables[value % 1 <<< kind.tagBits]? = some table ∧ value >>> kind.tagBits = row := by
  rw [decode]
  split
  · next htable =>
    simp [htable]
  · next htable =>
    simp [htable]

theorem shiftRight_lt_iff (kind : CodedIndex) (value : Nat) :
    value >>> kind.tagBits < 0x1000000 ↔ value < 1 <<< (24 + kind.tagBits) := by
  rw [Nat.shiftRight_eq_div_pow, Nat.div_lt_iff_lt_mul (Nat.two_pow_pos _), Nat.one_shiftLeft,
    Nat.pow_add]

end CodedIndex

namespace TableStream

variable {s : TableStream} {table : Table} {rid i offset : Nat} {kind : CodedIndex}

theorem gives_of_getElem? {places : List (Nat × Column)} {row : Row} {place : Nat × Column}
    (h : List.Forall₂ s.Gives places row) (hplace : places[i]? = some place) :
    s.Gives place (row.get i) := by
  induction h generalizing i with
  | nil => cases hplace
  | cons hvalue _ ih =>
    cases i with
    | zero =>
      cases hplace
      exact hvalue
    | succ i => exact ih hplace

theorem columnValue_of_decode {value row : Nat} (h : kind.decode value = .ok (table, row)) :
    columnValue (.coded kind) value = .ok (table.token row).toNat := by
  rw [columnValue, h]
  rfl

/-- Rows have a token in a coded column, of what the value in it selects. -/
theorem token_of_row {values : Row} (h : s.row table rid = .ok values)
    (hplace : (s.columnPlaces table rid)[i]? = some (offset, .coded kind)) :
    ∃ value target row, s.data.word offset (s.header.codedBytes kind) = .ok value ∧
      kind.decode value = .ok (target, row) ∧ values.token i = target.token row := by
  obtain ⟨value, hvalue, hcolumn⟩ := gives_of_getElem? (s.row_eq_ok_iff.1 h).2.2 hplace
  rw [columnValue] at hcolumn
  obtain ⟨⟨target, row⟩, hdecode, hcolumn⟩ := Attempt.except_bind_eq_ok_iff.1 hcolumn
  refine ⟨value, target, row, hvalue, hdecode, ?_⟩
  rw [Row.token, ← Except.ok.inj hcolumn, Token.ofNat_toNat]

end TableStream

/-- A coded value that selects a row is kept as a token of the table, with the low 24 bits of the
row: of exactly the row if and only if the value has no more than 24 bits above its tag. Two values
of a kind are kept as one token if and only if they select one table, in it rows that differ above
the 24th bit only. -/
theorem CodedIndex.stored_isOf_iff {kind : CodedIndex} {value : Nat} {table : Table} {row : Nat}
    (h : kind.decode value = .ok (table, row)) :
    TableStream.columnValue (.coded kind) value = .ok (table.token row).toNat ∧
    (∀ s source rid values i offset, TableStream.row s source rid = .ok values →
      (s.columnPlaces source rid)[i]? = some (offset, .coded kind) →
      s.data.word offset (s.header.codedBytes kind) = .ok value →
      values.token i = table.token row) ∧
    (table.token row).table = table.number ∧ (table.token row).row = row % 0x1000000 ∧
    ((table.token row).IsOf table row ↔ value < 1 <<< (24 + kind.tagBits)) ∧
    ∀ other target n, kind.decode other = .ok (target, n) →
      (target.token n = table.token row ↔ target = table ∧ n % 0x1000000 = row % 0x1000000) := by
  refine ⟨TableStream.columnValue_of_decode h, ?_, Table.table_token .., Table.row_token .., ?_,
    fun _ _ _ _ ↦ Table.token_eq_iff⟩
  · intro s source rid values i offset hrow hplace hvalue
    obtain ⟨other, target, n, hother, hdecode, htoken⟩ := TableStream.token_of_row hrow hplace
    obtain rfl := Except.ok.inj (hvalue.symm.trans hother)
    obtain ⟨⟩ := Except.ok.inj (h.symm.trans hdecode)
    exact htoken
  · obtain ⟨_, rfl⟩ := CodedIndex.decode_eq_ok_iff.1 h
    rw [Table.token_isOf_iff, CodedIndex.shiftRight_lt_iff]

def TableStream.farApart : Bytes :=
  (List.replicate 4 0 ++ [2, 0, 0, 1] ++ toLittleEndian 8 0x8001000 ++ toLittleEndian 8 0
    ++ toLittleEndian 4 2 ++ toLittleEndian 4 2048
    ++ (toLittleEndian 4 0x2D ++ [10, 0, 0, 0]) ++ (toLittleEndian 4 0x2000002D ++ [10, 0, 0, 0])
    ++ List.replicate 4096 0).toArray

theorem CodedIndex.stored_isOf_farApart : ∃ s values,
    TableStream.read TableStream.farApart = .ok s ∧ s.row .customAttribute 1 = .ok values ∧
      values.token 0 = Table.typeSpec.token 1 ∧ (values.token 0).IsOf .typeSpec 1 := by
  have hrow : (TableStream.read TableStream.farApart).bind (·.row .customAttribute 1)
      = .ok [(Table.typeSpec.token 1).toNat, (Table.methodDef.token 1).toNat, 0] := by
    decide +kernel
  have hvalue : (TableStream.read TableStream.farApart).bind (fun s ↦
      s.data.word (s.rowStart .customAttribute 1) (s.header.codedBytes .hasCustomAttribute))
      = .ok 0x2D := by decide +kernel
  obtain ⟨s, hread, hrow⟩ := Attempt.except_bind_eq_ok_iff.1 hrow
  simp only [hread, Except.bind] at hvalue
  have hplace : (s.columnPlaces .customAttribute 1)[0]?
      = some (s.rowStart .customAttribute 1, .coded .hasCustomAttribute) := rfl
  have hdecode : CodedIndex.hasCustomAttribute.decode 0x2D = .ok (.typeSpec, 1) := rfl
  obtain ⟨_, htokens, _, _, hiff, _⟩ := CodedIndex.stored_isOf_iff hdecode
  have htoken := htokens s .customAttribute 1 _ 0 _ hrow hplace hvalue
  refine ⟨s, _, hread, hrow, htoken, ?_⟩
  rw [htoken]
  exact hiff.2 (by decide)

/-- Both parents are read as the first row. -/
theorem CodedIndex.not_isOf_farApart :
    CodedIndex.hasCustomAttribute.decode 0x2D = .ok (.typeSpec, 1) ∧
    CodedIndex.hasCustomAttribute.decode 0x2000002D = .ok (.typeSpec, 0x1000001) ∧
    TableStream.farApart.word 32 4 = .ok 0x2D ∧ TableStream.farApart.word 40 4 = .ok 0x2000002D ∧
    (∀ rid ∈ [1, 2], (TableStream.read TableStream.farApart).bind (·.row .customAttribute rid)
      = .ok [(Table.typeSpec.token 1).toNat, (Table.methodDef.token 1).toNat, 0]) ∧
    ¬ (Table.typeSpec.token 1).IsOf .typeSpec 0x1000001 := by
  refine ⟨rfl, rfl, by decide +kernel, by decide +kernel, by decide +kernel, ?_⟩
  rintro ⟨_, hrow⟩
  exact absurd hrow (by decide)

end CliMetadata
