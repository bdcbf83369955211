import CliMetadata.Proofs.Bytes.Holding
import CliMetadata.Proofs.Table.Layout
import Mathlib.Order.Bounds.Basic

namespace CliMetadata

theorem lt_rowBits_iff {k rows : Nat} (hk : 0 < k) : k < rowBits rows ↔ 1 <<< k ≤ rows := by
  rw [rowBits, Nat.one_shiftLeft]
  by_cases hrows : rows = 0
  · have hpos := Nat.two_pow_pos k
    rw [if_pos hrows]
    omega
  · rw [if_neg hrows, Nat.lt_succ_iff, Nat.le_log2 hrows]

theorem lt_foldl_max_iff {k a : Nat} {ns : List Nat} :
    k < ns.foldl max a ↔ k < a ∨ ∃ n ∈ ns, k < n := by
  induction ns generalizing a with
  | nil => simp
  | cons n ns ih =>
    have hmax : k < max a n ↔ k < a ∨ k < n := by omega
    rw [List.foldl_cons, ih, hmax, or_assoc, List.exists_mem_cons_iff]

namespace CodedIndex

variable {kind : CodedIndex} {b : Nat}

theorem tagBits_le_iff : kind.tagBits ≤ b ↔ kind.tables.length ≤ 1 <<< b := by
  have hsome : 2 ≤ kind.tables.length := by cases kind <;> decide
  rw [tagBits, Nat.succ_le_iff, Nat.log2_lt (by omega), Nat.one_shiftLeft]
  omega

theorem isLeast_tagBits (kind : CodedIndex) :
    IsLeast {b | kind.tables.length ≤ 1 <<< b} kind.tagBits :=
  ⟨tagBits_le_iff.1 (Nat.le_refl _), fun _ hb ↦ tagBits_le_iff.2 hb⟩

theorem tagBits_lt (kind : CodedIndex) : kind.tagBits < 15 := by
  cases kind <;> decide

end CodedIndex

namespace TableHeader

variable {data : Bytes} (header : TableHeader)

theorem indexBytes_eq (table : Table) :
    header.indexBytes table = if header.rows table < 0x10000 then 2 else 4 := by
  have hwide : 16 < rowBits (header.rows table) ↔ ¬header.rows table < 0x10000 := by
    rw [lt_rowBits_iff (by decide), Nat.not_lt]
    rfl
  rw [indexBytes, if_congr hwide rfl rfl, ite_not]

theorem codedBytes_eq (kind : CodedIndex) : header.codedBytes kind =
    if ∀ table ∈ kind.tables, header.rows table < 1 <<< (16 - kind.tagBits) then 2 else 4 := by
  have htag := kind.tagBits_lt
  have hsome : 0 < 16 - kind.tagBits := by omega
  have hone : ¬16 - kind.tagBits < 1 := by omega
  have hwide : 16 < (kind.tables.map fun table ↦ rowBits (header.rows table)).foldl max 1
      + kind.tagBits ↔
        ¬∀ table ∈ kind.tables, header.rows table < 1 <<< (16 - kind.tagBits) := by
    have hbits (n : Nat) : 16 < n + kind.tagBits ↔ 16 - kind.tagBits < n := by omega
    simp only [hbits, lt_foldl_max_iff, hone, false_or, List.mem_map, exists_exists_and_eq_and,
      lt_rowBits_iff hsome, not_forall, Nat.not_lt, exists_prop]
  rw [codedBytes, if_congr hwide rfl rfl, ite_not]

/-- The row counts in front of a number's are those of the lower numbers that are set. -/
theorem count_of_readCounts {valid offset stop : Nat} {numbers counts : List Nat}
    (h : readCounts data valid numbers offset = .ok (counts, stop)) {i number : Nat}
    (hnumber : numbers[i]? = some number) : ∃ count, counts[i]? = some count ∧
      (valid.testBit number = false → count = 0) ∧
      (valid.testBit number = true →
        data.word (offset + 4 * (numbers.take i).countP valid.testBit) 4 = .ok count) := by
  induction numbers generalizing i offset counts with
  | nil => cases hnumber
  | cons first numbers ih =>
    rw [readCounts] at h
    split at h
    · next hbit =>
      obtain ⟨count, hcount, h⟩ := Attempt.except_bind_eq_ok_iff.1 h
      obtain ⟨⟨others, last⟩, hothers, h⟩ := Attempt.except_bind_eq_ok_iff.1 h
      cases h
      cases i with
      | zero =>
        cases hnumber
        exact ⟨count, rfl, fun hclear ↦ absurd hclear (by simp [hbit]), fun _ ↦ hcount⟩
      | succ i =>
        obtain ⟨other, hother, hclear, hset⟩ := ih hothers hnumber
        have hbehind : offset + 4 * ((numbers.take i).countP valid.testBit + 1)
            = offset + 4 + 4 * (numbers.take i).countP valid.testBit := by omega
        rw [List.take_succ_cons, List.countP_cons_of_pos hbit, hbehind]
        exact ⟨other, hother, hclear, hset⟩
    · next hbit =>
      obtain ⟨⟨others, last⟩, hothers, h⟩ := Attempt.except_bind_eq_ok_iff.1 h
      cases h
      cases i with
      | zero =>
        cases hnumber
        exact ⟨0, rfl, fun _ ↦ rfl, fun hset ↦ absurd hset hbit⟩
      | succ i =>
        obtain ⟨other, hother, hclear, hset⟩ := ih hothers hnumber
        rw [List.take_succ_cons, List.countP_cons_of_neg hbit]
        exact ⟨other, hother, hclear, hset⟩

/-- The row counts are read if all of them are inside the data. -/
theorem exists_readCounts_iff {valid offset : Nat} {numbers : List Nat}
    (hoffset : offset ≤ data.size) :
    (∃ read, readCounts data valid numbers offset = .ok read) ↔
      offset + 4 * numbers.countP valid.testBit ≤ data.size := by
  induction numbers generalizing offset with
  | nil => simpa [readCounts] using hoffset
  | cons number numbers ih =>
    rw [readCounts]
    split
    · next hbit =>
      have hbehind : offset + 4 * (numbers.countP valid.testBit + 1)
          = offset + 4 + 4 * numbers.countP valid.testBit := by omega
      rw [List.countP_cons_of_pos hbit, hbehind]
      constructor
      · rintro ⟨_, h⟩
        obtain ⟨count, hcount, h⟩ := Attempt.except_bind_eq_ok_iff.1 h
        obtain ⟨others, hothers, _⟩ := Attempt.except_bind_eq_ok_iff.1 h
        have hinside := (Bytes.Holds.of_word hcount).1.le_size
        rw [length_toLittleEndian] at hinside
        exact (ih hinside).1 ⟨others, hothers⟩
      · intro hinside
        have hcount : offset + 4 ≤ data.size := by omega
        obtain ⟨count, hcount⟩ := Bytes.word_of_le hcount
        obtain ⟨others, hothers⟩ := (ih (by omega)).2 hinside
        simp only [hcount, hothers, bind, Except.bind]
        exact ⟨_, rfl⟩
    · next hbit =>
      rw [List.countP_cons_of_neg hbit, ← ih hoffset]
      constructor
      · rintro ⟨_, h⟩
        obtain ⟨others, hothers, _⟩ := Attempt.except_bind_eq_ok_iff.1 h
        exact ⟨others, hothers⟩
      · rintro ⟨others, hothers⟩
        simp only [hothers, bind, Except.bind]
        exact ⟨_, rfl⟩

theorem exists_read_iff : (∃ header, read data = .ok header) ↔ ∃ valid,
    data.word 8 8 = .ok valid ∧ 24 + 4 * (List.range 64).countP valid.testBit ≤ data.size := by
  constructor
  · rintro ⟨header, h⟩
    obtain ⟨_, valid, _, _, hvalid, hcounts, _⟩ := exists_counts_of_read h
    have hsize : 24 ≤ data.size := by
      rw [read] at h
      split at h
      · cases h
      · omega
    exact ⟨valid, hvalid, (exists_readCounts_iff hsize).1 ⟨_, hcounts⟩⟩
  · rintro ⟨valid, hvalid, hinside⟩
    have hsize : 24 ≤ data.size := by omega
    have hflags : 6 + 1 ≤ data.size := by omega
    obtain ⟨flags, hflags⟩ := Bytes.word_of_le hflags
    obtain ⟨counts, hcounts⟩ := (exists_readCounts_iff hsize).2 hinside
    simp only [read, hflags, hvalid, hcounts, bind, Except.bind, pure, Except.pure]
    rw [if_neg (by omega)]
    exact ⟨_, rfl⟩

/-- What a header with these flags and this mask of tables stands for. -/
structure Describes (data : Bytes) (flags valid : Nat) : Prop where
  length : header.length = 24 + 4 * (List.range 64).countP valid.testBit
    + if flags.testBit 6 then 4 else 0
  present (table : Table) : valid.testBit table.number = true →
    data.word (24 + 4 * (List.range table.number).countP valid.testBit) 4 = .ok (header.rows table)
  absent (table : Table) : valid.testBit table.number = false → header.rows table = 0
  index (table : Table) : header.indexBytes table = if header.rows table < 0x10000 then 2 else 4
  coded (kind : CodedIndex) (b : Nat) : IsLeast {b | kind.tables.length ≤ 1 <<< b} b →
    header.codedBytes kind
      = if ∀ table ∈ kind.tables, header.rows table < 1 <<< (16 - b) then 2 else 4

/-- A header is read if its row counts are inside the data, and then it has for each table the count
at the rank of the table's bit, ends behind the counts and the extra data, and has the widths that
the format gives to its counts. -/
theorem read_describes (data : Bytes) :
    ((∃ header, read data = .ok header) ↔ ∃ valid, data.word 8 8 = .ok valid ∧
      24 + 4 * (List.range 64).countP valid.testBit ≤ data.size) ∧
    ∀ header, read data = .ok header → ∃ flags valid, data.word 6 1 = .ok flags ∧
      data.word 8 8 = .ok valid ∧ header.Describes data flags valid := by
  refine ⟨exists_read_iff, fun header h ↦ ?_⟩
  obtain ⟨flags, valid, stop, hflags, hvalid, hcounts, hlength⟩ := exists_counts_of_read h
  have hcount (table : Table) :
      (valid.testBit table.number = false → header.rows table = 0) ∧
      (valid.testBit table.number = true →
        data.word (24 + 4 * (List.range table.number).countP valid.testBit) 4
          = .ok (header.rows table)) := by
    have hlt := table.number_lt
    obtain ⟨count, hcount, hcases⟩ := count_of_readCounts hcounts
      (List.getElem?_range (show table.number < 64 by omega))
    rw [List.take_range, Nat.min_eq_left (by omega)] at hcases
    rwa [rows, List.getD_eq_getElem?_getD, hcount]
  refine ⟨flags, valid, hflags, hvalid, ?_⟩
  exact {
    length := by
      rw [hlength, stop_of_readCounts hcounts]
      split <;> rfl
    present := fun table ↦ (hcount table).2
    absent := fun table ↦ (hcount table).1
    index := header.indexBytes_eq
    coded := fun kind b hb ↦ by rw [header.codedBytes_eq, kind.isLeast_tagBits.unique hb] }

def wideScopes : Bytes :=
  #[0, 0, 0, 0, 2, 0, 0x40, 1, 6, 0, 0, 0, 0, 0, 0, 0x80, 0, 0, 0, 0, 0, 0, 0, 0,
    0, 0x40, 0, 0, 3, 0, 0, 0, 9, 0, 0, 0, 0xEE, 0xEE, 0xEE, 0xEE]

theorem read_describes_wideScopes :
    ∃ header, read wideScopes = .ok header ∧ header.length = 40 ∧ header.rows .typeRef = 0x4000 ∧
      header.rows .typeDef = 3 ∧ header.indexBytes .typeRef = 2 ∧
      header.codedBytes .resolutionScope = 4 := by
  have hflags : wideScopes.word 6 1 = .ok 0x40 := by decide
  have hvalid : wideScopes.word 8 8 = .ok 0x8000000000000006 := by decide
  obtain ⟨haccepted, hdescribed⟩ := read_describes wideScopes
  obtain ⟨header, h⟩ := haccepted.2 ⟨_, hvalid, by decide⟩
  obtain ⟨flags, valid, hflags', hvalid', hheader⟩ := hdescribed header h
  cases hflags.symm.trans hflags'
  cases hvalid.symm.trans hvalid'
  have hrefs : Except.ok 0x4000 = .ok (header.rows .typeRef) :=
    hheader.present .typeRef (by decide)
  have hdefs : Except.ok 3 = .ok (header.rows .typeDef) := hheader.present .typeDef (by decide)
  replace hrefs := (Except.ok.inj hrefs).symm
  have hcoded := hheader.coded .resolutionScope _ (CodedIndex.isLeast_tagBits _)
  rw [if_neg fun hall ↦ absurd (hall .typeRef (by decide)) (hrefs ▸ by decide)] at hcoded
  exact ⟨header, h, hheader.length, hrefs, (Except.ok.inj hdefs).symm,
    (hheader.index .typeRef).trans (if_pos (hrefs ▸ by decide)), hcoded⟩

end TableHeader

end CliMetadata
