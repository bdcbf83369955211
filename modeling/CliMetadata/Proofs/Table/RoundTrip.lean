import CliMetadata.Proofs.Bytes.Holding
import CliMetadata.Proofs.Table.Image
import CliMetadata.Proofs.Table.Widths

namespace CliMetadata

open Bytes

namespace CodedIndex

theorem tagBits_eq_tagWidth (kind : CodedIndex) : kind.tagBits = kind.tagWidth := by
  cases kind <;> rfl

theorem tag_lt {kind : CodedIndex} {tag : Nat} {table : Table}
    (h : kind.tables[tag]? = some table) : tag < 1 <<< kind.tagWidth := by
  have htag := (List.getElem?_eq_some_iff.1 h).1
  have hlen : kind.tables.length ≤ 1 <<< kind.tagWidth := by cases kind <;> decide
  omega

theorem decode_written {kind : CodedIndex} {tag row : Nat} {table : Table}
    (h : kind.tables[tag]? = some table) :
    kind.decode (row <<< kind.tagWidth + tag) = .ok (table, row) := by
  have htag := tag_lt h
  have hpos : 0 < 1 <<< kind.tagWidth := by omega
  have hshift : row <<< kind.tagWidth = 1 <<< kind.tagWidth * row := by
    rw [Nat.shiftLeft_eq, Nat.one_shiftLeft, Nat.mul_comm]
  have hmod : (row <<< kind.tagWidth + tag) % 1 <<< kind.tagWidth = tag := by
    rw [hshift, Nat.mul_add_mod, Nat.mod_eq_of_lt htag]
  have hdiv : (row <<< kind.tagWidth + tag) >>> kind.tagWidth = row := by
    rw [hshift, Nat.shiftRight_eq_div_pow, ← Nat.one_shiftLeft, Nat.mul_add_div hpos,
      Nat.div_eq_of_lt htag, Nat.add_zero]
  rw [decode, tagBits_eq_tagWidth, hmod, hdiv]
  simp only [h]

end CodedIndex

namespace TableImage

variable {image : TableImage}

def header (image : TableImage) : TableHeader where
  counts := (List.range 64).map fun number ↦
    if image.valid.testBit number then image.count number else 0
  wideStrings := image.flags.toNat.testBit 0
  wideGuids := image.flags.toNat.testBit 1
  wideBlobs := image.flags.toNat.testBit 2
  length := 24 + image.countBytes.length + image.extraBytes.length

theorem readCounts_of_holds {data : Bytes} {valid : Nat} {count : Nat → Nat}
    (hcount : ∀ number, valid.testBit number = true → count number < 1 <<< 32)
    {numbers : List Nat} {offset : Nat}
    (h : data.Holds offset ((numbers.filter valid.testBit).flatMap fun number ↦
      toLittleEndian 4 (count number))) :
    TableHeader.readCounts data valid numbers offset
      = .ok (numbers.map fun number ↦ if valid.testBit number then count number else 0,
          offset + ((numbers.filter valid.testBit).flatMap fun number ↦
            toLittleEndian 4 (count number)).length) := by
  induction numbers generalizing offset with
  | nil => rfl
  | cons number numbers ih =>
    cases hbit : valid.testBit number with
    | false =>
      rw [List.filter_cons_of_neg (by simp [hbit])] at h ⊢
      simp [TableHeader.readCounts, hbit, ih h, bind, Except.bind, pure, Except.pure]
    | true =>
      rw [List.filter_cons_of_pos hbit, List.flatMap_cons] at h ⊢
      have hword := h.left.word (hcount number hbit)
      have hright := h.right
      rw [length_toLittleEndian] at hright
      simp [TableHeader.readCounts, hbit, hword, ih hright, bind, Except.bind, pure, Except.pure,
        length_toLittleEndian, Nat.add_assoc]

theorem holds_parts {data : Bytes} (h : data.Holds 0 image.bytes) :
    data.Holds 4 [image.major] ∧ data.Holds 5 [image.minor] ∧ data.Holds 6 [image.flags] ∧
      data.Holds 8 (toLittleEndian 8 image.valid) ∧ data.Holds 24 image.countBytes ∧
      data.Holds image.header.length (Table.all.flatMap image.tableBytes) := by
  have hmajor := h.right
  have hminor := hmajor.right
  have hflags := hminor.right
  have hvalid := hflags.right.right
  have hcounts := hvalid.right.right
  have htables := hcounts.right.right
  simp only [length_toLittleEndian, List.length_singleton] at hmajor hminor hflags hvalid hcounts
  simp only [length_toLittleEndian, List.length_singleton] at htables
  exact ⟨hmajor.left, hminor.left, hflags.left, hvalid.left, hcounts.left, htables⟩

theorem read_header {data : Bytes} (hfits : image.Fits) (h : data.Holds 0 image.bytes) :
    TableHeader.read data = .ok image.header := by
  obtain ⟨_, _, hflags, hvalid, hcounts, _⟩ := holds_parts h
  have hsize := hcounts.le_size
  have hlen : (if image.flags.toNat.testBit 6 then 24 + image.countBytes.length + 4
      else 24 + image.countBytes.length) = image.header.length := by
    rw [header, extraBytes]
    split
    · rw [length_toLittleEndian]
    · rfl
  have hread := readCounts_of_holds hfits.counts hcounts
  simp only [TableHeader.read, hflags.byte, hvalid.word hfits.valid, bind, Except.bind, pure,
    Except.pure]
  rw [if_neg (by omega)]
  simp only [hread]
  rw [← countBytes, hlen]
  rfl

theorem header_rows (hfits : image.Fits) (table : Table) :
    image.header.rows table = (image.rows table).length := by
  have hlt := table.number_lt
  have hcount : image.count table.number = (image.rows table).length := by
    rw [count, Table.ofNumber?_number]
  rw [TableHeader.rows, header, List.getD_eq_getElem?_getD, List.getElem?_map,
    List.getElem?_range (by omega), Option.map_some, Option.getD_some, hcount]
  split
  · rfl
  · next hbit =>
    by_cases hrows : image.rows table = []
    · rw [hrows, List.length_nil]
    · exact absurd (hfits.present table hrows) hbit

/-- The header measures columns as the file format does. -/
theorem columnBytes_eq_width (hfits : image.Fits) (column : Column) :
    image.header.columnBytes column = image.width column := by
  cases column with
  | short | long | string | guid | blob => rfl
  | index table => rw [TableHeader.columnBytes, TableHeader.indexBytes_eq, header_rows hfits, width]
  | coded kind =>
    rw [TableHeader.columnBytes, TableHeader.codedBytes_eq, CodedIndex.tagBits_eq_tagWidth]
    simp only [header_rows hfits, width]

theorem length_cellBytes {columns : List Column} {row : List Cell}
    (h : List.Forall₂ (Cell.Fits image.width) columns row) :
    (image.cellBytes columns row).length = columns.foldr (image.width · + ·) 0 := by
  induction h with
  | nil => rfl
  | @cons column cell columns row _ _ ih =>
    rw [cellBytes, List.zipWith_cons_cons, List.flatten_cons, List.length_append,
      length_toLittleEndian, List.foldr_cons, ← ih]
    rfl

theorem rowBytes_eq (hfits : image.Fits) (table : Table) :
    image.header.rowBytes table = table.columns.foldr (image.width · + ·) 0 := by
  rw [TableHeader.rowBytes]
  congr
  funext column
  rw [columnBytes_eq_width hfits]

theorem length_rows (hfits : image.Fits) (table : Table) {rows : List (List Cell)}
    (h : ∀ row ∈ rows, row ∈ image.rows table) :
    (rows.flatMap (image.cellBytes table.columns)).length
      = rows.length * image.header.rowBytes table := by
  induction rows with
  | nil => simp
  | cons row rows ih =>
    have hrow := length_cellBytes (hfits.cells table row (h row (List.mem_cons_self ..)))
    rw [List.flatMap_cons, List.length_append, hrow, ← rowBytes_eq hfits,
      ih fun r hr ↦ h r (List.mem_cons_of_mem row hr), List.length_cons, Nat.succ_mul, Nat.add_comm]

theorem length_tables (hfits : image.Fits) (tables : List Table) :
    (tables.flatMap image.tableBytes).length
      = tables.foldr (image.header.tableBytes · + ·) 0 := by
  induction tables with
  | nil => rfl
  | cons table tables ih =>
    rw [List.flatMap_cons, List.length_append, List.foldr_cons, ih, tableBytes,
      length_rows hfits table fun _ hrow ↦ hrow, TableHeader.tableBytes, header_rows hfits]

/-- A row stands where the stream looks for it. -/
theorem holds_row {s : TableStream} (hfits : image.Fits) (hheader : s.header = image.header)
    (h : s.data.Holds 0 image.bytes) {table : Table} {i : Nat} {row : List Cell}
    (hrow : (image.rows table)[i]? = some row) :
    s.data.Holds (s.rowStart table (i + 1)) (image.cellBytes table.columns row) := by
  have htable : Table.all[table.number]? = some table := Table.ofNumber?_number table
  have htables := (holds_parts h).2.2.2.2.2.part htable
  have hrows := htables.part hrow
  have hi := (List.getElem?_eq_some_iff.1 hrow).1
  rw [length_tables hfits, length_rows hfits table fun _ ↦ List.mem_of_mem_take, List.length_take,
    Nat.min_eq_left (Nat.le_of_lt hi)] at hrows
  rw [TableStream.rowStart, hheader, TableHeader.start, Nat.add_sub_cancel]
  exact hrows

theorem columnValue_written {column : Column} {cell : Cell}
    (h : Cell.Fits image.width column cell) :
    TableStream.columnValue column cell.written = .ok cell.value := by
  cases h with
  | @number column n hkind _ =>
    cases column with
    | coded kind => exact absurd rfl (hkind kind)
    | _ => rfl
  | coded htable _ _ =>
    rw [TableStream.columnValue, Cell.written, CodedIndex.decode_written htable]
    rfl

theorem written_lt {column : Column} {cell : Cell} (h : Cell.Fits image.width column cell) :
    cell.written < 1 <<< (8 * image.width column) := by
  cases h with
  | number _ hlt => exact hlt
  | coded _ _ hlt => exact hlt

theorem readColumns_of_holds {s : TableStream} (hfits : image.Fits)
    (hheader : s.header = image.header) {columns : List Column} {row : List Cell} {offset : Nat}
    (hrow : List.Forall₂ (Cell.Fits image.width) columns row)
    (h : s.data.Holds offset (image.cellBytes columns row)) :
    s.readColumns offset columns = .ok (row.map Cell.value) := by
  induction hrow generalizing offset with
  | nil => rfl
  | @cons column cell columns row hcell _ ih =>
    rw [cellBytes, List.zipWith_cons_cons, List.flatten_cons] at h
    have hword := h.left.word (written_lt hcell)
    have hothers := h.right
    rw [length_toLittleEndian] at hothers
    have hwidth : s.header.columnBytes column = image.width column := by
      rw [hheader, columnBytes_eq_width hfits]
    simp only [TableStream.readColumns, hwidth, hword, columnValue_written hcell, ih hothers, bind,
      Except.bind, pure, Except.pure, List.map_cons]

end TableImage

/-- A stream that starts with an image is read, and all rows of all tables are found in it. -/
theorem TableStream.read_image {image : TableImage} (hfits : image.Fits) (rest : List UInt8) :
    ∃ s, TableStream.read (image.bytes ++ rest).toArray = .ok s ∧ ∀ table,
      s.rows table = (image.rows table).length ∧ ∀ rid, 1 ≤ rid → rid ≤ s.rows table →
        ∃ row, (image.rows table)[rid - 1]? = some row ∧
          s.row table rid = .ok (row.map Cell.value) := by
  have h : Bytes.Holds (image.bytes ++ rest).toArray 0 image.bytes := ⟨[], rest, rfl, rfl⟩
  obtain ⟨hmajor, hminor, _, _, _, htables⟩ := TableImage.holds_parts h
  have hsize := htables.le_size
  have hstop : image.header.stop
      = image.header.length + (Table.all.flatMap image.tableBytes).length := by
    rw [TableImage.length_tables hfits, TableHeader.stop]
  have hread : TableStream.read (image.bytes ++ rest).toArray
      = .ok ⟨(image.bytes ++ rest).toArray, image.header, image.major.toNat,
          image.minor.toNat⟩ := by
    simp only [TableStream.read, TableImage.read_header hfits h, hmajor.byte, hminor.byte, bind,
      Except.bind, pure, Except.pure]
    rw [if_neg (by omega)]
  refine ⟨_, hread, fun table ↦ ⟨TableImage.header_rows hfits table, fun rid hlow hhigh ↦ ?_⟩⟩
  rw [TableStream.rows, TableImage.header_rows hfits] at hhigh
  obtain ⟨i, rfl⟩ : ∃ i, rid = i + 1 := ⟨rid - 1, by omega⟩
  have hrow := List.getElem?_eq_getElem (show i < (image.rows table).length from hhigh)
  refine ⟨_, hrow, ?_⟩
  rw [TableStream.row, TableStream.rows, TableImage.header_rows hfits, if_neg (by omega)]
  exact TableImage.readColumns_of_holds hfits rfl
    (hfits.cells table _ (List.getElem_mem _)) (TableImage.holds_row hfits rfl h hrow)

def TableImage.small : TableImage where
  flags := 0x41
  valid := 0x4000000000003
  extra := 7
  rows
    | .module => [[.number 0, .number 0x12345, .number 1, .number 0, .number 0]]
    | .typeRef => [[.coded .resolutionScope .module 0 1, .number 5, .number 0x10000]]
    | _ => []
  others _ := 3

theorem TableImage.small_fits : small.Fits where
  valid := by decide
  present table hrows := by
    cases table with
    | module | typeRef => decide
    | _ => exact absurd rfl hrows
  counts number _ := by
    have hfew (table : Table) : (small.rows table).length ≤ 1 := by cases table <;> decide
    have hone : 1 < 1 <<< 32 := by decide
    have hthree : 3 < 1 <<< 32 := by decide
    unfold count
    split
    · exact Nat.lt_of_le_of_lt (hfew _) hone
    · exact hthree
  cells table row hrow := by
    have hnumber (column : Column) (n : Nat) (hkind : ∀ kind, column ≠ .coded kind)
        (hn : n < 1 <<< (8 * small.width column)) :
        Cell.Fits small.width column (.number n) := .number hkind hn
    cases table with
    | module =>
      obtain rfl := List.mem_singleton.1 hrow
      exact .cons (hnumber _ _ (by simp) (by decide)) (.cons (hnumber _ _ (by simp) (by decide))
        (.cons (hnumber _ _ (by simp) (by decide)) (.cons (hnumber _ _ (by simp) (by decide))
          (.cons (hnumber _ _ (by simp) (by decide)) .nil))))
    | typeRef =>
      obtain rfl := List.mem_singleton.1 hrow
      exact .cons (.coded rfl (by decide) (by decide)) (.cons (hnumber _ _ (by simp) (by decide))
        (.cons (hnumber _ _ (by simp) (by decide)) .nil))
    | _ => cases hrow

theorem TableStream.read_image_small :
    ∃ s, TableStream.read (TableImage.small.bytes ++ [0xFF]).toArray = .ok s ∧
      s.row .typeRef 1 = .ok [1, 5, 0x10000] := by
  obtain ⟨s, hread, hrows⟩ := read_image TableImage.small_fits [0xFF]
  obtain ⟨hcount, hrow⟩ := hrows .typeRef
  obtain ⟨row, hmem, hrow⟩ := hrow 1 (by decide) (by rw [hcount]; decide)
  obtain rfl := Option.some.inj hmem
  exact ⟨s, hread, hrow⟩

end CliMetadata
