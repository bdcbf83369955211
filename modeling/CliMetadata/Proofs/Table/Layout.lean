import CliMetadata.Attempt
import CliMetadata.Table.Stream
import Mathlib.Data.List.Forall2
import Mathlib.Data.List.Pairwise

namespace CliMetadata

structure Extent where
  start : Nat
  length : Nat

namespace Extent

def stop (e : Extent) : Nat := e.start + e.length

def Apart (e f : Extent) : Prop := e.stop ≤ f.start ∨ f.stop ≤ e.start

theorem Apart.symm {e f : Extent} (h : e.Apart f) : f.Apart e := Or.symm h

/-- Extents that follow one another from an offset to another, without gap or overlap. -/
inductive Tiles : Nat → Nat → List Extent → Prop
  | nil (n : Nat) : Tiles n n []
  | cons {start length stop : Nat} {es : List Extent} :
      0 < length → Tiles (start + length) stop es → Tiles start stop (⟨start, length⟩ :: es)

namespace Tiles

variable {start middle stop : Nat} {es fs : List Extent}

theorem append (h : Tiles start middle es) (hother : Tiles middle stop fs) :
    Tiles start stop (es ++ fs) := by
  induction h with
  | nil => exact hother
  | cons hlength _ ih => exact .cons hlength (ih hother)

theorem le (h : Tiles start stop es) : start ≤ stop := by
  induction h with
  | nil => exact Nat.le_refl _
  | cons _ _ ih => omega

theorem within (h : Tiles start stop es) : ∀ e ∈ es, start ≤ e.start ∧ e.stop ≤ stop := by
  induction h with
  | nil => simp
  | @cons start length stop es _ h ih =>
    rw [List.forall_mem_cons]
    refine ⟨⟨Nat.le_refl _, h.le⟩, fun e he ↦ ?_⟩
    have hinside := ih e he
    omega

theorem pairwise (h : Tiles start stop es) : es.Pairwise fun e f ↦ e.stop ≤ f.start := by
  induction h with
  | nil => exact .nil
  | cons _ h ih => exact .cons (fun e he ↦ (h.within e he).1) ih

theorem steps {width : Nat} (hwidth : 0 < width) (start count : Nat) :
    Tiles start (start + count * width)
      ((List.range count).map fun i ↦ ⟨start + i * width, width⟩) := by
  induction count with
  | zero => simpa using Tiles.nil start
  | succ count ih =>
    rw [List.range_succ, List.map_append, List.map_singleton, Nat.succ_mul, ← Nat.add_assoc]
    exact ih.append (.cons hwidth (.nil _))

end Tiles

end Extent

open Extent (Tiles)

theorem Bytes.word_of_le {data : Bytes} {offset width : Nat} (h : offset + width ≤ data.size) :
    ∃ n, data.word offset width = .ok n := by
  rw [word, slice, if_pos h]
  exact ⟨_, rfl⟩

theorem foldr_add_concat {α : Type} (f : α → Nat) (as : List α) (a : α) :
    (as ++ [a]).foldr (f · + ·) 0 = as.foldr (f · + ·) 0 + f a := by
  induction as with
  | nil => simp
  | cons b as ih => rw [List.cons_append, List.foldr_cons, List.foldr_cons, ih, Nat.add_assoc]

theorem Table.number_of_getElem? {n : Nat} {table : Table} (h : Table.all[n]? = some table) :
    table.number = n := by
  have hall : ∀ i : Fin all.length, all[i].number = i := by decide
  obtain ⟨hn, rfl⟩ := List.getElem?_eq_some_iff.1 h
  exact hall ⟨n, hn⟩

namespace TableHeader

variable {data : Bytes} (header : TableHeader)

theorem stop_of_readCounts {valid offset stop : Nat} {numbers counts : List Nat}
    (h : readCounts data valid numbers offset = .ok (counts, stop)) :
    stop = offset + 4 * numbers.countP valid.testBit := by
  induction numbers generalizing offset counts with
  | nil =>
    cases h
    rfl
  | cons number numbers ih =>
    rw [readCounts] at h
    split at h
    · next hbit =>
      obtain ⟨count, _, h⟩ := Attempt.except_bind_eq_ok_iff.1 h
      obtain ⟨⟨others, last⟩, hothers, h⟩ := Attempt.except_bind_eq_ok_iff.1 h
      cases h
      rw [ih hothers, List.countP_cons_of_pos hbit]
      omega
    · next hbit =>
      obtain ⟨⟨others, last⟩, hothers, h⟩ := Attempt.except_bind_eq_ok_iff.1 h
      cases h
      rw [ih hothers, List.countP_cons_of_neg hbit]

theorem exists_counts_of_read {header : TableHeader} (h : read data = .ok header) :
    ∃ flags valid stop, data.word 6 1 = .ok flags ∧ data.word 8 8 = .ok valid ∧
      readCounts data valid (List.range 64) 24 = .ok (header.counts, stop) ∧
      header.length = if flags.testBit 6 then stop + 4 else stop := by
  rw [read] at h
  split at h
  · cases h
  obtain ⟨flags, hflags, h⟩ := Attempt.except_bind_eq_ok_iff.1 h
  obtain ⟨valid, hvalid, h⟩ := Attempt.except_bind_eq_ok_iff.1 h
  obtain ⟨⟨counts, stop⟩, hcounts, h⟩ := Attempt.except_bind_eq_ok_iff.1 h
  cases h
  exact ⟨flags, valid, stop, hflags, hvalid, hcounts, rfl⟩

theorem length_of_read {header : TableHeader} (h : read data = .ok header) :
    ∃ flags valid, data.word 6 1 = .ok flags ∧ data.word 8 8 = .ok valid ∧
      header.length = 24 + 4 * (List.range 64).countP valid.testBit
        + if flags.testBit 6 then 4 else 0 := by
  obtain ⟨flags, valid, stop, hflags, hvalid, hcounts, hlength⟩ := exists_counts_of_read h
  refine ⟨flags, valid, hflags, hvalid, ?_⟩
  rw [hlength, ← stop_of_readCounts hcounts]
  split <;> rfl

theorem columnBytes_pos (column : Column) : 0 < header.columnBytes column := by
  have hwidth (p : Prop) [Decidable p] : 0 < if p then 4 else 2 := by split <;> decide
  cases column with
  | short | long => simp [columnBytes]
  | _ => exact hwidth _

def placed : Nat → List Column → List (Nat × Column)
  | _, [] => []
  | offset, column :: columns =>
    (offset, column) :: placed (offset + header.columnBytes column) columns

def columnExtent (place : Nat × Column) : Extent := ⟨place.1, header.columnBytes place.2⟩

theorem tiles_placed (offset : Nat) (columns : List Column) :
    Tiles offset (offset + columns.foldr (header.columnBytes · + ·) 0)
      ((header.placed offset columns).map header.columnExtent) := by
  induction columns generalizing offset with
  | nil => exact .nil offset
  | cons column columns ih =>
    rw [placed, List.map_cons, List.foldr_cons, ← Nat.add_assoc]
    exact .cons (header.columnBytes_pos column) (ih _)

theorem rowBytes_pos (table : Table) : 0 < header.rowBytes table := by
  cases hcolumns : table.columns with
  | nil => cases table <;> cases hcolumns
  | cons column columns =>
    have hcolumn := header.columnBytes_pos column
    rw [rowBytes, hcolumns, List.foldr_cons]
    omega

end TableHeader

namespace TableStream

variable {data : Bytes} (s : TableStream)

def placesOf (table : Table) : List (Table × Nat) :=
  (List.range (s.rows table)).map fun i ↦ (table, i + 1)

def places : List (Table × Nat) := Table.all.flatMap s.placesOf

def extent (place : Table × Nat) : Extent :=
  ⟨s.rowStart place.1 place.2, s.header.rowBytes place.1⟩

theorem mem_places {table : Table} {rid : Nat} :
    (table, rid) ∈ s.places ↔ 1 ≤ rid ∧ rid ≤ s.rows table := by
  have hall : table ∈ Table.all := List.mem_of_getElem? (Table.ofNumber?_number table)
  simp only [places, placesOf, List.mem_flatMap, List.mem_map, List.mem_range, Prod.mk.injEq]
  constructor
  · rintro ⟨_, _, i, hi, rfl, rfl⟩
    omega
  · rintro ⟨hlow, hhigh⟩
    exact ⟨table, hall, rid - 1, by omega, rfl, by omega⟩

theorem tiles_table (table : Table) :
    Tiles (s.header.start table) (s.header.start table + s.header.tableBytes table)
      ((s.placesOf table).map s.extent) := by
  rw [placesOf, List.map_map]
  exact .steps (s.header.rowBytes_pos table) _ _

theorem tiles_tables (before after : List Table) (h : before ++ after = Table.all) :
    Tiles (s.header.length + before.foldr (s.header.tableBytes · + ·) 0) s.header.stop
      ((after.flatMap s.placesOf).map s.extent) := by
  induction after generalizing before with
  | nil =>
    rw [TableHeader.stop, ← h, List.append_nil]
    exact .nil _
  | cons table after ih =>
    have hnumber : table.number = before.length := by
      apply Table.number_of_getElem?
      rw [← h, List.getElem?_append_right (Nat.le_refl _), Nat.sub_self]
      rfl
    have hstart : s.header.length + before.foldr (s.header.tableBytes · + ·) 0
        = s.header.start table := by
      rw [TableHeader.start, hnumber, ← h, List.take_left]
    have hnext : s.header.length + (before ++ [table]).foldr (s.header.tableBytes · + ·) 0
        = s.header.start table + s.header.tableBytes table := by
      rw [← hstart, foldr_add_concat, Nat.add_assoc]
    have hafter := ih (before ++ [table]) (by rw [List.append_assoc, List.singleton_append, h])
    rw [hnext] at hafter
    rw [List.flatMap_cons, List.map_append, hstart]
    exact (s.tiles_table table).append hafter

theorem tiles_places : Tiles s.header.length s.header.stop (s.places.map s.extent) :=
  s.tiles_tables [] Table.all rfl

theorem apart_of_ne {p q : Table × Nat} (hp : p ∈ s.places) (hq : q ∈ s.places) (hne : p ≠ q) :
    (s.extent p).Apart (s.extent q) := by
  have hordered : s.places.Pairwise fun p q ↦ (s.extent p).Apart (s.extent q) :=
    (List.pairwise_map.1 s.tiles_places.pairwise).imp Or.inl
  have : Std.Symm fun p q ↦ (s.extent p).Apart (s.extent q) := ⟨fun _ _ ↦ Extent.Apart.symm⟩
  exact hordered.forall hp hq hne

def Gives (place : Nat × Column) (value : Nat) : Prop :=
  ∃ word, s.data.word place.1 (s.header.columnBytes place.2) = .ok word ∧
    columnValue place.2 word = .ok value

/-- The column that stands at an offset has a tag for which its kind has no table. -/
def HasUnknownTag (place : Nat × Column) (e : Error) : Prop :=
  ∃ kind word, place.2 = .coded kind ∧
    s.data.word place.1 (s.header.columnBytes place.2) = .ok word ∧
    kind.tables[word % 1 <<< kind.tagBits]? = none ∧
    e = .malformed (.codedTag (word % 1 <<< kind.tagBits) kind)

theorem readColumns_eq_ok_iff {offset : Nat} {columns : List Column} {row : Row} :
    s.readColumns offset columns = .ok row ↔
      List.Forall₂ s.Gives (s.header.placed offset columns) row := by
  induction columns generalizing offset row with
  | nil =>
    rw [readColumns, TableHeader.placed, List.forall₂_nil_left_iff, Except.ok.injEq, eq_comm]
  | cons column columns ih =>
    rw [readColumns, TableHeader.placed, List.forall₂_cons_left_iff]
    constructor
    · intro h
      obtain ⟨word, hword, h⟩ := Attempt.except_bind_eq_ok_iff.1 h
      obtain ⟨value, hvalue, h⟩ := Attempt.except_bind_eq_ok_iff.1 h
      obtain ⟨values, hvalues, h⟩ := Attempt.except_bind_eq_ok_iff.1 h
      cases h
      exact ⟨value, values, ⟨word, hword, hvalue⟩, ih.1 hvalues, rfl⟩
    · rintro ⟨value, values, ⟨word, hword, hvalue⟩, hvalues, rfl⟩
      simp only [hword, hvalue, ih.2 hvalues, bind, Except.bind, pure, Except.pure]

theorem columnValue_eq_error {column : Column} {word : Nat} {e : Error}
    (h : columnValue column word = .error e) : ∃ kind, column = .coded kind ∧
      kind.tables[word % 1 <<< kind.tagBits]? = none ∧
      e = .malformed (.codedTag (word % 1 <<< kind.tagBits) kind) := by
  cases column with
  | coded kind =>
    rw [columnValue, CodedIndex.decode] at h
    cases htag : kind.tables[word % 1 <<< kind.tagBits]? with
    | none =>
      rw [htag] at h
      cases h
      exact ⟨kind, rfl, htag, rfl⟩
    | some table =>
      rw [htag] at h
      cases h
  | _ => cases h

/-- Only a tag can keep columns inside the data from being read. -/
theorem readColumns_eq_error {offset : Nat} {columns : List Column} {e : Error}
    (hinside : offset + columns.foldr (s.header.columnBytes · + ·) 0 ≤ s.data.size)
    (h : s.readColumns offset columns = .error e) :
    ∃ place ∈ s.header.placed offset columns, s.HasUnknownTag place e := by
  induction columns generalizing offset with
  | nil => cases h
  | cons column columns ih =>
    rw [List.foldr_cons, ← Nat.add_assoc] at hinside
    obtain ⟨word, hword⟩ := Bytes.word_of_le (Nat.le_trans (Nat.le_add_right ..) hinside)
    rw [readColumns] at h
    simp only [hword, bind, Except.bind] at h
    cases hvalue : columnValue column word with
    | error blame =>
      rw [hvalue] at h
      cases h
      obtain ⟨kind, rfl, htag, rfl⟩ := columnValue_eq_error hvalue
      exact ⟨_, List.mem_cons_self .., kind, word, rfl, hword, htag, rfl⟩
    | ok value =>
      cases hvalues : s.readColumns (offset + s.header.columnBytes column) columns with
      | error blame =>
        simp only [hvalue, hvalues] at h
        cases h
        obtain ⟨place, hplace, htag⟩ := ih hinside hvalues
        exact ⟨place, List.mem_cons_of_mem _ hplace, htag⟩
      | ok values =>
        simp only [hvalue, hvalues] at h
        cases h

def columnPlaces (table : Table) (rid : Nat) : List (Nat × Column) :=
  s.header.placed (s.rowStart table rid) table.columns

theorem row_eq_ok_iff {table : Table} {rid : Nat} {row : Row} :
    s.row table rid = .ok row ↔ 1 ≤ rid ∧ rid ≤ s.rows table ∧
      List.Forall₂ s.Gives (s.columnPlaces table rid) row := by
  rw [TableStream.row]
  split
  · next hout =>
    constructor
    · rintro ⟨⟩
    · rintro ⟨hlow, hhigh, _⟩
      omega
  · next hin =>
    rw [readColumns_eq_ok_iff]
    constructor
    · exact fun h ↦ ⟨by omega, by omega, h⟩
    · exact fun h ↦ h.2.2

/-- A row is read from its own bytes, all of which are there, and fails only on a tag. -/
structure RowInside (table : Table) (rid : Nat) : Prop where
  behindHeader : s.header.length ≤ (s.extent (table, rid)).start
  inData : (s.extent (table, rid)).stop ≤ s.data.size
  columns : Tiles (s.extent (table, rid)).start (s.extent (table, rid)).stop
    ((s.columnPlaces table rid).map s.header.columnExtent)
  values (row : Row) : s.row table rid = .ok row ↔
    List.Forall₂ s.Gives (s.columnPlaces table rid) row
  inBounds : s.row table rid ≠ .error .outOfBounds
  unknownTag (e : Error) : s.row table rid = .error e →
    ∃ place ∈ s.columnPlaces table rid, s.HasUnknownTag place e

theorem rowInside (hstop : s.header.stop ≤ s.data.size) {table : Table} {rid : Nat}
    (hlow : 1 ≤ rid) (hhigh : rid ≤ s.rows table) : s.RowInside table rid := by
  have hplace := s.mem_places.2 ⟨hlow, hhigh⟩
  obtain ⟨hstart, hend⟩ := s.tiles_places.within _ (List.mem_map_of_mem hplace)
  have htag (e : Error) (he : s.row table rid = .error e) :
      ∃ place ∈ s.columnPlaces table rid, s.HasUnknownTag place e := by
    rw [row, if_neg (by omega)] at he
    exact s.readColumns_eq_error (Nat.le_trans hend hstop) he
  exact {
    behindHeader := hstart
    inData := Nat.le_trans hend hstop
    columns := s.header.tiles_placed _ _
    values := fun _ ↦ by simp only [row_eq_ok_iff, hlow, hhigh, true_and]
    inBounds := fun he ↦ by
      obtain ⟨_, _, _, _, _, _, _, hblame⟩ := htag _ he
      cases hblame
    unknownTag := htag }

theorem inside_of_read {s : TableStream} (h : read data = .ok s) :
    TableHeader.read data = .ok s.header ∧ s.data = data ∧ s.header.stop ≤ data.size := by
  rw [read] at h
  obtain ⟨header, hheader, h⟩ := Attempt.except_bind_eq_ok_iff.1 h
  split at h
  · cases h
  · next hstop =>
    obtain ⟨major, _, h⟩ := Attempt.except_bind_eq_ok_iff.1 h
    obtain ⟨minor, _, h⟩ := Attempt.except_bind_eq_ok_iff.1 h
    cases h
    exact ⟨hheader, rfl, Nat.le_of_not_lt hstop⟩

/-- The rows of a stream that is read follow its header one by one, and all of them are inside. -/
theorem rows_inside_of_read {s : TableStream} (h : read data = .ok s) :
    s.data = data ∧ s.header.stop ≤ data.size ∧
    (∃ flags valid, data.word 6 1 = .ok flags ∧ data.word 8 8 = .ok valid ∧
      s.header.length = 24 + 4 * (List.range 64).countP valid.testBit
        + if flags.testBit 6 then 4 else 0) ∧
    Tiles s.header.length s.header.stop (s.places.map s.extent) ∧
    (∀ p ∈ s.places, ∀ q ∈ s.places, p ≠ q → (s.extent p).Apart (s.extent q)) ∧
    ∀ table rid, 1 ≤ rid → rid ≤ s.rows table →
      (table, rid) ∈ s.places ∧ s.RowInside table rid := by
  obtain ⟨hheader, rfl, hstop⟩ := inside_of_read h
  refine ⟨rfl, hstop, TableHeader.length_of_read hheader, s.tiles_places, ?_, ?_⟩
  · exact fun p hp q hq ↦ s.apart_of_ne hp hq
  · exact fun table rid hlow hhigh ↦ ⟨s.mem_places.2 ⟨hlow, hhigh⟩, s.rowInside hstop hlow hhigh⟩

def twoInterfaces : Bytes :=
  (List.replicate 4 0 ++ [2, 0, 0, 1] ++ toLittleEndian 8 0x200 ++ toLittleEndian 8 0
    ++ toLittleEndian 4 2 ++ [1, 0, 4, 0] ++ [1, 0, 7, 0]).toArray

theorem read_twoInterfaces : read twoInterfaces
    = .ok ⟨twoInterfaces, { counts := (List.replicate 64 0).set 9 2, length := 28 }, 2, 0⟩ := rfl

theorem rows_inside_of_read_twoInterfaces : ∃ s, read twoInterfaces = .ok s ∧
    s.row .interfaceImpl 1 = .ok [1, 0x02000001] ∧
    s.row .interfaceImpl 2 = .error (.malformed (.codedTag 3 .typeDefOrRef)) ∧
    s.RowInside .interfaceImpl 2 := by
  obtain ⟨_, _, _, _, _, hrows⟩ := rows_inside_of_read read_twoInterfaces
  exact ⟨_, read_twoInterfaces, rfl, rfl, (hrows .interfaceImpl 2 (by decide) (by decide)).2⟩

end TableStream

end CliMetadata
