import CliMetadata.Assembly.Metadata
import CliMetadata.Attempt
import CliMetadata.Proofs.Bytes.Holding
import CliMetadata.Proofs.Text.Encoding

namespace CliMetadata

variable {data : Bytes} {offset : Nat}

def terminated (text : String) : List UInt8 :=
  Utf8.encode text ++ 0 :: List.replicate (3 - (Utf8.encode text).length % 4) 0

namespace StreamHeader

variable {header : StreamHeader}

def bytes (header : StreamHeader) : List UInt8 :=
  toLittleEndian 4 header.offset ++ (toLittleEndian 4 header.size ++ terminated header.name)

structure Fits (size : Nat) (header : StreamHeader) : Prop where
  name : '\x00' ∉ header.name.toList
  length : (Utf8.encode header.name).length ≤ 31
  range : header.offset + header.size ≤ size

theorem length_bytes (header : StreamHeader) :
    header.bytes.length = 8 + ((Utf8.encode header.name).length + 4) / 4 * 4 := by
  simp only [bytes, terminated, List.length_append, length_toLittleEndian, List.length_cons,
    List.length_replicate]
  omega

theorem takeWhile_encode {name : String} (h : '\x00' ∉ name.toList) (rest : List UInt8) :
    (Utf8.encode name ++ 0 :: rest).takeWhile (· != 0) = Utf8.encode name := by
  have hzero := Utf8.zero_not_mem_encode h
  rw [List.takeWhile_append_of_pos]
  · simp
  · intro b hb
    simp only [bne_iff_ne]
    rintro rfl
    exact hzero hb

/-- A name that is short enough ends inside the 32 bytes it is looked for in. -/
theorem exists_field (hlength : (Utf8.encode header.name).length ≤ 31)
    (h : data.Holds 0 header.bytes) :
    ∃ rest, (data.extract 8 40).toList = Utf8.encode header.name ++ 0 :: rest := by
  obtain ⟨front, rest, rfl, hfront⟩ := h
  obtain rfl := List.length_eq_zero_iff.1 hfront
  have hroom : 32 - (Utf8.encode header.name).length
      = 31 - (Utf8.encode header.name).length + 1 := by omega
  have hdrop : ([] ++ (header.bytes ++ rest)).drop 8 = terminated header.name ++ rest := by
    rw [List.nil_append, bytes, List.append_assoc, List.append_assoc, ← List.append_assoc]
    exact List.drop_left' (by simp [length_toLittleEndian])
  rw [Array.toList_extract, List.extract_eq_take_drop, hdrop, terminated, List.append_assoc,
    List.take_append, List.take_of_length_le (by omega), hroom, List.cons_append,
    List.take_succ_cons]
  exact ⟨_, rfl⟩

theorem read_of_holds (hfits : header.Fits offset) (hsize : offset < 1 <<< 32)
    (h : data.Holds 0 header.bytes) : read data = .ok (header, header.bytes.length) := by
  have hrange := hfits.range
  have hle := h.le_size
  obtain ⟨rest, hfield⟩ := exists_field hfits.length h
  have hoffset := h.left.word (by omega)
  have hwidth := h.right.left
  rw [length_toLittleEndian] at hwidth
  have hname : (Utf8.encode header.name).length ≠
      (Utf8.encode header.name ++ 0 :: rest).length := by simp
  simp only [read, hfield, takeWhile_encode hfits.name, hoffset, hwidth.word (by omega), bind,
    Except.bind, pure, Except.pure, Utf8.decodeLossy_encode]
  rw [length_bytes] at hle ⊢
  rw [if_neg (by omega), if_neg hname]

end StreamHeader

namespace MetadataRoot

theorem readStreams_of_holds {streams : List StreamHeader}
    (hfits : ∀ header ∈ streams, header.Fits data.size) (hsize : data.size < 1 <<< 32)
    (h : data.Holds offset (streams.flatMap StreamHeader.bytes)) :
    readStreams data streams.length offset = .ok streams := by
  induction streams generalizing offset with
  | nil => rfl
  | cons header streams ih =>
    obtain ⟨hheader, hothers⟩ := List.forall_mem_cons.1 hfits
    rw [List.flatMap_cons] at h
    have hlength := StreamHeader.length_bytes header
    have hle := h.left.le_size
    have hrange := hheader.range
    have hread := StreamHeader.read_of_holds hheader hsize h.left.after
    rw [List.length_cons, readStreams, if_neg (by omega)]
    simp only [hread, ih hothers h.right, bind, Except.bind, pure, Except.pure]
    rw [if_neg (by omega)]

theorem range_of_readStreams {count : Nat} {streams : List StreamHeader}
    (h : readStreams data count offset = .ok streams) :
    ∀ header ∈ streams, header.offset + header.size ≤ data.size := by
  induction count generalizing offset streams with
  | zero =>
    cases h
    simp
  | succ count ih =>
    rw [readStreams] at h
    split at h
    · cases h
    obtain ⟨⟨header, length⟩, _, h⟩ := Attempt.except_bind_eq_ok_iff.1 h
    dsimp only at h
    split at h
    · cases h
    · next hrange =>
      obtain ⟨headers, hheaders, h⟩ := Attempt.except_bind_eq_ok_iff.1 h
      cases h
      intro other hother
      obtain rfl | hother := List.mem_cons.1 hother
      · omega
      · exact ih hheaders other hother

theorem range_of_read {root : MetadataRoot} (h : read data = .ok root) :
    ∀ header ∈ root.streams, header.offset + header.size ≤ data.size := by
  rw [read] at h
  split at h
  · cases h
  obtain ⟨signature, _, h⟩ := Attempt.except_bind_eq_ok_iff.1 h
  split at h
  · cases h
  obtain ⟨length, _, h⟩ := Attempt.except_bind_eq_ok_iff.1 h
  dsimp only at h
  split at h
  · cases h
  obtain ⟨count, _, h⟩ := Attempt.except_bind_eq_ok_iff.1 h
  split at h
  · cases h
  obtain ⟨streams, hstreams, h⟩ := Attempt.except_bind_eq_ok_iff.1 h
  obtain ⟨major, _, h⟩ := Attempt.except_bind_eq_ok_iff.1 h
  obtain ⟨minor, _, h⟩ := Attempt.except_bind_eq_ok_iff.1 h
  cases h
  exact range_of_readStreams hstreams

theorem withoutPadding_decodeLossy {version : String}
    (h : version.toList.getLast? ≠ some '\x00') (fill : Nat) :
    withoutPadding (Utf8.decodeLossy (Utf8.encode version ++ List.replicate fill 0)) = version := by
  have hzeros : List.replicate fill 0 = Utf8.encode (.ofList (List.replicate fill '\x00')) := by
    rw [Utf8.encode, String.toList_ofList, List.flatMap_replicate]
    exact (List.flatten_replicate_singleton ..).symm
  have hlast : version.toList.reverse.dropWhile (· == '\x00') = version.toList.reverse := by
    rw [← List.head?_reverse] at h
    cases hchars : version.toList.reverse with
    | nil => rfl
    | cons x chars =>
      rw [hchars] at h
      exact List.dropWhile_cons_of_neg (by simpa using h)
  rw [hzeros, ← Utf8.encode_append, Utf8.decodeLossy_encode, withoutPadding, String.toList_append,
    String.toList_ofList, List.reverse_append, List.reverse_replicate,
    List.dropWhile_append_of_pos (by simp), hlast, List.reverse_reverse, String.ofList_toList]

end MetadataRoot

/-- What a metadata block is written from. The version is followed by NULs, if not told otherwise up
to a multiple of four bytes, and the directory by the data of the streams. -/
structure RootImage where
  major : Nat := 1
  minor : Nat := 1
  reserved : Nat := 0
  version : String
  fill : Nat := 4 - (Utf8.encode version).length % 4
  flags : Nat := 0
  streams : List StreamHeader
  body : List UInt8

namespace RootImage

variable {image : RootImage}

def versionBytes (image : RootImage) : List UInt8 :=
  Utf8.encode image.version ++ List.replicate image.fill 0

def bytes (image : RootImage) : List UInt8 :=
  toLittleEndian 4 MetadataRoot.magic ++ (toLittleEndian 2 image.major
    ++ (toLittleEndian 2 image.minor ++ (toLittleEndian 4 image.reserved
      ++ (toLittleEndian 4 image.versionBytes.length ++ (image.versionBytes
        ++ (toLittleEndian 2 image.flags ++ (toLittleEndian 2 image.streams.length
          ++ (image.streams.flatMap StreamHeader.bytes ++ image.body))))))))

structure Fits (image : RootImage) : Prop where
  major : image.major < 1 <<< 16
  minor : image.minor < 1 <<< 16
  version : image.version.toList.getLast? ≠ some '\x00'
  some : image.streams ≠ []
  count : image.streams.length < 1 <<< 16
  streams : ∀ header ∈ image.streams, header.Fits image.bytes.length
  size : image.bytes.length < 1 <<< 32

theorem read_of_holds (hfits : image.Fits) (hsize : data.size < 1 <<< 32)
    (hstreams : ∀ header ∈ image.streams, header.Fits data.size) (h : data.Holds 0 image.bytes) :
    MetadataRoot.read data
      = .ok ⟨image.major, image.minor, image.version, image.streams⟩ := by
  have hversion := h.right.right.right.right.right.left
  have hcounts := h.right.right.right.right.right.right.right
  have hsome : image.streams.length ≠ 0 := by simpa using hfits.some
  have hshort : image.versionBytes.length < 1 <<< (8 * 4) := by
    have hle := hversion.le_size
    omega
  have hmagic := h.left.word (by decide)
  have hmajor := h.right.left.word hfits.major
  have hminor := h.right.right.left.word hfits.minor
  have hlength := h.right.right.right.right.left.word hshort
  have hfield := hversion.toList_extract
  have hcount := hcounts.left.word hfits.count
  have hread := MetadataRoot.readStreams_of_holds hstreams hsize hcounts.right.left
  have hle := hcounts.left.le_size
  simp only [length_toLittleEndian, Nat.zero_add, Nat.reduceAdd, Nat.add_comm 16]
    at hmajor hminor hlength hfield hcount hread hle
  simp only [MetadataRoot.read, hmagic, hmajor, hminor, hlength, hfield, hcount, hread, bind,
    Except.bind, pure, Except.pure]
  rw [if_neg (by omega), if_neg (by simp), if_neg (by omega), if_neg hsome, versionBytes,
    MetadataRoot.withoutPadding_decodeLossy hfits.version]

theorem read_bytes (hfits : image.Fits) : MetadataRoot.read image.bytes.toArray
    = .ok ⟨image.major, image.minor, image.version, image.streams⟩ := by
  have hblock : image.bytes.toArray.size = image.bytes.length := List.size_toArray ..
  apply read_of_holds hfits
  · rw [hblock]
    exact hfits.size
  · rw [hblock]
    exact hfits.streams
  · exact ⟨[], [], by rw [List.nil_append, List.append_nil], rfl⟩

end RootImage

/-- The streams, if each is only taken after a look at the size of the block. -/
def StreamSet.ofHeadersChecked (block : Bytes) (headers : List StreamHeader) :
    Except Error StreamSet :=
  headers.foldlM (fun set h ↦ do set.add h.name (← block.slice h.offset h.size)) {}

/-- Streams that lie inside the block need no such look. -/
theorem StreamSet.ofHeadersChecked_eq {headers : List StreamHeader}
    (h : ∀ header ∈ headers, header.offset + header.size ≤ data.size) :
    ofHeadersChecked data headers = ofHeaders data headers := by
  rw [ofHeadersChecked, ofHeaders]
  generalize ({} : StreamSet) = set
  induction headers generalizing set with
  | nil => rfl
  | cons header headers ih =>
    obtain ⟨hheader, hothers⟩ := List.forall_mem_cons.1 h
    have hslice : data.slice header.offset header.size
        = .ok (data.extract header.offset (header.offset + header.size)) := if_pos hheader
    rw [List.foldlM_cons, List.foldlM_cons, hslice]
    exact bind_congr (ih hothers)

/-- Of a block that is read, the streams lie inside it and are taken as they are. Of a block that is
laid out from an image, the version and the streams of the image are read. -/
theorem MetadataRoot.streams_inside_and_found :
    (∀ data root, MetadataRoot.read data = .ok root →
      (∀ header ∈ root.streams, header.offset + header.size ≤ data.size) ∧
        StreamSet.ofHeadersChecked data root.streams = StreamSet.ofHeaders data root.streams) ∧
    ∀ image : RootImage, image.Fits → MetadataRoot.read image.bytes.toArray
      = .ok ⟨image.major, image.minor, image.version, image.streams⟩ := by
  refine ⟨fun data root h ↦ ?_, fun image hfits ↦ RootImage.read_bytes hfits⟩
  have hranges := MetadataRoot.range_of_read h
  exact ⟨hranges, StreamSet.ofHeadersChecked_eq hranges⟩

def RootImage.small : RootImage where
  version := "v4.0.30319"
  streams := [⟨0x40, 4, "#~"⟩, ⟨0x44, 8, "#Strings"⟩]
  body := List.replicate 12 0

theorem RootImage.small_fits : small.Fits where
  major := by decide
  minor := by decide
  version := by decide
  some := by decide
  count := by decide
  streams := by
    have hlength : small.bytes.length = 0x4C := by decide +kernel
    rw [hlength]
    intro header hheader
    simp only [small, List.mem_cons, List.not_mem_nil, or_false] at hheader
    obtain rfl | rfl := hheader
    · exact ⟨by decide, by decide, by decide⟩
    · exact ⟨by decide, by decide, by decide⟩
  size := by decide +kernel

theorem MetadataRoot.streams_inside_and_found_small :
    (MetadataRoot.read RootImage.small.bytes.toArray).map (·.streams)
        = .ok [⟨0x40, 4, "#~"⟩, ⟨0x44, 8, "#Strings"⟩] ∧
      0x44 + 8 ≤ RootImage.small.bytes.toArray.size := by
  obtain ⟨hinside, hfound⟩ := streams_inside_and_found
  have hread := hfound RootImage.small RootImage.small_fits
  exact ⟨by rw [hread]; rfl, (hinside _ _ hread).1 ⟨0x44, 8, "#Strings"⟩ (by decide)⟩

end CliMetadata
