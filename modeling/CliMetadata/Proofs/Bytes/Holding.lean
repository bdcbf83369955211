import CliMetadata.Bytes.Word
import Mathlib.Data.List.Basic

namespace CliMetadata

variable {α : Type}

/-- Bytes that stand at an offset. -/
def Bytes.Holds (data : Bytes) (offset : Nat) (bytes : List UInt8) : Prop :=
  ∃ front rest, data = (front ++ (bytes ++ rest)).toArray ∧ front.length = offset

theorem Bytes.after_eq_drop (data : Bytes) (offset : Nat) :
    data.after offset = (data.toList.drop offset).toArray := by
  apply Array.toList_inj.1
  rw [Bytes.after, Array.toList_extract, List.extract_eq_take_drop]
  exact List.take_of_length_le (by simp)

namespace Bytes.Holds

variable {data : Bytes} {offset : Nat} {first second : List UInt8}

/-- What stands at an offset is what the rest of the byte string starts with. -/
theorem iff_isPrefix : data.Holds offset first ↔
    offset ≤ data.size ∧ first <+: data.toList.drop offset := by
  constructor
  · rintro ⟨front, rest, rfl, rfl⟩
    refine ⟨by simp, rest, ?_⟩
    rw [List.toList_toArray, List.drop_left]
  · rintro ⟨hoffset, rest, hrest⟩
    refine ⟨data.toList.take offset, rest, Array.toList_inj.1 ?_, ?_⟩
    · rw [hrest, List.toList_toArray, List.take_append_drop]
    · rw [List.length_take, Array.length_toList, Nat.min_eq_left hoffset]

theorem left (h : data.Holds offset (first ++ second)) : data.Holds offset first := by
  obtain ⟨front, rest, rfl, hlen⟩ := h
  exact ⟨front, second ++ rest, by rw [List.append_assoc], hlen⟩

theorem right (h : data.Holds offset (first ++ second)) :
    data.Holds (offset + first.length) second := by
  obtain ⟨front, rest, rfl, hlen⟩ := h
  refine ⟨front ++ first, rest, ?_, ?_⟩
  · rw [List.append_assoc, List.append_assoc]
  · rw [List.length_append, hlen]

theorem append (h : data.Holds offset first) (hsecond : data.Holds (offset + first.length) second) :
    data.Holds offset (first ++ second) := by
  obtain ⟨hoffset, rest, hrest⟩ := iff_isPrefix.1 h
  refine iff_isPrefix.2 ⟨hoffset, ?_⟩
  have hprefix := (iff_isPrefix.1 hsecond).2
  rw [← List.drop_drop, ← hrest, List.drop_left] at hprefix
  rw [← hrest]
  exact (List.prefix_append_right_inj first).2 hprefix

theorem le_size (h : data.Holds offset first) : offset + first.length ≤ data.size := by
  obtain ⟨front, rest, rfl, rfl⟩ := h
  simp only [List.size_toArray, List.length_append]
  omega

theorem part {f : α → List UInt8} {as : List α} {i : Nat} {a : α}
    (h : data.Holds offset (as.flatMap f)) (ha : as[i]? = some a) :
    data.Holds (offset + ((as.take i).flatMap f).length) (f a) := by
  obtain ⟨hi, rfl⟩ := List.getElem?_eq_some_iff.1 ha
  have hsplit : as = as.take i ++ as[i] :: as.drop (i + 1) := by
    rw [← List.drop_eq_getElem_cons hi, List.take_append_drop]
  have hbytes : as.flatMap f
      = (as.take i).flatMap f ++ (f as[i] ++ (as.drop (i + 1)).flatMap f) := by
    conv => lhs; rw [hsplit]
    rw [List.flatMap_append, List.flatMap_cons]
  rw [hbytes] at h
  exact h.right.left

theorem toList_extract (h : data.Holds offset first) :
    (data.extract offset (offset + first.length)).toList = first := by
  obtain ⟨front, rest, rfl, rfl⟩ := h
  simp

theorem extract {length : Nat} (h : offset + length ≤ data.size) :
    data.Holds offset (data.extract offset (offset + length)).toList := by
  rw [iff_isPrefix, Array.toList_extract, List.extract_eq_take_drop]
  exact ⟨by omega, List.take_prefix _ _⟩

theorem exists_behind {length : Nat} (h : data.Holds 0 first)
    (hsize : first.length + length ≤ data.size) :
    ∃ behind rest, data = (first ++ (behind ++ rest)).toArray ∧ behind.length = length := by
  obtain ⟨front, rest, rfl, hfront⟩ := h
  obtain rfl := List.length_eq_zero_iff.1 hfront
  refine ⟨rest.take length, rest.drop length, ?_, ?_⟩
  · rw [List.take_append_drop, List.nil_append]
  · rw [List.nil_append, List.size_toArray, List.length_append] at hsize
    rw [List.length_take, Nat.min_eq_left (by omega)]

theorem slice (h : data.Holds offset first) :
    data.slice offset first.length = .ok first.toArray := by
  rw [Bytes.slice, if_pos h.le_size]
  exact congrArg Except.ok (Array.toList_inj.1 h.toList_extract)

theorem word {width n : Nat} (h : data.Holds offset (toLittleEndian width n))
    (hn : n < 1 <<< (8 * width)) : data.word offset width = .ok n := by
  have hslice := h.slice
  rw [length_toLittleEndian] at hslice
  rw [Bytes.word, hslice, Except.map, List.toList_toArray, littleEndian_toLittleEndian,
    Nat.mod_eq_of_lt hn]

theorem of_word {width n : Nat} (h : data.word offset width = .ok n) :
    data.Holds offset (toLittleEndian width n) ∧ n < 1 <<< (8 * width) := by
  rw [Bytes.word, Bytes.slice] at h
  split at h
  · next hle =>
    cases h
    have hlength : (data.extract offset (offset + width)).toList.length = width := by
      rw [Array.length_toList, Array.size_extract]
      omega
    have hbytes := toLittleEndian_littleEndian (data.extract offset (offset + width)).toList
    have hlt := littleEndian_lt (data.extract offset (offset + width)).toList
    rw [hlength] at hbytes hlt
    exact ⟨hbytes ▸ extract hle, hlt⟩
  · cases h

theorem singleton_iff {b : UInt8} : data.Holds offset [b] ↔ data[offset]? = some b := by
  rw [iff_isPrefix, ← Array.getElem?_toList]
  constructor
  · rintro ⟨_, rest, hrest⟩
    rw [← List.head?_drop, ← hrest]
    rfl
  · intro h
    obtain ⟨hlt, rfl⟩ := List.getElem?_eq_some_iff.1 h
    rw [List.drop_eq_getElem_cons hlt]
    exact ⟨Nat.le_of_lt (by simpa using hlt), _, rfl⟩

theorem byte {b : UInt8} (h : data.Holds offset [b]) : data.word offset 1 = .ok b.toNat := by
  have hbytes : [b] = toLittleEndian 1 b.toNat := by
    rw [toLittleEndian, toLittleEndian, UInt8.ofNat_toNat]
  rw [hbytes] at h
  exact h.word b.toNat_lt

theorem mono {grown : Bytes} (h : data.Holds offset first)
    (hgrown : data.toList <+: grown.toList) : grown.Holds offset first := by
  obtain ⟨front, rest, rfl, hlen⟩ := h
  obtain ⟨more, hmore⟩ := hgrown
  refine ⟨front, rest ++ more, Array.toList_inj.1 ?_, hlen⟩
  rw [← hmore]
  simp

theorem after (h : data.Holds offset first) : (data.after offset).Holds 0 first := by
  obtain ⟨front, rest, rfl, rfl⟩ := h
  refine ⟨[], rest, ?_, rfl⟩
  rw [after_eq_drop, List.drop_left, List.nil_append]

end Bytes.Holds

end CliMetadata
