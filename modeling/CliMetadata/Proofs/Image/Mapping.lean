import CliMetadata.Proofs.Loading.Fidelity

namespace CliMetadata

namespace Section

variable {sections : List Section} {s : Section} {address offset : Nat}

def extent (s : Section) : Nat := max s.virtualSize s.rawSize

def Spans (s : Section) (address : Nat) : Prop :=
  s.virtualAddress ≤ address ∧ address < s.virtualAddress + s.extent

/-- The addresses of the section are of 32 bits. -/
def Fits (s : Section) : Prop := s.virtualAddress + s.extent < 0x100000000

/-- The section has the byte at an offset in the file. -/
def Stores (s : Section) (offset : Nat) : Prop :=
  s.rawPointer ≤ offset ∧ offset < s.rawPointer + s.rawSize

instance (s : Section) (address : Nat) : Decidable (s.Spans address) :=
  inferInstanceAs (Decidable (_ ∧ _))

instance (s : Section) : Decidable s.Fits := inferInstanceAs (Decidable (_ < _))

instance (s : Section) (offset : Nat) : Decidable (s.Stores offset) :=
  inferInstanceAs (Decidable (_ ∧ _))

/-- As far behind the start of the section's bytes as an address is behind its first one. -/
def place (s : Section) (address : Nat) : Nat := s.rawPointer + (address - s.virtualAddress)

/-- A section is the first in a list to span an address, and it and all in front of it fit. -/
def Maps (sections : List Section) (address : Nat) (s : Section) : Prop :=
  ∃ front behind, sections = front ++ s :: behind ∧
    (∀ t ∈ front, t.Fits ∧ ¬ t.Spans address) ∧ s.Fits ∧ s.Spans address

theorem Maps.spans (h : Maps sections address s) : s.Spans address := by
  obtain ⟨_, _, _, _, _, hspans⟩ := h
  exact hspans

theorem maps_cons_iff {first : Section} : Maps (first :: sections) address s ↔
    first.Fits ∧ (first.Spans address ∧ s = first ∨
      ¬ first.Spans address ∧ Maps sections address s) := by
  constructor
  · rintro ⟨front, behind, hsplit, hfront, hfits, hspans⟩
    cases front with
    | nil =>
      cases hsplit
      exact ⟨hfits, .inl ⟨hspans, rfl⟩⟩
    | cons _ front =>
      cases hsplit
      obtain ⟨hfirst, hfront⟩ := List.forall_mem_cons.1 hfront
      exact ⟨hfirst.1, .inr ⟨hfirst.2, front, behind, rfl, hfront, hfits, hspans⟩⟩
  · rintro ⟨hfirst, ⟨hspans, rfl⟩ | ⟨hpassed, front, behind, rfl, hfront, hfits, hspans⟩⟩
    · exact ⟨[], sections, rfl, by simp, hfirst, hspans⟩
    · exact ⟨first :: front, behind, rfl, List.forall_mem_cons.2 ⟨⟨hfirst, hpassed⟩, hfront⟩,
        hfits, hspans⟩

theorem offsetOf_cons (s : Section) (sections : List Section) (address : Nat) :
    offsetOf (s :: sections) address =
      if s.Fits then
        if s.Spans address then .ok (s.place address) else offsetOf sections address
      else .error (.malformed (.sectionOverflow s.virtualAddress s.extent)) := by
  have hfits : ¬ 0x100000000 ≤ s.virtualAddress + s.extent ↔ s.Fits := Nat.not_le
  rw [place, Nat.add_comm s.rawPointer, ← if_congr hfits rfl rfl, ite_not]
  rfl

theorem offsetOf_eq_ok_iff :
    offsetOf sections address = .ok offset ↔
      ∃ s, Maps sections address s ∧ offset = s.place address := by
  induction sections with
  | nil => simp [offsetOf, Maps]
  | cons s sections ih =>
    rw [offsetOf_cons]
    simp only [maps_cons_iff]
    by_cases hfits : s.Fits
    · by_cases hspans : s.Spans address
      · simp [hfits, hspans, eq_comm]
      · simp [hfits, hspans, ih]
    · simp [hfits]

/-- A place is in the bytes of the section while they last. -/
theorem stores_place_iff (h : s.Spans address) :
    s.Stores (s.place address) ↔ address < s.virtualAddress + s.rawSize := by
  obtain ⟨hstart, _⟩ := h
  unfold Stores place
  omega

theorem stores_place_of_le (h : s.Spans address) (hsize : s.virtualSize ≤ s.rawSize) :
    s.Stores (s.place address) := by
  obtain ⟨_, hstop⟩ := id h
  rw [extent, Nat.max_eq_right hsize] at hstop
  exact (stores_place_iff h).2 hstop

end Section

namespace Image

/-- An offset is found for an address where a section maps it. It is not in front of the bytes of
that section, and in them if the address is within the raw size of the section, as all of its
addresses are unless its virtual size is larger. -/
theorem offset_within_section (image : Image) (address : Nat) :
    (∀ offset, image.offsetOf address = .ok offset ↔ address < 0x100000000 ∧
      ∃ s, Section.Maps image.sections address s ∧ offset = s.place address) ∧
    ∀ s, Section.Maps image.sections address s →
      s.rawPointer ≤ s.place address ∧
      (s.Stores (s.place address) ↔ address < s.virtualAddress + s.rawSize) ∧
      (s.virtualSize ≤ s.rawSize → s.Stores (s.place address)) := by
  refine ⟨fun offset ↦ ?_, fun s hs ↦ ⟨Nat.le_add_right _ _, Section.stores_place_iff hs.spans,
    Section.stores_place_of_le hs.spans⟩⟩
  rw [offsetOf]
  split
  · next hlarge =>
    constructor
    · rintro ⟨⟩
    · rintro ⟨hsmall, _⟩
      omega
  · next hsmall => rw [Section.offsetOf_eq_ok_iff, and_iff_right (Nat.not_le.1 hsmall)]

def stretchedSection : Section :=
  { virtualSize := 0x10E1, virtualAddress := 0x2000, rawSize := 0x200, rawPointer := 0x200 }

def stretched : Bytes := (fieldsFrom 3).setIfInBounds 0x181 0x10

theorem exists_read_stretched :
    ∃ image, read stretched = .ok image ∧ image.sections = [stretchedSection] := by
  decide +kernel

theorem stretchedSection_maps {address : Nat} (h : stretchedSection.Spans address) :
    Section.Maps [stretchedSection] address stretchedSection :=
  ⟨[], [], rfl, by simp, by decide, h⟩

theorem offset_within_section_stretched :
    ∃ image, read stretched = .ok image ∧ image.offsetOf 0x21FF = .ok 0x3FF ∧
      stretchedSection.Stores 0x3FF ∧ image.offsetOf 0x2200 = .ok 0x400 ∧
      ¬ stretchedSection.Stores 0x400 := by
  obtain ⟨image, hread, hsections⟩ := exists_read_stretched
  obtain ⟨hlast, hinside⟩ := offset_within_section image 0x21FF
  obtain ⟨hbehind, houtside⟩ := offset_within_section image 0x2200
  rw [hsections] at hlast hinside hbehind houtside
  have hlastMaps := stretchedSection_maps (show stretchedSection.Spans 0x21FF by decide)
  have hbehindMaps := stretchedSection_maps (show stretchedSection.Spans 0x2200 by decide)
  refine ⟨image, hread, (hlast _).2 ⟨by decide, _, hlastMaps, rfl⟩,
    (hinside _ hlastMaps).2.1.2 (by decide), (hbehind _).2 ⟨by decide, _, hbehindMaps, rfl⟩,
    fun hstores ↦ ?_⟩
  exact absurd ((houtside _ hbehindMaps).2.1.1 hstores) (by decide)

/-- An offset is found that no section of the file has. -/
theorem exists_offset_unstored :
    ∃ image, read stretched = .ok image ∧ image.offsetOf 0x2200 = .ok 0x400 ∧
      ∀ s ∈ image.sections, ¬ s.Stores 0x400 := by
  obtain ⟨image, hread, hsections⟩ := exists_read_stretched
  refine ⟨image, hread, ?_, ?_⟩
  · rw [offsetOf, hsections]
    rfl
  · rw [hsections]
    decide

end Image

end CliMetadata
