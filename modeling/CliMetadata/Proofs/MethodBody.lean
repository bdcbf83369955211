import CliMetadata.Attempt
import CliMetadata.MethodBody
import CliMetadata.Proofs.Bytes.Holding

namespace CliMetadata

/-- The fields of a header of three to fifteen dwords. The two low bits of its flags are its format,
and `more` is what a header of more than three dwords has behind its fields. -/
structure FatHeader where
  dwords : Nat
  flags : Nat
  maxStack : Nat
  locals : Nat
  more : List UInt8 := []
  dwords_le : dwords ≤ 15
  flags_lt : flags < 0x1000
  maxStack_lt : maxStack < 0x10000
  locals_lt : locals < 0x100000000
  format : flags % 4 = 3
  length_more : 12 + more.length = dwords * 4

inductive MethodHeader where
  | tiny
  | fat (header : FatHeader)

namespace MethodHeader

/-- The least size of code that a header has no room for. -/
def codeLimit : MethodHeader → Nat
  | .tiny => 0x40
  | .fat _ => 0x100000000

def bytes : MethodHeader → Nat → List UInt8
  | .tiny, codeSize => [.ofNat (codeSize * 4 + 2)]
  | .fat header, codeSize =>
    toLittleEndian 2 (header.dwords * 0x1000 + header.flags)
      ++ (toLittleEndian 2 header.maxStack ++ (toLittleEndian 4 codeSize
        ++ (toLittleEndian 4 header.locals ++ header.more)))

def body : MethodHeader → Nat → MethodBody
  | .tiny, codeSize =>
    { codeSize, headerSize := 1, locals := 0, maxStack := 8, isFat := false
      initLocals := false, hasSections := false }
  | .fat header, codeSize =>
    { codeSize, headerSize := header.dwords * 4, locals := header.locals
      maxStack := header.maxStack, isFat := true
      initLocals := header.flags.testBit 4, hasSections := header.flags.testBit 3 }

theorem codeSize_body (header : MethodHeader) (codeSize : Nat) :
    (header.body codeSize).codeSize = codeSize := by
  cases header <;> rfl

theorem length_bytes (header : MethodHeader) (codeSize : Nat) :
    (header.bytes codeSize).length = (header.body codeSize).headerSize := by
  cases header with
  | tiny => rfl
  | fat header =>
    have hmore := header.length_more
    simp only [bytes, body, List.length_append, length_toLittleEndian]
    omega

/-- A body in some data, whose code follows a header at the start. -/
structure Heads (header : MethodHeader) (data : Bytes) (body : MethodBody) : Prop where
  codeSize_lt : body.codeSize < header.codeLimit
  holds : data.Holds 0 (header.bytes body.codeSize)
  body_eq : body = header.body body.codeSize
  size_le : body.size ≤ data.size

end MethodHeader

namespace MethodBody

variable {data : Bytes} {body : MethodBody}

theorem read_eq_ok_iff : read data = .ok body ↔ ∃ lead, data[0]? = some lead ∧
    (lead.toNat % 4 = 2 ∧ readTiny lead.toNat data = .ok body ∨
      lead.toNat % 4 = 3 ∧ readFat data = .ok body) := by
  rw [read]
  cases data[0]? with
  | none => simp
  | some lead =>
    dsimp only
    split
    · next hformat => simp [hformat]
    · next hformat => simp [hformat]
    · next htiny hfat =>
      constructor
      · rintro ⟨⟩
      · rintro ⟨_, ⟨⟩, ⟨hformat, _⟩ | ⟨hformat, _⟩⟩
        · exact absurd hformat htiny
        · exact absurd hformat hfat

theorem readTiny_eq_ok_iff {lead : Nat} : readTiny lead data = .ok body ↔
    lead / 4 + 1 ≤ data.size ∧ body = MethodHeader.tiny.body (lead / 4) := by
  rw [readTiny]
  dsimp only
  split
  · next hshort =>
    constructor
    · rintro ⟨⟩
    · rintro ⟨hsize, _⟩
      omega
  · next hsize =>
    constructor
    · rintro ⟨⟩
      exact ⟨by omega, rfl⟩
    · rintro ⟨_, rfl⟩
      rfl

theorem readFat_eq_ok_iff : readFat data = .ok body ↔ 12 ≤ data.size ∧
    ∃ flags maxStack codeSize locals, data.word 0 2 = .ok flags ∧ data.word 2 2 = .ok maxStack ∧
      data.word 4 4 = .ok codeSize ∧ data.word 8 4 = .ok locals ∧ 3 ≤ flags / 0x1000 ∧
      codeSize + flags / 0x1000 * 4 ≤ data.size ∧
      body = ⟨codeSize, flags / 0x1000 * 4, locals, maxStack, true, flags.testBit 4,
        flags.testBit 3⟩ := by
  rw [readFat]
  split
  · next hshort =>
    constructor
    · rintro ⟨⟩
    · rintro ⟨hsize, _⟩
      omega
  · next hsize =>
    constructor
    · intro h
      obtain ⟨flags, hflags, h⟩ := Attempt.except_bind_eq_ok_iff.1 h
      dsimp only at h
      split at h
      · cases h
      obtain ⟨codeSize, hcode, h⟩ := Attempt.except_bind_eq_ok_iff.1 h
      split at h
      · cases h
      obtain ⟨locals, hlocals, h⟩ := Attempt.except_bind_eq_ok_iff.1 h
      obtain ⟨maxStack, hstack, h⟩ := Attempt.except_bind_eq_ok_iff.1 h
      cases h
      exact ⟨by omega, flags, maxStack, codeSize, locals, hflags, hstack, hcode, hlocals, by omega,
        by omega, rfl⟩
    · rintro ⟨_, flags, maxStack, codeSize, locals, hflags, hstack, hcode, hlocals, hdwords, hroom,
        rfl⟩
      simp only [hflags, hstack, hcode, hlocals, bind, Except.bind, pure, Except.pure]
      rw [if_neg (by omega), if_neg (by omega)]

theorem testBit_mod_flags {i : Nat} (hi : i < 12) (n : Nat) :
    (n % 0x1000).testBit i = n.testBit i := by
  have hmod := Nat.testBit_mod_two_pow n 12 i
  rwa [decide_eq_true hi, Bool.true_and] at hmod

theorem getElem?_of_holds {width n : Nat} (h : data.Holds 0 (toLittleEndian (width + 1) n)) :
    data[0]? = some (.ofNat n) := by
  have hbytes : data.Holds 0 ([.ofNat n] ++ toLittleEndian width (n / 256)) := h
  exact Bytes.Holds.singleton_iff.1 hbytes.left

theorem exists_header_of_readTiny {lead : UInt8} (hlead : data[0]? = some lead)
    (hformat : lead.toNat % 4 = 2) (h : readTiny lead.toNat data = .ok body) :
    ∃ header : MethodHeader, header.Heads data body := by
  obtain ⟨hsize, rfl⟩ := readTiny_eq_ok_iff.1 h
  have hlt := lead.toNat_lt
  have hbyte : UInt8.ofNat (lead.toNat / 4 * 4 + 2) = lead := by
    rw [← UInt8.toNat_inj, UInt8.toNat_ofNat']
    omega
  refine ⟨.tiny, ?_, ?_, rfl, hsize⟩
  · change lead.toNat / 4 < 0x40
    omega
  · change data.Holds 0 [.ofNat (lead.toNat / 4 * 4 + 2)]
    rw [hbyte]
    exact Bytes.Holds.singleton_iff.2 hlead

theorem exists_header_of_readFat {lead : UInt8} (hlead : data[0]? = some lead)
    (hformat : lead.toNat % 4 = 3) (h : readFat data = .ok body) :
    ∃ header : MethodHeader, header.Heads data body := by
  obtain ⟨hsize, flags, maxStack, codeSize, locals, hflags, hstack, hcode, hlocals, hdwords, hroom,
    rfl⟩ := readFat_eq_ok_iff.1 h
  obtain ⟨hflags, hflagsLt⟩ := Bytes.Holds.of_word hflags
  obtain ⟨hstack, hstackLt⟩ := Bytes.Holds.of_word hstack
  obtain ⟨hcode, hcodeLt⟩ := Bytes.Holds.of_word hcode
  obtain ⟨hlocals, hlocalsLt⟩ := Bytes.Holds.of_word hlocals
  simp only [Nat.reduceMul, Nat.reduceShiftLeft] at hflagsLt hstackLt hcodeLt hlocalsLt
  have hmore : data.Holds 12 (data.extract 12 (12 + (flags / 0x1000 * 4 - 12))).toList :=
    .extract (by omega)
  obtain rfl := Option.some.inj (hlead.symm.trans (getElem?_of_holds hflags))
  rw [UInt8.toNat_ofNat'] at hformat
  have hword : flags / 0x1000 * 0x1000 + flags % 0x1000 = flags := Nat.div_add_mod' flags 0x1000
  let header : FatHeader :=
    { dwords := flags / 0x1000
      flags := flags % 0x1000
      maxStack, locals
      more := (data.extract 12 (12 + (flags / 0x1000 * 4 - 12))).toList
      dwords_le := by omega
      flags_lt := Nat.mod_lt flags (by decide)
      maxStack_lt := hstackLt
      locals_lt := hlocalsLt
      format := by omega
      length_more := by
        rw [Array.length_toList, Array.size_extract]
        omega }
  refine ⟨.fat header, ?_, ?_, ?_, hroom⟩
  · rw [MethodHeader.codeLimit]
    exact hcodeLt
  · simp only [MethodHeader.bytes, header, hword]
    exact hflags.append (hstack.append (hcode.append (hlocals.append hmore)))
  · rw [MethodHeader.body]
    simp only [header, testBit_mod_flags (show 4 < 12 by decide),
      testBit_mod_flags (show 3 < 12 by decide)]

/-- A body that is read starts with a header of its code. -/
theorem exists_header_of_read (h : read data = .ok body) :
    ∃ header : MethodHeader, header.Heads data body := by
  obtain ⟨lead, hlead, ⟨hformat, h⟩ | ⟨hformat, h⟩⟩ := read_eq_ok_iff.1 h
  · exact exists_header_of_readTiny hlead hformat h
  · exact exists_header_of_readFat hlead hformat h

theorem read_of_holds_tiny {code : List UInt8} (hlength : code.length < 0x40)
    (h : data.Holds 0 (MethodHeader.tiny.bytes code.length ++ code)) :
    read data = .ok (MethodHeader.tiny.body code.length) := by
  have hsize := h.le_size
  simp only [List.length_append, MethodHeader.length_bytes, MethodHeader.body] at hsize
  have hlead : (UInt8.ofNat (code.length * 4 + 2)).toNat = code.length * 4 + 2 :=
    UInt8.toNat_ofNat_of_lt' (show _ < 256 by omega)
  have hdiv : (code.length * 4 + 2) / 4 = code.length := by omega
  refine read_eq_ok_iff.2 ⟨_, Bytes.Holds.singleton_iff.1 h.left, .inl ⟨by omega, ?_⟩⟩
  rw [hlead, readTiny_eq_ok_iff, hdiv]
  exact ⟨by omega, rfl⟩

theorem read_of_holds_fat {header : FatHeader} {code : List UInt8}
    (hlength : code.length < 0x100000000)
    (h : data.Holds 0 ((MethodHeader.fat header).bytes code.length ++ code)) :
    read data = .ok ((MethodHeader.fat header).body code.length) := by
  have hsize := h.le_size
  simp only [List.length_append, MethodHeader.length_bytes, MethodHeader.body] at hsize
  have hdwords := header.dwords_le
  have hflags := header.flags_lt
  have hformat := header.format
  have hmore := header.length_more
  have hdiv : (header.dwords * 0x1000 + header.flags) / 0x1000 = header.dwords := by omega
  have hmod : (header.dwords * 0x1000 + header.flags) % 0x1000 = header.flags := by omega
  have hlead : (UInt8.ofNat (header.dwords * 0x1000 + header.flags)).toNat % 4 = 3 := by
    rw [UInt8.toNat_ofNat']
    omega
  have hfields := h.left
  have hword := hfields.left.word (show _ < 0x10000 by omega)
  have hstack := hfields.right.left.word header.maxStack_lt
  have hcode := hfields.right.right.left.word hlength
  have hlocals := hfields.right.right.right.left.word header.locals_lt
  simp only [length_toLittleEndian, Nat.reduceAdd] at hstack hcode hlocals
  refine read_eq_ok_iff.2 ⟨_, getElem?_of_holds hfields.left, .inr ⟨hlead, ?_⟩⟩
  refine readFat_eq_ok_iff.2 ⟨by omega, _, _, _, _, hword, hstack, hcode, hlocals, by omega,
    by omega, ?_⟩
  rw [MethodHeader.body, hdiv]
  simp only [← testBit_mod_flags (show 4 < 12 by decide) (header.dwords * 0x1000 + header.flags),
    ← testBit_mod_flags (show 3 < 12 by decide) (header.dwords * 0x1000 + header.flags), hmod]

/-- A byte string that starts with a header and its code is read as they say. -/
theorem read_of_holds {header : MethodHeader} {code : List UInt8}
    (hlength : code.length < header.codeLimit)
    (h : data.Holds 0 (header.bytes code.length ++ code)) :
    read data = .ok (header.body code.length) := by
  cases header with
  | tiny => exact read_of_holds_tiny hlength h
  | fat header =>
    rw [MethodHeader.codeLimit] at hlength
    exact read_of_holds_fat hlength h

theorem code_of_holds {header : MethodHeader} {code : List UInt8}
    (h : data.Holds 0 (header.bytes code.length ++ code)) :
    (header.body code.length).code data = .ok code.toArray := by
  have hslice := h.right.slice
  rw [Nat.zero_add, header.length_bytes] at hslice
  rw [MethodBody.code, header.codeSize_body, hslice]

/-- A body that is read lies inside the data: a header, and behind it the code, which is found. Of
every header with code behind it that its size has room for, the fields are read and the code is
found, whatever follows. -/
theorem code_behind_header :
    (∀ data body, read data = .ok body → body.size ≤ data.size ∧
      ∃ (header : MethodHeader) (code rest : List UInt8), code.length < header.codeLimit ∧
        data = (header.bytes code.length ++ (code ++ rest)).toArray ∧
        (header.bytes code.length).length = body.headerSize ∧ code.length = body.codeSize ∧
        body = header.body code.length ∧ body.code data = .ok code.toArray) ∧
    ∀ (header : MethodHeader) (code rest : List UInt8), code.length < header.codeLimit →
      read (header.bytes code.length ++ (code ++ rest)).toArray
          = .ok (header.body code.length) ∧
        (header.body code.length).code (header.bytes code.length ++ (code ++ rest)).toArray
          = .ok code.toArray := by
  have hwritten (header : MethodHeader) (code rest : List UInt8) :
      Bytes.Holds (header.bytes code.length ++ (code ++ rest)).toArray 0
        (header.bytes code.length ++ code) :=
    ⟨[], rest, by rw [List.nil_append, List.append_assoc], rfl⟩
  constructor
  · intro data body h
    obtain ⟨header, hlimit, hbytes, hbody, hsize⟩ := exists_header_of_read h
    have hheader : (header.bytes body.codeSize).length = body.headerSize := by
      rw [header.length_bytes, ← hbody]
    have hroom : (header.bytes body.codeSize).length + body.codeSize ≤ data.size := by
      rw [hheader, Nat.add_comm]
      exact hsize
    obtain ⟨code, rest, rfl, hlength⟩ := hbytes.exists_behind hroom
    have hcode := code_of_holds (hwritten header code rest)
    rw [hlength, ← hbody] at hcode
    exact ⟨hsize, header, code, rest, hlength ▸ hlimit, by rw [hlength], by rw [hlength, hheader],
      hlength, by rw [hlength, ← hbody], hcode⟩
  · intro header code rest hlength
    have hholds := hwritten header code rest
    exact ⟨read_of_holds hlength hholds, code_of_holds hholds⟩

end MethodBody

def FatHeader.withSections : FatHeader where
  dwords := 4
  flags := 0x1B
  maxStack := 5
  locals := 0x11000059
  more := [1, 2, 3, 4]
  dwords_le := by decide
  flags_lt := by decide
  maxStack_lt := by decide
  locals_lt := by decide
  format := by decide
  length_more := by decide

theorem MethodBody.code_behind_header_withSections :
    ∃ data body, data = #[0x1B, 0x40, 5, 0, 3, 0, 0, 0, 0x59, 0, 0, 0x11, 1, 2, 3, 4,
        0, 0, 0x2A, 0xFF] ∧ read data = .ok body ∧
      body = ⟨3, 16, 0x11000059, 5, true, true, true⟩ ∧ body.code data = .ok #[0, 0, 0x2A] ∧
      body.size ≤ data.size := by
  obtain ⟨hinside, hwritten⟩ := code_behind_header
  obtain ⟨hread, hcode⟩ := hwritten (.fat .withSections) [0, 0, 0x2A] [0xFF] (by decide)
  exact ⟨_, _, rfl, hread, rfl, hcode, (hinside _ _ hread).1⟩

end CliMetadata
