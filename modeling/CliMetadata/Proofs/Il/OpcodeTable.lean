import CliMetadata.Il.OpcodeTable

namespace CliMetadata.Opcode

structure IsEntry (mark code : UInt8) (opcode : Opcode) : Prop where
  mark_eq : mark = 0 ∨ mark = pageMark
  code_ne : mark = 0 → code ≠ pageMark
  entry : (page mark)[code.toNat]? = some (some opcode)

def codeBytes (mark code : UInt8) : List UInt8 := if mark = 0 then [code] else [mark, code]

theorem pageMark_ne_zero : pageMark ≠ 0 := by decide

def mnemonicsDiffer (x y : Option Opcode) : Prop :=
  ∀ a, x = some a → ∀ b, y = some b → a.mnemonic ≠ b.mnemonic

set_option maxRecDepth 4000 in
theorem pairwise_mnemonicsDiffer : (firstPage ++ secondPage).Pairwise mnemonicsDiffer := by
  have h : ((firstPage ++ secondPage).filterMap id).Pairwise fun a b ↦ a.mnemonic ≠ b.mnemonic := by
    decide +kernel
  exact List.pairwise_filterMap.1 h

theorem length_firstPage : firstPage.length = 0xE1 := by decide +kernel

theorem length_secondPage : secondPage.length = 0x1F := by decide +kernel

variable {mnemonic : String} {entries : List (Option Opcode)} {code start : Nat} {opcode : Opcode}

theorem position?_eq_some (h : position? mnemonic entries start = some (code, opcode)) :
    start ≤ code ∧ entries[code - start]? = some (some opcode) ∧ opcode.mnemonic = mnemonic := by
  induction entries generalizing start with
  | nil => cases h
  | cons entry entries ih =>
    have hlater (h : position? mnemonic entries (start + 1) = some (code, opcode)) :
        start ≤ code ∧ (entry :: entries)[code - start]? = some (some opcode) ∧
          opcode.mnemonic = mnemonic := by
      obtain ⟨hle, hget, hm⟩ := ih h
      have hsucc : code - start = code - (start + 1) + 1 := by omega
      exact ⟨by omega, by rw [hsucc, List.getElem?_cons_succ, hget], hm⟩
    cases entry with
    | none => exact hlater h
    | some first =>
      rw [position?] at h
      split at h
      · next hm =>
        cases h
        exact ⟨Nat.le_refl _, by simp, hm⟩
      · exact hlater h

theorem position?_eq_none (h : ∀ a, some a ∈ entries → a.mnemonic ≠ mnemonic) :
    position? mnemonic entries start = none := by
  induction entries generalizing start with
  | nil => rfl
  | cons entry entries ih =>
    have hrest : position? mnemonic entries (start + 1) = none :=
      ih fun a ha ↦ h a (List.mem_cons_of_mem _ ha)
    cases entry with
    | none => exact hrest
    | some first => rw [position?, if_neg (h first List.mem_cons_self), hrest]

theorem position?_mnemonic (hd : entries.Pairwise mnemonicsDiffer)
    (h : entries[code]? = some (some opcode)) :
    position? opcode.mnemonic entries start = some (start + code, opcode) := by
  induction entries generalizing start code with
  | nil => simp at h
  | cons entry entries ih =>
    obtain ⟨hfirst, hd⟩ := List.pairwise_cons.1 hd
    cases code with
    | zero =>
      obtain rfl : entry = some opcode := by simpa using h
      simp [position?]
    | succ code =>
      rw [List.getElem?_cons_succ] at h
      have hrest : position? opcode.mnemonic entries (start + 1)
          = some (start + 1 + code, opcode) := ih hd h
      rw [Nat.add_right_comm, Nat.add_assoc] at hrest
      cases entry with
      | none => exact hrest
      | some first =>
        have hne := hfirst (some opcode) (List.mem_of_getElem? h) first rfl opcode rfl
        rw [position?, if_neg hne, hrest]

theorem IsEntry.codeBytes_eq {mark code : UInt8} (h : IsEntry mark code opcode) :
    mark = 0 ∧ code ≠ pageMark ∧ codeBytes mark code = [code] ∨
      mark = pageMark ∧ codeBytes mark code = [pageMark, code] := by
  obtain rfl | rfl := h.mark_eq
  · exact .inl ⟨rfl, h.code_ne rfl, rfl⟩
  · exact .inr ⟨rfl, rfl⟩

/-- Looking a mnemonic up finds the one place it stands at. -/
theorem lookup_eq_some_iff {mark code : UInt8} :
    lookup mnemonic = some (mark, code, opcode) ↔
      IsEntry mark code opcode ∧ opcode.mnemonic = mnemonic := by
  obtain ⟨hfirst, hsecond, hacross⟩ := List.pairwise_append.1 pairwise_mnemonicsDiffer
  constructor
  · intro h
    rw [lookup] at h
    split at h
    · next n entry hn =>
      cases h
      obtain ⟨_, hget, hm⟩ := position?_eq_some hn
      rw [Nat.sub_zero] at hget
      have hlt := (List.getElem?_eq_some_iff.1 hget).1
      rw [length_firstPage] at hlt
      have hcode : (UInt8.ofNat n).toNat = n := UInt8.toNat_ofNat_of_lt' (show n < 0x100 by omega)
      refine ⟨⟨.inl rfl, fun _ hmark ↦ ?_, hcode.symm ▸ hget⟩, hm⟩
      have := congrArg UInt8.toNat hmark
      rw [hcode, show pageMark.toNat = 0xFE from rfl] at this
      omega
    · obtain ⟨⟨n, entry⟩, hn, h⟩ := Option.map_eq_some_iff.1 h
      cases h
      obtain ⟨_, hget, hm⟩ := position?_eq_some hn
      rw [Nat.sub_zero] at hget
      have hlt := (List.getElem?_eq_some_iff.1 hget).1
      rw [length_secondPage] at hlt
      have hcode : (UInt8.ofNat n).toNat = n := UInt8.toNat_ofNat_of_lt' (show n < 0x100 by omega)
      exact ⟨⟨.inr rfl, fun hmark ↦ absurd hmark pageMark_ne_zero, hcode.symm ▸ hget⟩, hm⟩
  · rintro ⟨⟨rfl | rfl, hcode, hget⟩, rfl⟩
    · have hn : position? opcode.mnemonic firstPage 0 = some (0 + code.toNat, opcode) :=
        position?_mnemonic hfirst hget
      simp [lookup, hn]
    · have hn : position? opcode.mnemonic secondPage 0 = some (0 + code.toNat, opcode) :=
        position?_mnemonic hsecond hget
      have hnone : position? opcode.mnemonic firstPage 0 = none :=
        position?_eq_none fun a ha ↦ hacross _ ha _ (List.mem_of_getElem? hget) a rfl opcode rfl
      simp [lookup, hnone, hn]

end CliMetadata.Opcode
